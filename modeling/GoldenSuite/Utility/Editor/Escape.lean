import GoldenSuite.Utility.Editor.Script

set_option autoImplicit false

namespace GoldenSuite.Utility.Editor

open Text (Octets)

inductive Setting where
  | pattern
  | replacement
  | words
  | pairs
  deriving DecidableEq, Repr

namespace Escape

def letters : List (Char × Char) :=
  [('a', '\x07'), ('f', '\x0c'), ('n', '\n'), ('r', '\r'), ('t', '\t'), ('v', '\x0b')]

def digit? (base : Nat) (c : Char) : Option Nat :=
  let value :=
    if c.isDigit then c.toNat - '0'.toNat
    else if 'a' ≤ c.toLower && c.toLower ≤ 'f' then c.toLower.toNat - 'a'.toNat + 10
    else base
  if value < base then some value else none

def bases : List (Char × Nat × Nat) := [('d', 10, 3), ('o', 8, 3), ('x', 16, 2)]

def number? (base most : Nat) (rest : Octets) : Option (Char × Octets) :=
  match (rest.take most).map (digit? base) |>.takeWhile Option.isSome with
  | [] => none
  | digits =>
      let value := digits.foldl (fun value digit => value * base + digit.getD 0) 0
      some (Char.ofNat (value % 256), rest.drop digits.length)

def guarded (setting : Setting) (c : Char) : Octets :=
  if setting != .pattern && (c = '\\' || (c = '&' && setting = .replacement)) then ['\\', c] else [c]

def control (c : Char) : Char := Char.ofNat (c.toUpper.toNat ^^^ 0x40)

/-- The text with an octet for each escape of one. Other escapes stay. -/
def resolved (setting : Setting) : Octets → Except Slip Octets
  | [] => .ok []
  | '\\' :: 'c' :: '\\' :: '\\' :: rest => return guarded setting (control '\\') ++ (← resolved setting rest)
  | '\\' :: 'c' :: '\\' :: _ => .error .nestedEscape
  | '\\' :: 'c' :: c :: rest => return guarded setting (control c) ++ (← resolved setting rest)
  | '\\' :: c :: rest => do
      let tail ← resolved setting rest
      match letters.lookup c, bases.lookup c with
      | some octet, _ => return octet :: tail
      | none, none => return '\\' :: c :: tail
      | none, some (base, most) =>
          match number? base most rest with
          | none => return '\\' :: c :: tail
          | some (octet, after) =>
              return guarded setting octet ++ tail.drop (rest.length - after.length)
  | c :: rest => return c :: (← resolved setting rest)

def bare : Octets → Octets
  | '\\' :: c :: rest => c :: bare rest
  | c :: rest => c :: bare rest
  | [] => []

end Escape

end GoldenSuite.Utility.Editor
