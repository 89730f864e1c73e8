import GoldenSuite.Utility.Regular

set_option autoImplicit false

namespace GoldenSuite.Utility

open Text (Octets)

abbrev Marked := List (Bool × Char)

namespace Marked

def text (marked : Marked) : Octets := marked.map (·.2)

def ofText (octets : Octets) : Marked := octets.map fun c => (false, c)

def isPattern (marked : Marked) : Bool :=
  marked.any fun (isQuoted, c) => !isQuoted && "*?[".toList.contains c

end Marked

inductive Wildcard where
  | octet (c : Char)
  | any
  | run
  | oneOf (holds : Char → Bool)

namespace Wildcard

def class? (rest : Marked) : Option ((Char → Bool) × Marked) :=
  match rest with
  | (false, ':') :: inner =>
      let name := inner.takeWhile fun (_, c) => c ≠ ':'
      match inner.drop name.length with
      | (_, ':') :: (_, ']') :: after =>
          (classOf? (String.ofList (Marked.text name))).map fun holds => (holds, after)
      | _ => none
  | _ => none

def octetAt? : Marked → Option (Char × Marked)
  | (false, '\\') :: (_, c) :: rest => some (c, rest)
  | (_, c) :: rest => some (c, rest)
  | [] => none

def members : Nat → Bool → Marked → Option (List (Char → Bool) × Marked)
  | 0, _, _ => none
  | fuel + 1, isFirst, rest => do
      match rest with
      | [] => none
      | (isQuoted, c) :: after =>
          if !isQuoted && c = ']' && !isFirst then return ([], after)
          match (if !isQuoted && c = '[' then class? after else none) with
          | some (holds, after) =>
              let (more, after) ← members fuel false after
              return (holds :: more, after)
          | none =>
              let (low, after) ← octetAt? rest
              let range := match after with
                | (false, '-') :: next :: more => if next = (false, ']') then none else some (next :: more)
                | _ => none
              match range with
              | some next =>
                  let (high, after) ← octetAt? next
                  let (more, after) ← members fuel false after
                  return ((fun c => low ≤ c && c ≤ high) :: more, after)
              | none =>
                  let (more, after) ← members fuel false after
                  return ((· == low) :: more, after)

def set? (rest : Marked) : Option (Wildcard × Marked) := do
  let isNegated := rest.head? = some (false, '!')
  let (tests, after) ← members (rest.length + 1) true (if isNegated then rest.tail else rest)
  return (.oneOf fun c => tests.any (· c) != isNegated, after)

def parseFrom : Nat → Marked → List Wildcard
  | 0, _ | _, [] => []
  | fuel + 1, (isQuoted, c) :: rest =>
      if isQuoted then .octet c :: parseFrom fuel rest
      else match c with
        | '*' => .run :: parseFrom fuel rest
        | '?' => .any :: parseFrom fuel rest
        | '[' =>
            match set? rest with
            | some (set, after) => set :: parseFrom fuel after
            | none => .octet c :: parseFrom fuel rest
        | '\\' =>
            match rest with
            | (_, next) :: after => .octet next :: parseFrom fuel after
            | [] => [.octet c]
        | _ => .octet c :: parseFrom fuel rest

def parse (marked : Marked) : List Wildcard := parseFrom marked.length marked

def endings : Octets → List Octets
  | [] => [[]]
  | c :: rest => (c :: rest) :: endings rest

def accepts : Wildcard → Char → Bool
  | .octet wanted, c => wanted = c
  | .any, _ => true
  | .oneOf holds, c => holds c
  | .run, _ => false

def step (left : List Octets) (part : Wildcard) : List Octets :=
  match part, left with
  | .run, longest :: _ => endings longest
  | .run, [] => []
  | part, left =>
      left.filterMap fun
        | c :: rest => if part.accepts c then some rest else none
        | [] => none

def isMatch (pattern : List Wildcard) (octets : Octets) : Bool :=
  (pattern.foldl step [octets]).any List.isEmpty

end Wildcard

end GoldenSuite.Utility
