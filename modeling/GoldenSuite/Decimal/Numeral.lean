import GoldenSuite.Decimal.Places

set_option autoImplicit false

namespace GoldenSuite

namespace Numeral

def isSpace (c : Char) : Bool := " \t\n\x0b\x0c\x0d".toList.contains c

def digit? (base : Nat) (c : Char) : Option Nat :=
  let value :=
    if c.isDigit then c.toNat - '0'.toNat
    else if c.isAlpha then c.toLower.toNat - 'a'.toNat + 10
    else base
  if value < base then some value else none

def valueOf (base : Nat) (digits : List Char) : Nat :=
  digits.foldl (fun value c => value * base + (digit? base c).getD 0) 0

def signed (text : List Char) : Bool × List Char :=
  match text.dropWhile isSpace with
  | '-' :: rest => (true, rest)
  | '+' :: rest => (false, rest)
  | rest => (false, rest)

def based (text : List Char) : Nat × List Char :=
  match text with
  | '0' :: x :: c :: rest =>
      if (x = 'x' || x = 'X') && (digit? 16 c).isSome then (16, c :: rest) else (8, text)
  | '0' :: _ => (8, text)
  | _ => (10, text)

def whole? (text : List Char) : Option (Bool × Nat × List Char) :=
  let (isNegative, body) := signed text
  let (base, body) := based body
  let digits := body.takeWhile fun c => (digit? base c).isSome
  if digits.isEmpty then none else some (isNegative, valueOf base digits, body.drop digits.length)

inductive Size where
  | finite (num den : Nat)
  | infinite
  | undefined
  deriving DecidableEq, Repr

def power (letter : Char) (text : List Char) : Int × List Char :=
  match text with
  | c :: rest =>
      if c.toLower = letter then
        let (isNegative, digits) := match rest with
          | '-' :: more => (true, more)
          | '+' :: more => (false, more)
          | _ => (false, rest)
        let found := digits.takeWhile Char.isDigit
        if found.isEmpty then (0, text)
        else
          let size : Int := min (valueOf 10 found) 5000
          (if isNegative then -size else size, digits.drop found.length)
      else (0, text)
  | [] => (0, text)

def real? (base root : Nat) (letter : Char) (text : List Char) : Option (Nat × Nat × List Char) :=
  let isDigit (c : Char) : Bool := (digit? base c).isSome
  let front := text.takeWhile isDigit
  let afterFront := text.drop front.length
  let (places, rest) := match afterFront with
    | '.' :: more => (more.takeWhile isDigit, more.dropWhile isDigit)
    | _ => ([], afterFront)
  if front.isEmpty && places.isEmpty then none
  else
    let (exponent, rest) := power letter rest
    let size := valueOf base (front ++ places)
    some (size * Nat.pow root exponent.toNat,
      Nat.pow base places.length * Nat.pow root (-exponent).toNat, rest)

def startsWithWord (word : String) (text : List Char) : Bool :=
  word.toList.isPrefixOf (text.map Char.toLower)

def size? (text : List Char) : Option (Bool × Size × List Char) :=
  let (isNegative, body) := signed text
  if startsWithWord "infinity" body then some (isNegative, .infinite, body.drop 8)
  else if startsWithWord "inf" body then some (isNegative, .infinite, body.drop 3)
  else if startsWithWord "nan" body then some (isNegative, .undefined, body.drop 3)
  else
    let hexadecimal := match body with
      | '0' :: x :: rest => if x = 'x' || x = 'X' then real? 16 2 'p' rest else none
      | _ => none
    (hexadecimal.orElse fun _ => real? 10 10 'e' body).map fun (num, den, rest) =>
      (isNegative, .finite num den, rest)

end Numeral

end GoldenSuite
