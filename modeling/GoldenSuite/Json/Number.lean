import GoldenSuite.Decimal.Shortest

set_option autoImplicit false

namespace GoldenSuite.Json

inductive Number where
  | natural (n : Nat)
  | negative (size : Nat)
  | floating (isNegative : Bool) (size : Binary64)
  deriving DecidableEq, Repr

def Number.text : Number → String
  | .natural n => toString n
  | .negative size => "-" ++ toString size
  | .floating isNegative size => (if isNegative then "-" else "") ++ (Decimal.shortest size).text

structure Numeral where
  isNegative : Bool
  whole : List Char
  fraction : List Char
  exponent : Option (Bool × List Char)
  deriving DecidableEq, Repr

namespace Numeral

def digitValue (c : Char) : Nat := c.toNat - '0'.toNat

def gather (limit : Nat) (number : Nat) : List Char → Nat × List Char
  | [] => (number, [])
  | digit :: rest =>
      let next := number * 10 + digitValue digit
      if next ≤ limit then gather limit next rest else (number, digit :: rest)

def wordLimit : Nat := Nat.pow 2 64 - 1

def exponentLimit : Nat := Nat.pow 2 31 - 1

def power? (exponent : Nat) : Option Binary64 :=
  if exponent ≤ 308 then Binary64.ofNat? (Nat.pow 10 exponent) else none

/-- A number times a power of ten; nothing beyond the largest number. Below the powers at hand it is
divided in steps. -/
def scale (fuel : Nat) (x : Binary64) (exponent : Int) : Option Binary64 :=
  match power? exponent.natAbs with
  | some power => if 0 ≤ exponent then x.mul? power else x.div? power
  | none =>
      if x.isZero then some x
      else if 0 ≤ exponent then none
      else match fuel with
        | 0 => some Binary64.zero
        | fuel + 1 => do
            let step ← power? 308
            scale fuel (← x.div? step) (exponent + 308)

def floating? (numeral : Numeral) : Option Binary64 :=
  let (whole, wholeLeft) := gather wordLimit 0 numeral.whole
  let (digits, fractionLeft) := gather wordLimit whole numeral.fraction
  let shift : Int := wholeLeft.length - (numeral.fraction.length - fractionLeft.length : Nat)
  match numeral.exponent with
  | none => do scale 4 (← Binary64.ofNat? digits) shift
  | some (isNegative, written) =>
      match gather exponentLimit 0 written with
      | (size, []) => do
          scale 4 (← Binary64.ofNat? digits) (if isNegative then shift - size else shift + size)
      | _ => if digits ≠ 0 ∧ ¬isNegative then none else some Binary64.zero

def number? (numeral : Numeral) : Option Number :=
  let floating := numeral.floating?.map (Number.floating numeral.isNegative)
  if numeral.fraction ≠ [] ∨ numeral.exponent.isSome then floating
  else match gather wordLimit 0 numeral.whole with
    | (size, []) =>
        if ¬numeral.isNegative then some (.natural size)
        else if 0 < size ∧ size ≤ Nat.pow 2 63 then some (.negative size)
        else floating
    | _ => floating

end Numeral

end GoldenSuite.Json
