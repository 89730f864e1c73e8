import GoldenSuite.Decimal.Shortest

set_option autoImplicit false

namespace GoldenSuite.Decimal

def withPoint (places : Nat) (isKept : Bool) (value : Nat) : List Char :=
  let digits := Nat.toDigits 10 value
  let padded := List.replicate (places + 1 - digits.length) '0' ++ digits
  let whole := padded.take (padded.length - places)
  let fraction := padded.drop (padded.length - places)
  whole ++ (if places = 0 && !isKept then [] else '.' :: fraction)

def fixed (num den places : Nat) (isKept : Bool) : List Char :=
  withPoint places isKept (Binary64.divEven (num * Nat.pow 10 places) den)

def scientific (num den places : Nat) : Nat × Int :=
  if num = 0 then (0, 0)
  else
    let exponent := leadExponent num den
    let (n, d) := scaled num den (exponent - places)
    let digits := Binary64.divEven n d
    if digits = Nat.pow 10 (places + 1) then (Nat.pow 10 places, exponent + 1)
    else (digits, exponent)

def exponentText (exponent : Int) : List Char :=
  let digits := Nat.toDigits 10 exponent.natAbs
  (if exponent < 0 then '-' else '+') :: (if digits.length < 2 then '0' :: digits else digits)

def withExponent (num den places : Nat) (isKept : Bool) : List Char :=
  let (digits, exponent) := scientific num den places
  withPoint places isKept digits ++ 'e' :: exponentText exponent

def withoutZeros (text : List Char) : List Char :=
  if text.contains '.' then
    let kept := (text.reverse.dropWhile (· = '0')).reverse
    if kept.getLast? = some '.' then kept.dropLast else kept
  else text

/-- A quotient with so many digits that count, in the notation that suits its size. Zeros at the end
go unless they are kept. -/
def general (num den count : Nat) (isKept : Bool) : List Char :=
  let count := max count 1
  let (digits, exponent) := scientific num den (count - 1)
  let trim (text : List Char) : List Char := if isKept then text else withoutZeros text
  if exponent < -4 || (count : Int) ≤ exponent then
    trim (withPoint (count - 1) isKept digits) ++ 'e' :: exponentText exponent
  else trim (fixed num den ((count : Int) - 1 - exponent).toNat isKept)

def toBits (bits num den : Nat) : Nat × Nat :=
  if num = 0 then (0, 1)
  else
    let guess : Int := (num.log2 : Int) - (den.log2 : Int) - (bits - 1 : Nat)
    let (n, d) := Binary64.scaled num den guess
    let exponent := if n / d < Nat.pow 2 (bits - 1) then guess - 1 else guess
    let (n, d) := Binary64.scaled num den exponent
    let mantissa := Binary64.divEven n d
    if 0 ≤ exponent then (mantissa * Nat.pow 2 exponent.toNat, 1)
    else (mantissa, Nat.pow 2 (-exponent).toNat)

end GoldenSuite.Decimal
