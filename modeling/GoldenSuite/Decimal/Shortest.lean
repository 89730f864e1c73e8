import GoldenSuite.Decimal.Binary64

/-!
The shortest decimal that reads back as a floating-point number: of the decimals with the fewest
digits among those that round to the number, the nearest to it.
-/

set_option autoImplicit false

namespace GoldenSuite

structure Decimal where
  digits : Nat
  exponent : Int
  deriving DecidableEq, Repr

namespace Decimal

def scaled (num den : Nat) (exponent : Int) : Nat × Nat :=
  if 0 ≤ exponent then (num, den * Nat.pow 10 exponent.toNat)
  else (num * Nat.pow 10 (-exponent).toNat, den)

def digitCount (n : Nat) : Nat := (Nat.toDigits 10 n).length

def leadExponent (num den : Nat) : Int :=
  if den ≤ num then (digitCount (num / den) : Int) - 1
  else
    let guess : Int := (digitCount num : Int) - (digitCount den : Int)
    let (n, d) := scaled num den guess
    if d ≤ n then guess else guess - 1

def neighbours (num den : Nat) (exponent : Int) : List Decimal :=
  let (n, d) := scaled num den exponent
  let below : Decimal := ⟨n / d, exponent⟩
  let above : Decimal := ⟨n / d + 1, exponent⟩
  if 2 * (n % d) ≤ d then [below, above] else [above, below]

def roundsTo (x : Binary64) (candidate : Decimal) : Bool :=
  let (num, den) := if 0 ≤ candidate.exponent then
      (candidate.digits * Nat.pow 10 candidate.exponent.toNat, 1)
    else (candidate.digits, Nat.pow 10 (-candidate.exponent).toNat)
  Binary64.nearest? num den == some x

def shortestFrom (x : Binary64) (count : Nat) : Nat → Decimal
  | 0 => ⟨0, 0⟩
  | more + 1 =>
      let (num, den) := x.ratio
      let exponent := leadExponent num den - ((count : Int) - 1)
      match (neighbours num den exponent).find? (roundsTo x) with
      | some found => found
      | none => shortestFrom x (count + 1) more

def shortest (x : Binary64) : Decimal :=
  if x.isZero then ⟨0, 0⟩ else shortestFrom x 1 17

def dropZeros (fuel : Nat) (x : Decimal) : Decimal :=
  match fuel with
  | 0 => x
  | fuel + 1 =>
      if x.digits ≠ 0 ∧ x.digits % 10 = 0 then dropZeros fuel ⟨x.digits / 10, x.exponent + 1⟩ else x

def text (x : Decimal) : String :=
  let plain := dropZeros 20 x
  let digits := Nat.toDigits 10 plain.digits
  let lead : Int := plain.exponent + digits.length - 1
  if plain.digits = 0 then "0.0"
  else if 0 ≤ plain.exponent ∧ lead < 16 then
    String.ofList (digits ++ List.replicate plain.exponent.toNat '0' ++ ['.', '0'])
  else if 0 ≤ lead ∧ lead < 16 then
    String.ofList (digits.take (lead.toNat + 1) ++ '.' :: digits.drop (lead.toNat + 1))
  else if -5 ≤ lead ∧ lead < 0 then
    String.ofList ("0.".toList ++ List.replicate (-lead - 1).toNat '0' ++ digits)
  else
    let mantissa := match digits with
      | [digit] => [digit]
      | digit :: rest => digit :: '.' :: rest
      | [] => []
    String.ofList
      (mantissa ++ 'e' :: (if lead < 0 then '-' else '+') :: Nat.toDigits 10 lead.natAbs)

end Decimal

end GoldenSuite
