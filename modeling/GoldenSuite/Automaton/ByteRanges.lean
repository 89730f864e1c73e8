import GoldenSuite.CharSet

set_option autoImplicit false

namespace GoldenSuite

structure ByteRange where
  low : Nat
  high : Nat
  deriving DecidableEq, Repr, Hashable

abbrev ByteRanges := List ByteRange

namespace ByteRanges

def bytesOf (code : Nat) : List Nat := (String.utf8EncodeChar (Char.ofNat code)).map (·.toNat)

def encode (low high : Nat) : ByteRanges :=
  List.zipWith (fun low high => ⟨low, high⟩) (bytesOf low) (bytesOf high)

def lengthCut? (low high : Nat) : Option Nat :=
  [0x7F, 0x7FF, 0xFFFF].find? fun last => low ≤ last && last < high

def alignmentCut? (low high : Nat) : Option Nat :=
  [64, 64 * 64, 64 * 64 * 64].findSome? fun block =>
    if low / block = high / block then none
    else if low % block ≠ 0 then some (low / block * block + (block - 1))
    else if high % block ≠ block - 1 then some (high / block * block - 1)
    else none

/-- The parts of a range in order. Every cut takes one of a dozen kinds at most once. -/
def parts : Nat → Nat → Nat → List ByteRanges
  | 0, _, _ => []
  | fuel + 1, low, high =>
      if high < low then []
      else if low < 0xE000 && 0xD7FF < high then
        parts fuel low 0xD7FF ++ parts fuel 0xE000 high
      else
        match (lengthCut? low high).or (if high < 0x80 then none else alignmentCut? low high) with
        | some last => parts fuel low last ++ parts fuel (last + 1) high
        | none => [encode low high]

def ofSet (set : CharSet) : List ByteRanges :=
  set.ranges.flatMap fun range => parts 24 range.low range.high

end ByteRanges

end GoldenSuite
