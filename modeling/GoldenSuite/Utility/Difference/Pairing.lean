set_option autoImplicit false

namespace GoldenSuite.Utility

structure Alone where
  left : Array Bool
  right : Array Bool

namespace Pairing

structure Block where
  left : Int
  leftEnd : Int
  right : Int
  rightEnd : Int

structure Reach where
  low : Int
  high : Int
  places : Array Int
  least : Int

namespace Reach

def start (block : Block) (diagonal place : Int) : Reach :=
  let least := block.left - block.rightEnd
  let size := (block.leftEnd - block.right - least).toNat + 5
  let places := (Array.replicate size 0).set! (diagonal - least + 2).toNat place
  ⟨diagonal, diagonal, places, least⟩

def index (reach : Reach) (diagonal : Int) : Nat := (diagonal - reach.least + 2).toNat

def place (reach : Reach) (diagonal : Int) : Int := reach.places.getD (reach.index diagonal) 0

def put (reach : Reach) (diagonal place : Int) : Reach :=
  { reach with places := reach.places.set! (reach.index diagonal) place }

def widened (block : Block) (unreached : Int) (reach : Reach) : Reach :=
  let reach :=
    if block.left - block.rightEnd < reach.low then
      { reach.put (reach.low - 2) unreached with low := reach.low - 1 }
    else { reach with low := reach.low + 1 }
  if reach.high < block.leftEnd - block.right then
    { reach.put (reach.high + 2) unreached with high := reach.high + 1 }
  else { reach with high := reach.high - 1 }

def diagonals (reach : Reach) : List Int :=
  (List.range ((reach.high - reach.low) / 2 + 1).toNat).map fun (count : Nat) =>
    reach.high - 2 * (count : Int)

def covers (reach : Reach) (diagonal : Int) : Bool := reach.low ≤ diagonal && diagonal ≤ reach.high

end Reach

def forwards (isPair : Int → Int → Bool) (block : Block) : Nat → Int → Int → Int
  | 0, left, _ => left
  | fuel + 1, left, right =>
      if left < block.leftEnd && right < block.rightEnd && isPair left right
      then forwards isPair block fuel (left + 1) (right + 1) else left

def backwards (isPair : Int → Int → Bool) (block : Block) : Nat → Int → Int → Int
  | 0, left, _ => left
  | fuel + 1, left, right =>
      if block.left < left && block.right < right && isPair (left - 1) (right - 1)
      then backwards isPair block fuel (left - 1) (right - 1) else left

def Block.size (block : Block) : Nat :=
  (block.leftEnd - block.left).toNat + (block.rightEnd - block.right).toNat

def Block.beyond (block : Block) : Int := block.leftEnd + block.rightEnd + 1

def advance (isPair : Int → Int → Bool) (block : Block) (meets : Int → Int → Bool) :
    List Int → Reach → Reach × Option Int
  | [], reach => (reach, none)
  | diagonal :: rest, reach =>
      let lower := reach.place (diagonal - 1)
      let upper := reach.place (diagonal + 1)
      let first := if lower < upper then upper else lower + 1
      let left := forwards isPair block block.size first (first - diagonal)
      let reach := reach.put diagonal left
      if meets diagonal left then (reach, some diagonal)
      else advance isPair block meets rest reach

def retreat (isPair : Int → Int → Bool) (block : Block) (meets : Int → Int → Bool) :
    List Int → Reach → Reach × Option Int
  | [], reach => (reach, none)
  | diagonal :: rest, reach =>
      let lower := reach.place (diagonal - 1)
      let upper := reach.place (diagonal + 1)
      let first := if lower < upper then lower else upper - 1
      let left := backwards isPair block block.size first (first - diagonal)
      let reach := reach.put diagonal left
      if meets diagonal left then (reach, some diagonal)
      else retreat isPair block meets rest reach

def meeting (isPair : Int → Int → Bool) (block : Block) (isOdd : Bool) :
    Nat → Reach → Reach → Int × Int
  | 0, _, _ => (block.left, block.right)
  | fuel + 1, front, back =>
      let front := front.widened block (-1)
      let (front, met) := advance isPair block
        (fun diagonal left => isOdd && back.covers diagonal && back.place diagonal ≤ left)
        front.diagonals front
      match met with
      | some diagonal => (front.place diagonal, front.place diagonal - diagonal)
      | none =>
          let back := back.widened block block.beyond
          let (back, met) := retreat isPair block
            (fun diagonal left => !isOdd && front.covers diagonal && left ≤ front.place diagonal)
            back.diagonals back
          match met with
          | some diagonal => (back.place diagonal, back.place diagonal - diagonal)
          | none => meeting isPair block isOdd fuel front back

def middle (isPair : Int → Int → Bool) (block : Block) : Int × Int :=
  let front := block.left - block.right
  let back := block.leftEnd - block.rightEnd
  meeting isPair block ((front - back) % 2 ≠ 0) (block.size + 2) (.start block front block.left)
    (.start block back block.leftEnd)

def Block.trimmed (isPair : Int → Int → Bool) (block : Block) : Block :=
  let left := forwards isPair block block.size block.left block.right
  let block := { block with left, right := block.right + (left - block.left) }
  let leftEnd := backwards isPair block block.size block.leftEnd block.rightEnd
  { block with leftEnd, rightEnd := block.rightEnd - (block.leftEnd - leftEnd) }

def mark (marks : Array Bool) (first last : Int) : Array Bool :=
  (List.range (last - first).toNat).foldl (fun marks step => marks.set! (first.toNat + step) true)
    marks

def pair (isPair : Int → Int → Bool) : Nat → Block → Alone → Alone
  | 0, _, alone => alone
  | fuel + 1, block, alone =>
      let block := block.trimmed isPair
      if block.left = block.leftEnd then
        { alone with right := mark alone.right block.right block.rightEnd }
      else if block.right = block.rightEnd then
        { alone with left := mark alone.left block.left block.leftEnd }
      else
        let (left, right) := middle isPair block
        pair isPair fuel { block with left, right }
          (pair isPair fuel { block with leftEnd := left, rightEnd := right } alone)

end Pairing

def Alone.of (left right : Array Nat) : Alone :=
  let isPair (i j : Int) : Bool := left.getD i.toNat 0 = right.getD j.toNat 0
  Pairing.pair isPair (left.size + right.size + 1) ⟨0, left.size, 0, right.size⟩
    ⟨.replicate left.size false, .replicate right.size false⟩

end GoldenSuite.Utility
