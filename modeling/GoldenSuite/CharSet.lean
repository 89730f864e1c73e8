set_option autoImplicit false

namespace GoldenSuite

structure CharRange where
  low : Nat
  high : Nat
  deriving DecidableEq, Repr

/-- A set of characters. Its ranges are in order, and no two of them overlap or touch. -/
structure CharSet where
  ranges : List CharRange
  deriving DecidableEq, Repr

namespace CharRange

def contains (range : CharRange) (code : Nat) : Bool := range.low ≤ code && code ≤ range.high

def last : Nat := 0x10FFFF

def next (code : Nat) : Nat := if code = 0xD7FF then 0xE000 else code + 1

def previous (code : Nat) : Nat := if code = 0xE000 then 0xD7FF else code - 1

def spanning (first second : Nat) : CharRange := ⟨min first second, max first second⟩

def meet? (left right : CharRange) : Option CharRange :=
  let low := max left.low right.low
  let high := min left.high right.high
  if low ≤ high then some ⟨low, high⟩ else none

def without (range hole : CharRange) : List CharRange :=
  if (range.meet? hole).isNone then [range]
  else
    (if range.low < hole.low then [⟨range.low, previous hole.low⟩] else [])
      ++ (if hole.high < range.high then [⟨next hole.high, range.high⟩] else [])

def coalesce : CharRange → List CharRange → List CharRange
  | range, [] => [range]
  | range, following :: rest =>
      if following.low ≤ range.high + 1 then
        coalesce ⟨range.low, max range.high following.high⟩ rest
      else range :: coalesce following rest

/-- What lies between ranges in order, from the first on to the last character. Two ranges that
only the surrogates part have the characters on either side of these between them. -/
def gapsAfter : CharRange → List CharRange → List CharRange
  | range, [] => if range.high < last then [⟨next range.high, last⟩] else []
  | range, following :: rest =>
      spanning (next range.high) (previous following.low) :: gapsAfter following rest

end CharRange

namespace CharSet

def empty : CharSet := ⟨[]⟩

def all : CharSet := ⟨[⟨0, CharRange.last⟩]⟩

def ofRange (low high : Nat) : CharSet := ⟨[⟨low, high⟩]⟩

def single (c : Char) : CharSet := ofRange c.toNat c.toNat

def ofRanges (ranges : List CharRange) : CharSet :=
  match ranges.mergeSort (fun left right => left.low ≤ right.low) with
  | [] => empty
  | first :: rest => ⟨CharRange.coalesce first rest⟩

def ofCodes (codes : List Nat) : CharSet := ofRanges (codes.map fun code => ⟨code, code⟩)

def contains (set : CharSet) (c : Char) : Bool :=
  (set.ranges.find? fun range => c.toNat ≤ range.high).any fun range => range.low ≤ c.toNat

instance : Union CharSet where
  union left right := ofRanges (left.ranges ++ right.ranges)

instance : Inter CharSet where
  inter left right := ⟨left.ranges.flatMap fun range => right.ranges.filterMap range.meet?⟩

instance : SDiff CharSet where
  sdiff left right :=
    ⟨right.ranges.foldl (fun ranges hole => ranges.flatMap (·.without hole)) left.ranges⟩

def exclusive (left right : CharSet) : CharSet := (left ∪ right) \ (left ∩ right)

def complement (set : CharSet) : CharSet :=
  match set.ranges with
  | [] => all
  | first :: rest =>
      ⟨(if 0 < first.low then [⟨0, CharRange.previous first.low⟩] else [])
        ++ CharRange.gapsAfter first rest⟩

def unions (sets : List CharSet) : CharSet := ofRanges (sets.flatMap (·.ranges))

def onlyChar? (set : CharSet) : Option Char :=
  match set.ranges with
  | [range] => if range.low = range.high then some (Char.ofNat range.low) else none
  | _ => none

def isAscii (set : CharSet) : Bool := set.ranges.all fun range => range.high < 0x80

-- Tables

def hexValue (digits : String) : Nat :=
  digits.foldl (fun value c =>
    value * 16 + (if c.isDigit then c.toNat - '0'.toNat else c.toNat - 'A'.toNat + 10)) 0

def readRange (written : String) : CharRange :=
  match written.splitOn "-" with
  | [low, high] => ⟨hexValue low, hexValue high⟩
  | _ => ⟨hexValue written, hexValue written⟩

def ofTable (table : List String) : CharSet :=
  ofRanges (table.flatMap fun line => (line.splitOn " ").map readRange)

end CharSet

end GoldenSuite
