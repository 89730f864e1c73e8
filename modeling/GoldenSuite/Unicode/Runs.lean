import GoldenSuite.CharSet

set_option autoImplicit false

namespace GoldenSuite.Unicode

abbrev WrittenRun := List Char × Nat

def readCharacter (runs : List WrittenRun) (c : Char) : List WrittenRun :=
  match runs with
  | (value, length) :: rest =>
      if c.isDigit then (value, length * 10 + (c.toNat - '0'.toNat)) :: rest
      else if c.isUpper then ([c], 0) :: runs
      else (c :: value, length) :: rest
  | [] => [([c], 0)]

def readRuns (table : List String) : List (String × Nat) :=
  let written := table.foldl (fun runs part => part.toList.foldl readCharacter runs) []
  written.reverse.map fun (value, length) => (String.ofList value.reverse, max length 1)

def rangesWhere {α : Type} (isMeant : α → Bool) : Nat → List (α × Nat) → List CharRange
  | _, [] => []
  | start, (value, length) :: runs =>
      let rest := rangesWhere isMeant (start + length) runs
      if isMeant value then ⟨start, start + length - 1⟩ :: rest else rest

def setWhere {α : Type} (runs : List (α × Nat)) (isMeant : α → Bool) : CharSet :=
  .ofRanges (rangesWhere isMeant 0 runs)

end GoldenSuite.Unicode
