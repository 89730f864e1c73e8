import GoldenSuite.Diff.EditScript

set_option autoImplicit false

namespace GoldenSuite.Diff

variable {α : Type}

structure Placed (α : Type) where
  oldAt : Nat
  newAt : Nat
  run : Run α
  deriving DecidableEq, Repr

def place : Nat → Nat → List (Run α) → List (Placed α)
  | _, _, [] => []
  | oldAt, newAt, run :: runs =>
      ⟨oldAt, newAt, run⟩ :: place (oldAt + run.old.length) (newAt + run.new.length) runs

namespace Placed

def takeFirst (count : Nat) (placed : Placed α) : Placed α :=
  match placed.run with
  | .same lines => { placed with run := .same (lines.take count) }
  | .change _ _ => placed

def takeLast (count : Nat) (placed : Placed α) : Placed α :=
  match placed.run with
  | .same lines =>
      let dropped := lines.length - count
      ⟨placed.oldAt + dropped, placed.newAt + dropped, .same (lines.drop dropped)⟩
  | .change _ _ => placed

def isGap (context : Nat) (placed : Placed α) : Bool :=
  match placed.run with
  | .same lines => 2 * context < lines.length
  | .change _ _ => false

end Placed

abbrev Hunk (α : Type) := List (Placed α)

def consHunk (run : Placed α) : List (Hunk α) → List (Hunk α)
  | [] => [[run]]
  | hunk :: hunks => (run :: hunk) :: hunks

def splitAtGaps (context : Nat) : List (Placed α) → List (Hunk α)
  | [] => []
  | run :: runs =>
      let hunks := splitAtGaps context runs
      if run.isGap context then
        [run.takeFirst context] :: consHunk (run.takeLast context) hunks
      else consHunk run hunks

def mapFirst (f : Placed α → Placed α) : List (Placed α) → List (Placed α)
  | [] => []
  | run :: runs => f run :: runs

def mapLast (f : Placed α → Placed α) : List (Placed α) → List (Placed α)
  | [] => []
  | [run] => [f run]
  | run :: runs => run :: mapLast f runs

def hunks (context : Nat) (runs : List (Run α)) : List (Hunk α) :=
  if runs.all Run.isSame then []
  else
    splitAtGaps context <|
      mapLast (Placed.takeFirst context) <| mapFirst (Placed.takeLast context) <| place 0 0 runs

namespace Hunk

def old (hunk : Hunk α) : List α := hunk.flatMap fun placed => placed.run.old

def new (hunk : Hunk α) : List α := hunk.flatMap fun placed => placed.run.new

def oldStart (hunk : Hunk α) : Nat := (hunk.head?.map Placed.oldAt).getD 0

def newStart (hunk : Hunk α) : Nat := (hunk.head?.map Placed.newAt).getD 0

end Hunk

end GoldenSuite.Diff
