/-!
Edit scripts between two lists. The script follows a table of the lengths of longest common
subsequences, so it keeps as many elements as any script can; it takes every equal pair it meets and
otherwise deletes before it inserts.
-/

set_option autoImplicit false

namespace GoldenSuite.Diff

variable {α : Type} [DecidableEq α]

/-- The row of the table for a list that starts with `x`, given the row for the list after it. A row
has an entry for each ending of the other list, the longest first. -/
def lcsRow (x : α) : List α → List Nat → List Nat
  | [], _ => [0]
  | y :: ys, below =>
      let right := lcsRow x ys below.tail
      let corner := if x = y then below.tail.headD 0 + 1 else max (below.headD 0) (right.headD 0)
      corner :: right

def lcsRows : List α → List α → List (List Nat)
  | [], new => [List.replicate (new.length + 1) 0]
  | x :: old, new =>
      let below := lcsRows old new
      lcsRow x new (below.headD []) :: below

def corner (rows : List (List Nat)) : Nat := (rows.headD []).headD 0

inductive Edit (α : Type) where
  | keep (line : α)
  | delete (line : α)
  | insert (line : α)
  deriving DecidableEq, Repr

def edits : List (List Nat) → List α → List α → List (Edit α)
  | _, [], new => new.map .insert
  | _, x :: old, [] => (x :: old).map .delete
  | rows, x :: old, y :: new =>
      let down := rows.tail
      let right := rows.map List.tail
      if x = y then .keep x :: edits (down.map List.tail) old new
      else if corner right ≤ corner down then .delete x :: edits down old (y :: new)
      else .insert y :: edits right (x :: old) new
  termination_by _ old new => old.length + new.length

inductive Run (α : Type) where
  | same (lines : List α)
  | change (deleted inserted : List α)
  deriving DecidableEq, Repr

namespace Run

def old : Run α → List α
  | same lines => lines
  | change deleted _ => deleted

def new : Run α → List α
  | same lines => lines
  | change _ inserted => inserted

def isSame : Run α → Bool
  | same _ => true
  | change _ _ => false

end Run

def consEdit : Edit α → List (Run α) → List (Run α)
  | .keep x, .same lines :: runs => .same (x :: lines) :: runs
  | .keep x, runs => .same [x] :: runs
  | .delete x, .change deleted inserted :: runs => .change (x :: deleted) inserted :: runs
  | .delete x, runs => .change [x] [] :: runs
  | .insert y, .change deleted inserted :: runs => .change deleted (y :: inserted) :: runs
  | .insert y, runs => .change [] [y] :: runs

def script (old new : List α) : List (Run α) :=
  (edits (lcsRows old new) old new).foldr consEdit []

end GoldenSuite.Diff
