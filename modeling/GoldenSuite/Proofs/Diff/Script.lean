import GoldenSuite.Diff.EditScript
import Mathlib.Tactic.SplitIfs

set_option autoImplicit false

namespace GoldenSuite.Diff

variable {α : Type}

namespace Edit

def old : Edit α → List α
  | keep line => [line]
  | delete line => [line]
  | insert _ => []

def new : Edit α → List α
  | keep line => [line]
  | delete _ => []
  | insert line => [line]

end Edit

theorem flatMap_sides_consEdit (edit : Edit α) (runs : List (Run α)) :
    (consEdit edit runs).flatMap Run.old = edit.old ++ runs.flatMap Run.old ∧
      (consEdit edit runs).flatMap Run.new = edit.new ++ runs.flatMap Run.new := by
  rcases edit with line | line | line <;>
    rcases runs with _ | ⟨lines | ⟨deleted, inserted⟩, runs⟩ <;>
      simp [consEdit, Edit.old, Edit.new, Run.old, Run.new]

theorem flatMap_sides_foldr_consEdit (changes : List (Edit α)) :
    (changes.foldr consEdit []).flatMap Run.old = changes.flatMap Edit.old ∧
      (changes.foldr consEdit []).flatMap Run.new = changes.flatMap Edit.new := by
  induction changes with
  | nil => simp
  | cons edit changes ih =>
    obtain ⟨old, new⟩ := flatMap_sides_consEdit edit (changes.foldr consEdit [])
    simp only [List.foldr_cons, List.flatMap_cons, old, new, ih.1, ih.2, and_self]

theorem flatMap_old_eq_new {runs : List (Run α)} (same : runs.all Run.isSame = true) :
    runs.flatMap Run.old = runs.flatMap Run.new := by
  induction runs with
  | nil => rfl
  | cons run runs ih =>
    simp only [List.all_cons, Bool.and_eq_true] at same
    cases run with
    | same lines => simp [Run.old, Run.new, ih same.2]
    | change deleted inserted => simp [Run.isSame] at same

variable [DecidableEq α]

theorem flatMap_sides_edits (rows : List (List Nat)) (old new : List α) :
    (edits rows old new).flatMap Edit.old = old ∧ (edits rows old new).flatMap Edit.new = new := by
  induction old generalizing rows new with
  | nil => simp [edits, List.flatMap_map, Edit.old, Edit.new]
  | cons x old deleted =>
    induction new generalizing rows with
    | nil => simp [edits, List.flatMap_map, Edit.old, Edit.new]
    | cons y new inserted =>
      rw [edits]
      split_ifs with same less
      next => simp [Edit.old, Edit.new, same, deleted]
      next => simp [Edit.old, Edit.new, deleted]
      next => simp [Edit.old, Edit.new, inserted]

theorem flatMap_sides_script (old new : List α) :
    (script old new).flatMap Run.old = old ∧ (script old new).flatMap Run.new = new := by
  obtain ⟨runsOld, runsNew⟩ := flatMap_sides_foldr_consEdit (edits (lcsRows old new) old new)
  obtain ⟨editsOld, editsNew⟩ := flatMap_sides_edits (lcsRows old new) old new
  exact ⟨runsOld.trans editsOld, runsNew.trans editsNew⟩

theorem edits_self (rows : List (List Nat)) (lines : List α) :
    edits rows lines lines = lines.map .keep := by
  induction lines generalizing rows with
  | nil => simp [edits]
  | cons line lines ih => simp [edits, ih]

omit [DecidableEq α] in
theorem all_isSame_foldr_keep (lines : List α) :
    ((lines.map Edit.keep).foldr consEdit []).all Run.isSame = true := by
  induction lines with
  | nil => rfl
  | cons line lines ih =>
    simp only [List.map_cons, List.foldr_cons]
    rcases shape : (lines.map Edit.keep).foldr consEdit [] with
      _ | ⟨kept | ⟨deleted, inserted⟩, runs⟩
    next => rfl
    next => simpa [shape, consEdit, Run.isSame] using ih
    next => simp [shape, Run.isSame] at ih

theorem all_isSame_script_iff (old new : List α) :
    (script old new).all Run.isSame = true ↔ old = new := by
  constructor
  next =>
    intro same
    obtain ⟨runsOld, runsNew⟩ := flatMap_sides_script old new
    calc
      old = (script old new).flatMap Run.old := runsOld.symm
      _ = (script old new).flatMap Run.new := flatMap_old_eq_new same
      _ = new := runsNew
  next =>
    rintro rfl
    rw [script, edits_self]
    exact all_isSame_foldr_keep old

end GoldenSuite.Diff
