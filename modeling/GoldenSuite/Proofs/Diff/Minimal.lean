import GoldenSuite.Proofs.Diff.Hunk
import GoldenSuite.Proofs.Diff.Subsequence
import Mathlib.Algebra.GroupWithZero.Nat
import Mathlib.Data.List.Chain

set_option autoImplicit false

namespace GoldenSuite.Diff

variable {α : Type}

namespace Run

def Solid (run : Run α) : Prop := run.old ≠ [] ∨ run.new ≠ []

def kept : Run α → List α
  | same lines => lines
  | change _ _ => []

end Run

def Normal (runs : List (Run α)) : Prop :=
  (∀ run ∈ runs, run.Solid) ∧ runs.IsChain fun run next => run.isSame ≠ next.isSame

section Runs

-- An edit starts a run of its kind or becomes part of the first one.
theorem consEdit_cases (edit : Edit α) (runs : List (Run α)) :
    ∃ run rest, consEdit edit runs = run :: rest ∧ run.Solid ∧
      ((rest = runs ∧ ∀ next ∈ runs.head?, run.isSame ≠ next.isSame) ∨
        ∃ first, runs = first :: rest ∧ first.isSame = run.isSame) := by
  rcases edit with line | line | line <;>
    rcases runs with _ | ⟨lines | ⟨deleted, inserted⟩, runs⟩ <;>
      exact ⟨_, _, rfl, by simp [Run.Solid, Run.old, Run.new], by simp [Run.isSame]⟩

theorem normal_consEdit (edit : Edit α) {runs : List (Run α)} (normal : Normal runs) :
    Normal (consEdit edit runs) := by
  obtain ⟨solid, chain⟩ := normal
  obtain ⟨run, rest, front, runSolid, ⟨rfl, other⟩ | ⟨first, rfl, same⟩⟩ := consEdit_cases edit runs
  next =>
    rw [front]
    exact ⟨List.forall_mem_cons.2 ⟨runSolid, solid⟩, List.isChain_cons.2 ⟨other, chain⟩⟩
  next =>
    rw [front]
    obtain ⟨other, chain⟩ := List.isChain_cons.1 chain
    rw [same] at other
    exact ⟨List.forall_mem_cons.2 ⟨runSolid, (List.forall_mem_cons.1 solid).2⟩,
      List.isChain_cons.2 ⟨other, chain⟩⟩

theorem normal_foldr_consEdit (changes : List (Edit α)) : Normal (changes.foldr consEdit []) := by
  induction changes with
  | nil => exact ⟨by simp, .nil⟩
  | cons edit changes ih => exact normal_consEdit edit ih

theorem flatMap_kept_consEdit (edit : Edit α) (runs : List (Run α)) :
    (consEdit edit runs).flatMap Run.kept = edit.kept ++ runs.flatMap Run.kept := by
  rcases edit with line | line | line <;>
    rcases runs with _ | ⟨lines | ⟨deleted, inserted⟩, runs⟩ <;>
      simp [consEdit, Edit.kept, Run.kept]

theorem flatMap_kept_foldr_consEdit (changes : List (Edit α)) :
    (changes.foldr consEdit []).flatMap Run.kept = changes.flatMap Edit.kept := by
  induction changes with
  | nil => rfl
  | cons edit changes ih => rw [List.foldr_cons, flatMap_kept_consEdit, ih, List.flatMap_cons]

end Runs

namespace Placed

def oldSlice (placed : Placed α) : Slice := ⟨placed.oldAt, placed.run.old.length⟩

def newSlice (placed : Placed α) : Slice := ⟨placed.newAt, placed.run.new.length⟩

end Placed

def Tiles : Nat → Nat → List Slice → Prop
  | place, last, [] => place = last
  | place, last, slice :: slices => slice.start = place ∧ Tiles slice.stop last slices

section Placing

theorem tiles_of_laid {oldAt newAt : Nat} {runs : List (Placed α)} (laid : Laid oldAt newAt runs) :
    Tiles oldAt (oldAt + (Hunk.old runs).length) (runs.map Placed.oldSlice) ∧
      Tiles newAt (newAt + (Hunk.new runs).length) (runs.map Placed.newSlice) := by
  induction runs generalizing oldAt newAt with
  | nil => exact ⟨rfl, rfl⟩
  | cons placed runs ih =>
    obtain ⟨rfl, rfl, laid⟩ := laid
    obtain ⟨old, new⟩ := ih laid
    refine ⟨⟨rfl, ?_⟩, ⟨rfl, ?_⟩⟩
    next =>
      rw [Hunk.old_cons, List.length_append, ← Nat.add_assoc]
      exact old
    next =>
      rw [Hunk.new_cons, List.length_append, ← Nat.add_assoc]
      exact new

-- Slices count from the start of the list, so what stands before the runs goes along.
theorem shown_of_laid (oldBefore newBefore : List α) {runs : List (Placed α)}
    (laid : Laid oldBefore.length newBefore.length runs) :
    ∀ placed ∈ runs, placed.run.old = placed.oldSlice.of (oldBefore ++ Hunk.old runs) ∧
      placed.run.new = placed.newSlice.of (newBefore ++ Hunk.new runs) := by
  induction runs generalizing oldBefore newBefore with
  | nil => simp
  | cons placed runs ih =>
    obtain ⟨oldHere, newHere, laid⟩ := laid
    have later :=
      ih (oldBefore ++ placed.run.old) (newBefore ++ placed.run.new) (by simpa using laid)
    simp only [List.append_assoc] at later
    refine List.forall_mem_cons.2 ⟨⟨?_, ?_⟩, later⟩
    next => rw [Hunk.old_cons, Placed.oldSlice, oldHere, Slice.of_append]
    next => rw [Hunk.new_cons, Placed.newSlice, newHere, Slice.of_append]

end Placing

/-- The stretches take both lists from end to end, those of one kind and the other in turn, and
nothing is called the same that is not. -/
structure Covers (old new : List α) (stretches : List (Placed α)) : Prop where
  alternate : stretches.IsChain fun stretch next => stretch.run.isSame ≠ next.run.isSame
  solid : ∀ stretch ∈ stretches, 0 < stretch.oldSlice.length + stretch.newSlice.length
  oldTiled : Tiles 0 old.length (stretches.map Placed.oldSlice)
  newTiled : Tiles 0 new.length (stretches.map Placed.newSlice)
  shown : ∀ stretch ∈ stretches,
    stretch.run.old = stretch.oldSlice.of old ∧ stretch.run.new = stretch.newSlice.of new
  same : ∀ stretch ∈ stretches, stretch.run.isSame = true →
    stretch.oldSlice.length = stretch.newSlice.length ∧
      stretch.oldSlice.of old = stretch.newSlice.of new

theorem Run.old_eq_new {run : Run α} (same : run.isSame = true) : run.old = run.new := by
  cases run with
  | same lines => rfl
  | change deleted inserted => cases same

theorem map_run_place (oldAt newAt : Nat) (runs : List (Run α)) :
    (place oldAt newAt runs).map Placed.run = runs := by
  induction runs generalizing oldAt newAt with
  | nil => rfl
  | cons run runs ih => rw [place, List.map_cons, ih]

theorem covers_place {runs : List (Run α)} (normal : Normal runs) :
    Covers (runs.flatMap Run.old) (runs.flatMap Run.new) (place 0 0 runs) := by
  obtain ⟨laid, old, new⟩ := place_spec 0 0 runs
  obtain ⟨oldTiled, newTiled⟩ := tiles_of_laid laid
  have shown := shown_of_laid [] [] laid
  have among (stretch : Placed α) (member : stretch ∈ place 0 0 runs) : stretch.run ∈ runs := by
    rw [← map_run_place 0 0 runs]
    exact List.mem_map_of_mem member
  rw [old, Nat.zero_add] at oldTiled
  rw [new, Nat.zero_add] at newTiled
  rw [old, new] at shown
  refine ⟨?_, ?_, oldTiled, newTiled, shown, ?_⟩
  next =>
    have chain := normal.2
    rw [← map_run_place 0 0 runs, List.isChain_map] at chain
    exact chain
  next =>
    intro stretch member
    have solid := normal.1 stretch.run (among stretch member)
    simp only [Run.Solid, ← List.length_pos_iff] at solid
    simp only [Placed.oldSlice, Placed.newSlice]
    omega
  next =>
    intro stretch member same
    obtain ⟨shownOld, shownNew⟩ := shown stretch member
    have equal := Run.old_eq_new same
    refine ⟨congrArg List.length equal, ?_⟩
    calc
      stretch.oldSlice.of (runs.flatMap Run.old) = stretch.run.old := shownOld.symm
      _ = stretch.run.new := equal
      _ = stretch.newSlice.of (runs.flatMap Run.new) := shownNew

def keptCount (stretches : List (Placed α)) : Nat :=
  (stretches.map fun stretch => if stretch.run.isSame then stretch.oldSlice.length else 0).sum

def changedCount (stretches : List (Placed α)) : Nat :=
  (stretches.map fun stretch =>
    if stretch.run.isSame then 0 else stretch.oldSlice.length + stretch.newSlice.length).sum

section Counting

theorem keptCount_cons (stretch : Placed α) (stretches : List (Placed α)) :
    keptCount (stretch :: stretches) = stretch.run.kept.length + keptCount stretches := by
  obtain ⟨_, _, lines | ⟨deleted, inserted⟩⟩ := stretch <;> rfl

theorem changedCount_cons (stretch : Placed α) (stretches : List (Placed α)) :
    changedCount (stretch :: stretches) + 2 * stretch.run.kept.length =
      stretch.run.old.length + stretch.run.new.length + changedCount stretches := by
  obtain ⟨oldAt, newAt, lines | ⟨deleted, inserted⟩⟩ := stretch
  next =>
    change 0 + changedCount stretches + 2 * lines.length =
      lines.length + lines.length + changedCount stretches
    omega
  next => rfl

theorem keptCount_place (oldAt newAt : Nat) (runs : List (Run α)) :
    keptCount (place oldAt newAt runs) = (runs.flatMap Run.kept).length := by
  induction runs generalizing oldAt newAt with
  | nil => rfl
  | cons run runs ih => rw [place, keptCount_cons, ih, List.flatMap_cons, List.length_append]

theorem changedCount_add (stretches : List (Placed α)) :
    changedCount stretches + 2 * keptCount stretches =
      (Hunk.old stretches).length + (Hunk.new stretches).length := by
  induction stretches with
  | nil => rfl
  | cons stretch stretches ih =>
    have count := changedCount_cons stretch stretches
    rw [keptCount_cons, Hunk.old_cons, Hunk.new_cons, List.length_append, List.length_append]
    omega

def Edit.isChange : Edit α → Bool
  | keep _ => false
  | delete _ => true
  | insert _ => true

theorem countP_isChange_add (changes : List (Edit α)) :
    changes.countP Edit.isChange + 2 * (changes.flatMap Edit.kept).length =
      (changes.flatMap Edit.old).length + (changes.flatMap Edit.new).length := by
  induction changes with
  | nil => rfl
  | cons edit changes ih =>
    simp only [List.countP_cons, List.flatMap_cons, List.length_append]
    cases edit <;> simp only [Edit.isChange, Edit.kept, Edit.old, Edit.new, List.length_cons,
      List.length_nil, if_true, Bool.false_eq_true, if_false] <;> omega

theorem flatMap_kept_sublist (changes : List (Edit α)) :
    (changes.flatMap Edit.kept).Sublist (changes.flatMap Edit.old) ∧
      (changes.flatMap Edit.kept).Sublist (changes.flatMap Edit.new) := by
  induction changes with
  | nil => simp
  | cons edit changes ih =>
    cases edit <;> simp [Edit.kept, Edit.old, Edit.new, ih]

end Counting

variable [DecidableEq α]

def stretches (old new : List α) : List (Placed α) := place 0 0 (script old new)

theorem keptCount_stretches (old new : List α) :
    keptCount (stretches old new) = lcsLength old new := by
  rw [stretches, keptCount_place, script, flatMap_kept_foldr_consEdit, lcsRows_eq,
    length_kept_edits]

theorem changedCount_stretches (old new : List α) :
    changedCount (stretches old new) + 2 * keptCount (stretches old new) =
      old.length + new.length := by
  obtain ⟨-, placedOld, placedNew⟩ := place_spec 0 0 (script old new)
  obtain ⟨scriptOld, scriptNew⟩ := flatMap_sides_script old new
  rw [changedCount_add, stretches, placedOld, placedNew, scriptOld, scriptNew]

/-- An edit script is made without looking anything up that is not there, goes through both lists
from end to end, and keeps as many elements as a longest common subsequence has; so no edits between
the two lists change fewer. -/
theorem stretches_minimal (old new : List α) :
    script? old new = some (script old new) ∧ Covers old new (stretches old new) ∧
      IsGreatest {length | ∃ common : List α,
        common.Sublist old ∧ common.Sublist new ∧ common.length = length}
        (keptCount (stretches old new)) ∧
      changedCount (stretches old new) + 2 * keptCount (stretches old new) =
        old.length + new.length ∧
      ∀ changes : List (Edit α), changes.flatMap Edit.old = old →
        changes.flatMap Edit.new = new →
          changedCount (stretches old new) ≤ changes.countP Edit.isChange := by
  have kept := keptCount_stretches old new
  have changed := changedCount_stretches old new
  refine ⟨script?_eq old new, ?_, ?_, changed, ?_⟩
  next =>
    have covers := covers_place (normal_foldr_consEdit (edits (lcsRows old new) old new))
    obtain ⟨scriptOld, scriptNew⟩ := flatMap_sides_script old new
    rwa [← script, scriptOld, scriptNew] at covers
  next =>
    rw [kept]
    exact isGreatest_lcsLength old new
  next =>
    intro changes sideOld sideNew
    obtain ⟨inOld, inNew⟩ := flatMap_kept_sublist changes
    have count := countP_isChange_add changes
    rw [sideOld] at inOld count
    rw [sideNew] at inNew count
    have fewer := length_le_lcsLength inOld inNew
    omega

end GoldenSuite.Diff
