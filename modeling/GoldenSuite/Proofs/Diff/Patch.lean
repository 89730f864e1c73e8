import GoldenSuite.Proofs.Diff.Script

set_option autoImplicit false

namespace GoldenSuite.Diff

variable {α : Type}

structure Slice where
  start : Nat
  length : Nat
  deriving DecidableEq, Repr

namespace Slice

def stop (slice : Slice) : Nat := slice.start + slice.length

def of (slice : Slice) (lines : List α) : List α := (lines.drop slice.start).take slice.length

theorem of_append (before between after : List α) :
    of ⟨before.length, between.length⟩ (before ++ (between ++ after)) = between := by
  simp [of]

end Slice

def Edit.reverse : Edit α → Edit α
  | keep line => .keep line
  | delete line => .insert line
  | insert line => .delete line

structure Part (α : Type) where
  oldSlice : Slice
  newSlice : Slice
  edits : List (Edit α)
  deriving DecidableEq, Repr

namespace Part

def old (part : Part α) : List α := part.edits.flatMap Edit.old

def new (part : Part α) : List α := part.edits.flatMap Edit.new

def reverse (part : Part α) : Part α :=
  ⟨part.newSlice, part.oldSlice, part.edits.map Edit.reverse⟩

@[simp] theorem oldSlice_reverse (part : Part α) : part.reverse.oldSlice = part.newSlice := rfl

@[simp] theorem newSlice_reverse (part : Part α) : part.reverse.newSlice = part.oldSlice := rfl

@[simp] theorem old_reverse (part : Part α) : part.reverse.old = part.new := by
  rw [old, new, reverse, List.flatMap_map]
  congr 1
  funext edit
  cases edit <;> rfl

@[simp] theorem new_reverse (part : Part α) : part.reverse.new = part.old := by
  rw [old, new, reverse, List.flatMap_map]
  congr 1
  funext edit
  cases edit <;> rfl

end Part

-- The lines are those of the old list from a place on.
def replaceFrom : Nat → List (Part α) → List α → List α
  | _, [], lines => lines
  | place, part :: parts, lines =>
      lines.take (part.oldSlice.start - place) ++
        (part.new ++ replaceFrom part.oldSlice.stop parts (lines.drop (part.oldSlice.stop - place)))

/-- Every slice of the old list replaced by the lines that the part has for it. -/
def replace (parts : List (Part α)) (old : List α) : List α := replaceFrom 0 parts old

/-- The parts name slices of the old list with something left between them, and show what is
there. -/
structure ShowsOld (parts : List (Part α)) (old : List α) : Prop where
  within (part : Part α) (among : part ∈ parts) : part.oldSlice.stop ≤ old.length
  ordered : parts.Pairwise fun part later => part.oldSlice.stop < later.oldSlice.start
  shown (part : Part α) (among : part ∈ parts) : part.old = part.oldSlice.of old

def ShowsNew (parts : List (Part α)) (new : List α) : Prop := ShowsOld (parts.map Part.reverse) new

theorem ShowsOld.old_subset {parts : List (Part α)} {old : List α} (shows : ShowsOld parts old)
    {part : Part α} (among : part ∈ parts) : part.old ⊆ old := by
  rw [shows.shown part among]
  exact fun line inside => List.mem_of_mem_drop (List.mem_of_mem_take inside)

theorem ShowsNew.new_subset {parts : List (Part α)} {new : List α} (shows : ShowsNew parts new)
    {part : Part α} (among : part ∈ parts) : part.new ⊆ new := by
  rw [← Part.old_reverse]
  exact ShowsOld.old_subset shows (List.mem_map_of_mem among)

/-- From these places on, the parts turn the old list into the new one: what stands in front of a
part, of at least so many lines, is the same on both sides. -/
inductive Rewrites : Nat → Nat → Nat → List (Part α) → List α → List α → Prop
  | rest (least oldAt newAt : Nat) (lines : List α) : Rewrites least oldAt newAt [] lines lines
  | part {least oldAt newAt : Nat} {skipped old new : List α} {part : Part α}
      {parts : List (Part α)} (enough : least ≤ skipped.length)
      (oldSlice : part.oldSlice = ⟨oldAt + skipped.length, part.old.length⟩)
      (newSlice : part.newSlice = ⟨newAt + skipped.length, part.new.length⟩)
      (others : Rewrites 1 part.oldSlice.stop part.newSlice.stop parts old new) :
      Rewrites least oldAt newAt (part :: parts) (skipped ++ (part.old ++ old))
        (skipped ++ (part.new ++ new))

namespace Rewrites

variable {least oldAt newAt : Nat} {parts : List (Part α)} {old new : List α}

theorem reverse (rewrites : Rewrites least oldAt newAt parts old new) :
    Rewrites least newAt oldAt (parts.map Part.reverse) new old := by
  induction rewrites with
  | rest least oldAt newAt lines => exact .rest _ _ _ _
  | @part least oldAt newAt skipped old new part parts enough oldSlice newSlice others ih =>
    have reversed : Rewrites least newAt oldAt (part.reverse :: parts.map Part.reverse)
        (skipped ++ (part.reverse.old ++ new)) (skipped ++ (part.reverse.new ++ old)) :=
      .part enough (by simpa using newSlice) (by simpa using oldSlice) ih
    simpa using reversed

theorem append_rest (rewrites : Rewrites least oldAt newAt parts old new) (more : List α) :
    Rewrites least oldAt newAt parts (old ++ more) (new ++ more) := by
  induction rewrites with
  | rest least oldAt newAt lines => exact .rest _ _ _ _
  | part enough oldSlice newSlice others ih =>
    simpa using Rewrites.part enough oldSlice newSlice ih

theorem replaceFrom_eq (rewrites : Rewrites least oldAt newAt parts old new) :
    replaceFrom oldAt parts old = new := by
  induction rewrites with
  | rest => rfl
  | @part least oldAt newAt skipped old new part parts enough oldSlice newSlice others ih =>
    have before : part.oldSlice.start - oldAt = skipped.length := by
      simp [oldSlice]
    have through : part.oldSlice.stop - oldAt = (skipped ++ part.old).length := by
      simp only [Slice.stop, oldSlice, List.length_append]
      omega
    rw [replaceFrom, before, through, ← List.append_assoc skipped part.old, List.drop_left, ih]
    simp

theorem start_le (rewrites : Rewrites least oldAt newAt parts old new) :
    ∀ part ∈ parts, oldAt + least ≤ part.oldSlice.start := by
  induction rewrites with
  | rest => simp
  | @part least oldAt newAt skipped old new part parts enough oldSlice newSlice others ih =>
    have first : oldAt + least ≤ part.oldSlice.start := by
      simpa [oldSlice] using enough
    refine List.forall_mem_cons.2 ⟨first, fun later among => ?_⟩
    have further := ih later among
    simp only [Slice.stop] at further
    omega

theorem ordered (rewrites : Rewrites least oldAt newAt parts old new) :
    parts.Pairwise fun part later => part.oldSlice.stop < later.oldSlice.start := by
  induction rewrites with
  | rest => exact .nil
  | part enough oldSlice newSlice others ih => exact .cons others.start_le ih

-- Slices count from the start of the list, so what stands before the place goes along.
theorem shown (rewrites : Rewrites least oldAt newAt parts old new) (before : List α)
    (place : before.length = oldAt) :
    ∀ part ∈ parts, part.oldSlice.stop ≤ (before ++ old).length ∧
      part.old = part.oldSlice.of (before ++ old) := by
  induction rewrites generalizing before with
  | rest => simp
  | @part least oldAt newAt skipped old new part parts enough oldSlice newSlice others ih =>
    have here : part.oldSlice = ⟨(before ++ skipped).length, part.old.length⟩ := by
      rw [oldSlice, List.length_append, place]
    have reach : (before ++ skipped ++ part.old).length = part.oldSlice.stop := by
      simp [here, Slice.stop, Nat.add_assoc]
    have whole : before ++ (skipped ++ (part.old ++ old)) =
        before ++ skipped ++ part.old ++ old := by simp
    rw [whole]
    refine List.forall_mem_cons.2 ⟨⟨?_, ?_⟩, ih _ reach⟩
    next =>
      rw [← reach]
      exact (List.prefix_append _ _).length_le
    next => rw [here, List.append_assoc, Slice.of_append]

theorem showsOld (rewrites : Rewrites least 0 newAt parts old new) : ShowsOld parts old where
  within part among := (rewrites.shown [] rfl part among).1
  ordered := rewrites.ordered
  shown part among := (rewrites.shown [] rfl part among).2

theorem showsNew (rewrites : Rewrites least oldAt 0 parts old new) : ShowsNew parts new :=
  rewrites.reverse.showsOld

end Rewrites

end GoldenSuite.Diff
