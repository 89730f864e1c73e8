import GoldenSuite.Diff.Hunk
import GoldenSuite.Proofs.Diff.Patch

set_option autoImplicit false

namespace GoldenSuite.Diff

variable {α : Type}

def Run.edits : Run α → List (Edit α)
  | same lines => lines.map .keep
  | change deleted inserted => deleted.map .delete ++ inserted.map .insert

@[simp] theorem Run.flatMap_old_edits (run : Run α) : run.edits.flatMap Edit.old = run.old := by
  cases run <;> simp [edits, old, List.flatMap_map, Edit.old]

@[simp] theorem Run.flatMap_new_edits (run : Run α) : run.edits.flatMap Edit.new = run.new := by
  cases run <;> simp [edits, new, List.flatMap_map, Edit.new]

namespace Hunk

def edits (hunk : Hunk α) : List (Edit α) := hunk.flatMap fun placed => placed.run.edits

def part (hunk : Hunk α) : Part α :=
  ⟨⟨hunk.oldStart, hunk.old.length⟩, ⟨hunk.newStart, hunk.new.length⟩, hunk.edits⟩

@[simp] theorem oldSlice_part (hunk : Hunk α) :
    hunk.part.oldSlice = ⟨hunk.oldStart, hunk.old.length⟩ := rfl

@[simp] theorem newSlice_part (hunk : Hunk α) :
    hunk.part.newSlice = ⟨hunk.newStart, hunk.new.length⟩ := rfl

@[simp] theorem old_part (hunk : Hunk α) : hunk.part.old = hunk.old := by
  simp [part, Part.old, edits, old, List.flatMap_assoc]

@[simp] theorem new_part (hunk : Hunk α) : hunk.part.new = hunk.new := by
  simp [part, Part.new, edits, new, List.flatMap_assoc]

@[simp] theorem old_cons (placed : Placed α) (hunk : Hunk α) :
    old (placed :: hunk) = placed.run.old ++ hunk.old := rfl

@[simp] theorem new_cons (placed : Placed α) (hunk : Hunk α) :
    new (placed :: hunk) = placed.run.new ++ hunk.new := rfl

end Hunk

def Laid : Nat → Nat → List (Placed α) → Prop
  | _, _, [] => True
  | oldAt, newAt, placed :: rest =>
      placed.oldAt = oldAt ∧ placed.newAt = newAt ∧
        Laid (oldAt + placed.run.old.length) (newAt + placed.run.new.length) rest

theorem place_spec (oldAt newAt : Nat) (runs : List (Run α)) :
    Laid oldAt newAt (place oldAt newAt runs) ∧
      Hunk.old (place oldAt newAt runs) = runs.flatMap Run.old ∧
      Hunk.new (place oldAt newAt runs) = runs.flatMap Run.new := by
  induction runs generalizing oldAt newAt with
  | nil => exact ⟨trivial, rfl, rfl⟩
  | cons run runs ih =>
    obtain ⟨laid, old, new⟩ := ih (oldAt + run.old.length) (newAt + run.new.length)
    exact ⟨⟨rfl, rfl, laid⟩, by simp [place, old], by simp [place, new]⟩

section Trimming

variable {oldAt newAt : Nat} {runs : List (Placed α)}

theorem mapFirst_takeLast_spec (context : Nat) (laid : Laid oldAt newAt runs) :
    let trimmed := mapFirst (Placed.takeLast context) runs
    ∃ lead, Laid (oldAt + lead.length) (newAt + lead.length) trimmed ∧
      Hunk.old runs = lead ++ Hunk.old trimmed ∧ Hunk.new runs = lead ++ Hunk.new trimmed := by
  cases runs with
  | nil => exact ⟨[], trivial, rfl, rfl⟩
  | cons placed rest =>
    obtain ⟨start, startNew, run⟩ := placed
    obtain ⟨rfl, rfl, laid⟩ := laid
    cases run with
    | change deleted inserted => exact ⟨[], ⟨rfl, rfl, laid⟩, rfl, rfl⟩
    | same lines =>
      let dropped := lines.length - context
      have short : (lines.take dropped).length = dropped := by
        rw [List.length_take]
        omega
      have rejoined : dropped + (lines.drop dropped).length = lines.length := by
        rw [List.length_drop]
        omega
      refine ⟨lines.take dropped, ⟨?_, ?_, ?_⟩, ?_, ?_⟩
      next => rw [short]; rfl
      next => rw [short]; rfl
      next =>
        rw [short]
        simpa [Run.old, Run.new, Placed.takeLast, Nat.add_assoc, dropped, rejoined] using laid
      next =>
        show lines ++ Hunk.old rest = lines.take dropped ++ (lines.drop dropped ++ Hunk.old rest)
        rw [← List.append_assoc, List.take_append_drop]
      next =>
        show lines ++ Hunk.new rest = lines.take dropped ++ (lines.drop dropped ++ Hunk.new rest)
        rw [← List.append_assoc, List.take_append_drop]

theorem takeFirst_spec (context : Nat) (placed : Placed α) :
    let trimmed := placed.takeFirst context
    trimmed.oldAt = placed.oldAt ∧ trimmed.newAt = placed.newAt ∧
      ∃ trail, placed.run.old = trimmed.run.old ++ trail ∧
        placed.run.new = trimmed.run.new ++ trail := by
  obtain ⟨start, startNew, run⟩ := placed
  cases run with
  | change deleted inserted => exact ⟨rfl, rfl, [], by simp [Placed.takeFirst]⟩
  | same lines =>
    exact ⟨rfl, rfl, lines.drop context, by simp [Placed.takeFirst, Run.old, Run.new]⟩

theorem mapLast_takeFirst_spec (context : Nat) (laid : Laid oldAt newAt runs) :
    let trimmed := mapLast (Placed.takeFirst context) runs
    ∃ trail, Laid oldAt newAt trimmed ∧
      Hunk.old runs = Hunk.old trimmed ++ trail ∧ Hunk.new runs = Hunk.new trimmed ++ trail := by
  induction runs generalizing oldAt newAt with
  | nil => exact ⟨[], trivial, rfl, rfl⟩
  | cons placed rest ih =>
    obtain ⟨atOld, atNew, laid⟩ := laid
    cases rest with
    | nil =>
      obtain ⟨sameOld, sameNew, trail, old, new⟩ := takeFirst_spec context placed
      refine ⟨trail, ⟨sameOld.trans atOld, sameNew.trans atNew, trivial⟩, ?_, ?_⟩
      next => simpa [mapLast, Hunk.old] using old
      next => simpa [mapLast, Hunk.new] using new
    | cons next more =>
      obtain ⟨trail, laid, old, new⟩ := ih laid
      refine ⟨trail, ⟨atOld, atNew, laid⟩, ?_, ?_⟩
      next =>
        change placed.run.old ++ Hunk.old (next :: more) = _
        rw [old, ← List.append_assoc]
        rfl
      next =>
        change placed.run.new ++ Hunk.new (next :: more) = _
        rw [new, ← List.append_assoc]
        rfl

end Trimming

def Begins (oldAt newAt : Nat) (hunks : List (Hunk α)) (old new : List α) : Prop :=
  ∃ hunk later oldRest newRest, hunks = hunk :: later ∧
    hunk.oldStart = oldAt ∧ hunk.newStart = newAt ∧
    old = hunk.old ++ oldRest ∧ new = hunk.new ++ newRest ∧
    Rewrites 1 (oldAt + hunk.old.length) (newAt + hunk.new.length) (later.map Hunk.part) oldRest
      newRest

-- A hunk starts just here unless nothing is left.
def Follows (oldAt newAt : Nat) (hunks : List (Hunk α)) (old new : List α) : Prop :=
  (hunks = [] ∧ old = [] ∧ new = []) ∨ Begins oldAt newAt hunks old new

namespace Begins

variable {oldAt newAt : Nat} {hunks : List (Hunk α)} {old new : List α}

theorem rewrites {least : Nat} {skipped : List α} (enough : least ≤ skipped.length)
    (begins : Begins (oldAt + skipped.length) (newAt + skipped.length) hunks old new) :
    Rewrites least oldAt newAt (hunks.map Hunk.part) (skipped ++ old) (skipped ++ new) := by
  obtain ⟨hunk, later, oldRest, newRest, rfl, oldStart, newStart, rfl, rfl, others⟩ := begins
  rw [← oldStart, ← newStart] at others
  have whole : Rewrites least oldAt newAt (hunk.part :: later.map Hunk.part)
      (skipped ++ (hunk.part.old ++ oldRest)) (skipped ++ (hunk.part.new ++ newRest)) :=
    .part enough (by simp [oldStart]) (by simp [newStart]) others
  simpa using whole

theorem consHunk {placed : Placed α} {more : List (Hunk α)} (oldHere : placed.oldAt = oldAt)
    (newHere : placed.newAt = newAt)
    (rest : Follows (oldAt + placed.run.old.length) (newAt + placed.run.new.length) more old new) :
    Begins oldAt newAt (Diff.consHunk placed more) (placed.run.old ++ old)
      (placed.run.new ++ new) := by
  obtain ⟨rfl, rfl, rfl⟩ | ⟨hunk, later, oldRest, newRest, rfl, -, -, rfl, rfl, others⟩ := rest
  next =>
    exact ⟨[placed], [], [], [], rfl, oldHere, newHere, by simp [Hunk.old], by simp [Hunk.new],
      .rest _ _ _ _⟩
  next =>
    refine ⟨placed :: hunk, later, oldRest, newRest, rfl, oldHere, newHere, by simp, by simp, ?_⟩
    simpa [Nat.add_assoc] using others

-- In a gap a hunk ends and another one begins, with the lines left out that are in neither.
theorem gap {context : Nat} {lines : List α} {more : List (Hunk α)}
    (long : 2 * context < lines.length)
    (rest : Follows (oldAt + lines.length) (newAt + lines.length) more old new) :
    let placed : Placed α := ⟨oldAt, newAt, .same lines⟩
    Begins oldAt newAt
      ([placed.takeFirst context] :: Diff.consHunk (placed.takeLast context) more)
      (lines ++ old) (lines ++ new) := by
  intro placed
  let skipped := (lines.drop context).take (lines.length - 2 * context)
  let trail := lines.drop (lines.length - context)
  have leadLength : (lines.take context).length = context := by
    rw [List.length_take]
    omega
  have skippedLength : skipped.length = lines.length - 2 * context := by
    rw [List.length_take, List.length_drop]
    omega
  have trailLength : trail.length = context := by
    rw [List.length_drop]
    omega
  have parted : lines = lines.take context ++ (skipped ++ trail) := by
    have joint : lines.length - context = context + (lines.length - 2 * context) := by omega
    simp only [skipped, trail, joint, ← List.drop_drop, List.take_append_drop]
  have resumed : Begins (oldAt + context + skipped.length) (newAt + context + skipped.length)
      (Diff.consHunk (placed.takeLast context) more) (trail ++ old) (trail ++ new) := by
    have oldHere : (placed.takeLast context).oldAt = oldAt + context + skipped.length := by
      simp only [Placed.takeLast, placed]
      omega
    have newHere : (placed.takeLast context).newAt = newAt + context + skipped.length := by
      simp only [Placed.takeLast, placed]
      omega
    refine consHunk oldHere newHere ?_
    change Follows (oldAt + context + skipped.length + trail.length)
      (newAt + context + skipped.length + trail.length) more old new
    have joint : context + skipped.length + trail.length = lines.length := by omega
    simpa only [Nat.add_assoc, ← joint] using rest
  have others : Rewrites 1 (oldAt + context) (newAt + context)
      ((Diff.consHunk (placed.takeLast context) more).map Hunk.part)
      (skipped ++ (trail ++ old)) (skipped ++ (trail ++ new)) :=
    resumed.rewrites (by omega)
  have whole (side : List α) :
      lines ++ side = lines.take context ++ (skipped ++ (trail ++ side)) := by
    rw [← List.append_assoc skipped, ← List.append_assoc, ← parted]
  have leadOld : Hunk.old [placed.takeFirst context] = lines.take context := List.append_nil _
  have leadNew : Hunk.new [placed.takeFirst context] = lines.take context := List.append_nil _
  refine ⟨[placed.takeFirst context], Diff.consHunk (placed.takeLast context) more,
    skipped ++ (trail ++ old), skipped ++ (trail ++ new), rfl, rfl, rfl, ?_, ?_, ?_⟩
  next => rw [leadOld, whole]
  next => rw [leadNew, whole]
  next => rwa [leadOld, leadNew, leadLength]

end Begins

theorem splitAtGaps_follows (context : Nat) {oldAt newAt : Nat} {runs : List (Placed α)}
    (laid : Laid oldAt newAt runs) :
    Follows oldAt newAt (splitAtGaps context runs) (Hunk.old runs) (Hunk.new runs) := by
  induction runs generalizing oldAt newAt with
  | nil => exact .inl ⟨rfl, rfl, rfl⟩
  | cons placed rest ih =>
    obtain ⟨oldHere, newHere, laid⟩ := laid
    have later := ih laid
    refine .inr ?_
    rw [splitAtGaps]
    split
    next isGap =>
      obtain ⟨_, _, run⟩ := placed
      obtain ⟨rfl, rfl⟩ : _ = oldAt ∧ _ = newAt := ⟨oldHere, newHere⟩
      cases run with
      | change deleted inserted => simp [Placed.isGap] at isGap
      | same lines => exact Begins.gap (by simpa [Placed.isGap] using isGap) later
    next => exact Begins.consHunk oldHere newHere later

theorem hunks_rewrites (context : Nat) (runs : List (Run α)) :
    Rewrites 0 0 0 ((hunks context runs).map Hunk.part) (runs.flatMap Run.old)
      (runs.flatMap Run.new) := by
  rw [hunks]
  split
  next same =>
    rw [flatMap_old_eq_new same]
    exact .rest _ _ _ _
  next =>
    obtain ⟨laid, wholeOld, wholeNew⟩ := place_spec 0 0 runs
    obtain ⟨lead, laid, leadOld, leadNew⟩ := mapFirst_takeLast_spec context laid
    obtain ⟨trail, laid, trailOld, trailNew⟩ := mapLast_takeFirst_spec context laid
    rw [← wholeOld, ← wholeNew, leadOld, leadNew, trailOld, trailNew, ← List.append_assoc,
      ← List.append_assoc lead]
    refine Rewrites.append_rest ?_ trail
    obtain ⟨nothing, old, new⟩ | begins := splitAtGaps_follows context laid
    next =>
      rw [nothing, old, new]
      exact .rest _ _ _ _
    next => exact begins.rewrites (Nat.zero_le _)

end GoldenSuite.Diff
