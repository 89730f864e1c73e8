import GoldenSuite.Proofs.Diff.Minimal
import Mathlib.Data.List.Chain
import Mathlib.Data.List.Induction

set_option autoImplicit false

namespace GoldenSuite.Diff

variable {α : Type}

namespace Placed

variable {context : Nat} {placed : Placed α}

theorem takeFirst_of_changed (changed : placed.run.isSame = false) :
    placed.takeFirst context = placed := by
  obtain ⟨oldAt, newAt, lines | ⟨deleted, inserted⟩⟩ := placed
  next => cases changed
  next => rfl

theorem takeLast_of_changed (changed : placed.run.isSame = false) :
    placed.takeLast context = placed := by
  obtain ⟨oldAt, newAt, lines | ⟨deleted, inserted⟩⟩ := placed
  next => cases changed
  next => rfl

theorem isGap_of_changed (changed : placed.run.isSame = false) : placed.isGap context = false := by
  obtain ⟨oldAt, newAt, lines | ⟨deleted, inserted⟩⟩ := placed
  next => cases changed
  next => rfl

theorem isSame_takeFirst (context : Nat) (placed : Placed α) :
    (placed.takeFirst context).run.isSame = placed.run.isSame := by
  obtain ⟨oldAt, newAt, lines | ⟨deleted, inserted⟩⟩ := placed <;> rfl

theorem isSame_takeLast (context : Nat) (placed : Placed α) :
    (placed.takeLast context).run.isSame = placed.run.isSame := by
  obtain ⟨oldAt, newAt, lines | ⟨deleted, inserted⟩⟩ := placed <;> rfl

theorem isGap_takeFirst (context : Nat) (placed : Placed α) :
    (placed.takeFirst context).isGap context = false := by
  obtain ⟨oldAt, newAt, lines | ⟨deleted, inserted⟩⟩ := placed
  next =>
    have short : (lines.take context).length ≤ 2 * context := by
      rw [List.length_take]
      omega
    exact decide_eq_false (Nat.not_lt.2 short)
  next => rfl

theorem isGap_takeLast (context : Nat) (placed : Placed α) :
    (placed.takeLast context).isGap context = false := by
  obtain ⟨oldAt, newAt, lines | ⟨deleted, inserted⟩⟩ := placed
  next =>
    have short : (lines.drop (lines.length - context)).length ≤ 2 * context := by
      rw [List.length_drop]
      omega
    exact decide_eq_false (Nat.not_lt.2 short)
  next => rfl

theorem isGap_iff (same : placed.run.isSame = true) :
    placed.isGap context = true ↔ 2 * context < placed.run.old.length := by
  obtain ⟨oldAt, newAt, lines | ⟨deleted, inserted⟩⟩ := placed
  next => simp [isGap, Run.old]
  next => cases same

theorem old_takeFirst (same : placed.run.isSame = true) :
    (placed.takeFirst context).run.old = placed.run.old.take context := by
  obtain ⟨oldAt, newAt, lines | ⟨deleted, inserted⟩⟩ := placed
  next => rfl
  next => cases same

theorem old_takeLast (same : placed.run.isSame = true) :
    (placed.takeLast context).run.old = placed.run.old.drop (placed.run.old.length - context) := by
  obtain ⟨oldAt, newAt, lines | ⟨deleted, inserted⟩⟩ := placed
  next => rfl
  next => cases same

end Placed

def Alternate (runs : List (Placed α)) : Prop :=
  runs.IsChain fun stretch next => stretch.run.isSame ≠ next.run.isSame

inductive Cluster (context : Nat) : List (Placed α) → Prop
  | single {change : Placed α} (changed : change.run.isSame = false) : Cluster context [change]
  | cons {change between : Placed α} {others : List (Placed α)}
      (changed : change.run.isSame = false) (close : between.isGap context = false)
      (cluster : Cluster context others) : Cluster context (change :: between :: others)

/-- A hunk as it is cut out of the stretches around a cluster of changes: it shows the end of what
comes before the cluster and the start of what comes after, which is a gap unless nothing further
comes. -/
structure CutOut (context : Nat) (stretches : List (Placed α)) (hunk : Hunk α)
    (before body after : List (Placed α)) : Prop where
  whole : stretches = before ++ (body ++ after)
  cluster : Cluster context body
  shown : hunk = before.getLast?.toList.map (Placed.takeLast context) ++
    (body ++ after.head?.toList.map (Placed.takeFirst context))
  closed : after.tail ≠ [] → ∀ stretch ∈ after.head?, stretch.isGap context = true

namespace Cluster

variable {context : Nat} {body : List (Placed α)}

theorem ne_nil (cluster : Cluster context body) : body ≠ [] := by
  cases cluster <;> exact List.cons_ne_nil _ _

theorem head_changed (cluster : Cluster context body) :
    ∀ stretch ∈ body.head?, stretch.run.isSame = false := by
  cases cluster <;> simpa using ‹_›

theorem last_changed (cluster : Cluster context body) :
    ∀ stretch ∈ body.getLast?, stretch.run.isSame = false := by
  induction cluster with
  | single changed => simpa using changed
  | @cons change between others changed close cluster ih =>
    rw [List.getLast?_cons_cons, List.getLast?_cons_of_ne_nil cluster.ne_nil]
    exact ih

theorem not_isGap (cluster : Cluster context body) :
    ∀ stretch ∈ body, stretch.isGap context = false := by
  induction cluster with
  | single changed => simpa using Placed.isGap_of_changed changed
  | cons changed close cluster ih =>
    refine List.forall_mem_cons.2 ⟨Placed.isGap_of_changed changed, ?_⟩
    exact List.forall_mem_cons.2 ⟨close, ih⟩

end Cluster

namespace CutOut

variable {context : Nat} {stretches before body after : List (Placed α)} {hunk : Hunk α}

theorem behind (cut : CutOut context stretches hunk before body after) (something : before ≠ [])
    (more : List (Placed α)) :
    CutOut context (more ++ stretches) hunk (more ++ before) body after where
  whole := by rw [cut.whole, List.append_assoc]
  cluster := cut.cluster
  shown := by
    rw [List.getLast?_append_of_ne_nil _ something]
    exact cut.shown
  closed := cut.closed

theorem led (cut : CutOut context stretches hunk [] body after) (more : List (Placed α))
    (stretch : Placed α) :
    CutOut context (more ++ stretch :: stretches) (stretch.takeLast context :: hunk)
      (more ++ [stretch]) body after where
  whole := by simp [cut.whole]
  cluster := cut.cluster
  shown := by simp [cut.shown]
  closed := cut.closed

theorem extended (cut : CutOut context stretches hunk [] body after) {change between : Placed α}
    (changed : change.run.isSame = false) (close : between.isGap context = false) :
    CutOut context (change :: between :: stretches) (change :: between :: hunk) []
      (change :: between :: body) after where
  whole := by simp [cut.whole]
  cluster := .cons changed close cut.cluster
  shown := by simp [cut.shown]
  closed := cut.closed

end CutOut

section Cutting

variable {context : Nat} {stretches : List (Placed α)} {shown : List (Hunk α)}

def CutsUp (context : Nat) (stretches : List (Placed α)) (hunks : List (Hunk α)) : Prop :=
  ∃ hunk later, hunks = hunk :: later ∧
    (∃ body after, CutOut context stretches hunk [] body after) ∧
    ∀ other ∈ later, ∃ before body after,
      before ≠ [] ∧ CutOut context stretches other before body after

namespace CutsUp

theorem all (cuts : CutsUp context stretches shown) :
    ∀ hunk ∈ shown, ∃ before body after, CutOut context stretches hunk before body after := by
  obtain ⟨hunk, later, rfl, ⟨body, after, cut⟩, others⟩ := cuts
  refine List.forall_mem_cons.2 ⟨⟨[], body, after, cut⟩, fun other among => ?_⟩
  obtain ⟨before, body, after, -, cut⟩ := others other among
  exact ⟨before, body, after, cut⟩

theorem led (cuts : CutsUp context stretches shown) (more : List (Placed α)) (stretch : Placed α) :
    ∀ hunk ∈ consHunk (stretch.takeLast context) shown, ∃ before body after,
      before ≠ [] ∧ CutOut context (more ++ stretch :: stretches) hunk before body after := by
  obtain ⟨hunk, later, rfl, ⟨body, after, cut⟩, others⟩ := cuts
  refine List.forall_mem_cons.2 ⟨?_, fun other among => ?_⟩
  next => exact ⟨_, body, after, by simp, cut.led more stretch⟩
  next =>
    obtain ⟨before, body, after, something, cut⟩ := others other among
    have further := cut.behind something (more ++ [stretch])
    rw [List.append_assoc] at further
    exact ⟨_, body, after, List.append_ne_nil_of_right_ne_nil _ something, further⟩

theorem single {change : Placed α} (changed : change.run.isSame = false) :
    CutsUp context [change] [[change]] :=
  ⟨[change], [], rfl, ⟨[change], [], rfl, .single changed, rfl, by simp⟩, by simp⟩

theorem ended {change : Placed α} (changed : change.run.isSame = false) (last : Placed α) :
    CutsUp context [change, last] [[change, last.takeFirst context]] :=
  ⟨_, [], rfl, ⟨[change], [last], rfl, .single changed, rfl, by simp⟩, by simp⟩

theorem joined (cuts : CutsUp context stretches shown) {change between : Placed α}
    (changed : change.run.isSame = false) (close : between.isGap context = false) :
    CutsUp context (change :: between :: stretches) (consHunk change (consHunk between shown)) := by
  obtain ⟨hunk, later, rfl, ⟨body, after, cut⟩, others⟩ := cuts
  refine ⟨change :: between :: hunk, later, rfl, ⟨_, after, cut.extended changed close⟩, ?_⟩
  intro other among
  obtain ⟨before, body, after, something, cut⟩ := others other among
  exact ⟨_, body, after, List.cons_ne_nil _ _, cut.behind something [change, between]⟩

theorem parted (cuts : CutsUp context stretches shown) {change between : Placed α}
    (changed : change.run.isSame = false) (gap : between.isGap context = true) :
    CutsUp context (change :: between :: stretches)
      ([change, between.takeFirst context] :: consHunk (between.takeLast context) shown) := by
  refine ⟨_, _, rfl, ⟨[change], between :: stretches, rfl, .single changed, rfl, fun _ => ?_⟩,
    cuts.led [change] between⟩
  simpa using gap

end CutsUp

theorem splitAtGaps_gap {run : Placed α} (gap : run.isGap context = true) (runs : List (Placed α)) :
    splitAtGaps context (run :: runs) =
      [run.takeFirst context] :: consHunk (run.takeLast context) (splitAtGaps context runs) := by
  rw [splitAtGaps, if_pos gap]

theorem splitAtGaps_close {run : Placed α} (close : run.isGap context = false)
    (runs : List (Placed α)) :
    splitAtGaps context (run :: runs) = consHunk run (splitAtGaps context runs) := by
  simp [splitAtGaps, close]

theorem mapLast_cons_cons (f : Placed α → Placed α) (run next : Placed α)
    (runs : List (Placed α)) : mapLast f (run :: next :: runs) = run :: mapLast f (next :: runs) :=
  rfl

-- The kinds take turns, so a change and the unchanged stretch behind it are taken at a time.
theorem cutsUp_splitAtGaps (context : Nat) {runs : List (Placed α)} (alternate : Alternate runs)
    (changed : ∀ first ∈ runs.head?, first.run.isSame = false) (solid : runs ≠ []) :
    CutsUp context runs (splitAtGaps context (mapLast (Placed.takeFirst context) runs)) := by
  induction runs using List.twoStepInduction with
  | nil => exact absurd rfl solid
  | singleton change =>
    have isChange := changed change rfl
    rw [mapLast, Placed.takeFirst_of_changed isChange,
      splitAtGaps_close (Placed.isGap_of_changed isChange), splitAtGaps, consHunk]
    exact .single isChange
  | cons_cons change stretch rest ih _ =>
    have isChange := changed change rfl
    have noGap : change.isGap context = false := Placed.isGap_of_changed isChange
    obtain ⟨differ, alternate⟩ := List.isChain_cons_cons.1 alternate
    obtain ⟨follows, alternate⟩ := List.isChain_cons.1 alternate
    cases rest with
    | nil =>
      rw [mapLast_cons_cons, mapLast, splitAtGaps_close noGap,
        splitAtGaps_close (Placed.isGap_takeFirst context stretch), splitAtGaps, consHunk, consHunk]
      exact .ended isChange stretch
    | cons next more =>
      have same : stretch.run.isSame = true := by simpa [isChange] using differ.symm
      have nextChanged : next.run.isSame = false := by simpa [same] using follows next rfl
      have cuts := ih alternate (by simpa using nextChanged) (List.cons_ne_nil _ _)
      rw [mapLast_cons_cons, mapLast_cons_cons, splitAtGaps_close noGap]
      cases gap : stretch.isGap context with
      | true =>
        rw [splitAtGaps_gap gap, consHunk]
        exact cuts.parted isChange gap
      | false =>
        rw [splitAtGaps_close gap]
        exact cuts.joined isChange gap

theorem cutOut_of_mem_hunks (context : Nat) {runs : List (Run α)}
    (alternate : Alternate (place 0 0 runs)) :
    ∀ hunk ∈ hunks context runs, ∃ before body after,
      CutOut context (place 0 0 runs) hunk before body after := by
  rw [hunks]
  split
  next => simp
  next different =>
    have kinds : ¬ (place 0 0 runs).all (fun stretch => stretch.run.isSame) = true := by
      rw [← map_run_place 0 0 runs, List.all_map] at different
      exact different
    generalize place 0 0 runs = stretches at alternate kinds
    cases stretches with
    | nil => exact absurd rfl kinds
    | cons stretch rest =>
      obtain ⟨follows, restAlternate⟩ := List.isChain_cons.1 alternate
      rw [mapFirst]
      cases kind : stretch.run.isSame with
      | false =>
        rw [Placed.takeLast_of_changed kind]
        have cuts := cutsUp_splitAtGaps context alternate (by simpa using kind)
          (List.cons_ne_nil _ _)
        exact cuts.all
      | true =>
        cases rest with
        | nil => simp [kind] at kinds
        | cons next more =>
          have nextChanged : next.run.isSame = false := by simpa [kind] using follows next rfl
          have cuts := cutsUp_splitAtGaps context restAlternate (by simpa using nextChanged)
            (List.cons_ne_nil _ _)
          rw [mapLast_cons_cons, splitAtGaps_close (Placed.isGap_takeLast context stretch)]
          intro hunk among
          obtain ⟨before, body, after, -, cut⟩ := cuts.led [] stretch hunk among
          exact ⟨before, body, after, cut⟩

end Cutting

section Changes

def changes (runs : List (Placed α)) : List (Placed α) :=
  runs.filter fun stretch => !stretch.run.isSame

theorem mem_changes_iff {runs : List (Placed α)} {stretch : Placed α} :
    stretch ∈ changes runs ↔ stretch ∈ runs ∧ stretch.run.isSame = false := by
  simp [changes]

theorem changes_append (runs more : List (Placed α)) :
    changes (runs ++ more) = changes runs ++ changes more :=
  List.filter_append ..

theorem changes_cons (run : Placed α) (runs : List (Placed α)) :
    changes (run :: runs) = changes [run] ++ changes runs :=
  changes_append [run] runs

theorem changes_takeFirst (context : Nat) (run : Placed α) :
    changes [run.takeFirst context] = changes [run] := by
  obtain ⟨oldAt, newAt, lines | ⟨deleted, inserted⟩⟩ := run <;> rfl

theorem changes_takeLast (context : Nat) (run : Placed α) :
    changes [run.takeLast context] = changes [run] := by
  obtain ⟨oldAt, newAt, lines | ⟨deleted, inserted⟩⟩ := run <;> rfl

theorem changes_of_isGap {context : Nat} {run : Placed α} (gap : run.isGap context = true) :
    changes [run] = [] := by
  obtain ⟨oldAt, newAt, lines | ⟨deleted, inserted⟩⟩ := run
  next => rfl
  next => cases gap

theorem changes_mapFirst {f : Placed α → Placed α} (kept : ∀ run, changes [f run] = changes [run])
    (runs : List (Placed α)) : changes (mapFirst f runs) = changes runs := by
  cases runs with
  | nil => rfl
  | cons run runs => rw [mapFirst, changes_cons, kept, ← changes_cons]

theorem changes_mapLast {f : Placed α → Placed α} (kept : ∀ run, changes [f run] = changes [run])
    (runs : List (Placed α)) : changes (mapLast f runs) = changes runs := by
  induction runs with
  | nil => rfl
  | cons run runs ih =>
    cases runs with
    | nil => exact kept run
    | cons next more => rw [mapLast_cons_cons, changes_cons, ih, ← changes_cons]

theorem flatten_consHunk (run : Placed α) (shown : List (Hunk α)) :
    (consHunk run shown).flatten = run :: shown.flatten := by
  cases shown <;> rfl

theorem changes_splitAtGaps (context : Nat) (runs : List (Placed α)) :
    changes (splitAtGaps context runs).flatten = changes runs := by
  induction runs with
  | nil => rfl
  | cons run runs ih =>
    cases gap : run.isGap context with
    | false => rw [splitAtGaps_close gap, flatten_consHunk, changes_cons, ih, ← changes_cons]
    | true =>
      rw [splitAtGaps_gap gap, List.flatten_cons, changes_append, flatten_consHunk,
        changes_cons (run.takeLast context), changes_cons run, changes_takeFirst, changes_takeLast,
        ih, changes_of_isGap gap]
      rfl

theorem changes_flatten_hunks (context : Nat) (runs : List (Run α)) :
    changes (hunks context runs).flatten = changes (place 0 0 runs) := by
  rw [hunks]
  split
  next same =>
    rw [← map_run_place 0 0 runs, List.all_map] at same
    simpa [changes] using same
  next =>
    rw [changes_splitAtGaps, changes_mapLast (changes_takeFirst context),
      changes_mapFirst (changes_takeLast context)]

theorem le_place_of_laid {oldAt newAt : Nat} {runs : List (Placed α)}
    (laid : Laid oldAt newAt runs) :
    ∀ stretch ∈ runs, oldAt + newAt ≤ stretch.oldAt + stretch.newAt := by
  induction runs generalizing oldAt newAt with
  | nil => simp
  | cons run runs ih =>
    obtain ⟨rfl, rfl, laid⟩ := laid
    refine List.forall_mem_cons.2 ⟨Nat.le_refl _, fun stretch among => ?_⟩
    have further := ih laid stretch among
    omega

-- No stretch is empty, so each one starts further on than those before it.
theorem nodup_of_laid {oldAt newAt : Nat} {runs : List (Placed α)} (laid : Laid oldAt newAt runs)
    (solid : ∀ stretch ∈ runs, 0 < stretch.oldSlice.length + stretch.newSlice.length) :
    runs.Nodup := by
  induction runs generalizing oldAt newAt with
  | nil => exact .nil
  | cons run runs ih =>
    obtain ⟨rfl, rfl, laid⟩ := laid
    obtain ⟨here, solid⟩ := List.forall_mem_cons.1 solid
    refine List.nodup_cons.2 ⟨fun again => ?_, ih laid solid⟩
    have further := le_place_of_laid laid run again
    simp only [Placed.oldSlice, Placed.newSlice] at here
    omega

end Changes

end GoldenSuite.Diff
