import GoldenSuite.Diff.Unified
import GoldenSuite.Proofs.Diff.Cluster

/-!
Where the hunks of an edit script lie. A hunk shows of the unchanged lines before its first change
and after its last as many as the context takes; every change is in one hunk, two changes in a row
share one exactly when they are close, and what lies between two hunks is the same in both lists.
-/

set_option autoImplicit false

namespace GoldenSuite.Diff

variable {α : Type}

def unchangedAhead (stretches : List (Placed α)) : List α :=
  Hunk.old (stretches.takeWhile fun stretch => stretch.run.isSame)

def unchangedBehind (stretches : List (Placed α)) : List α :=
  Hunk.old (stretches.reverse.takeWhile fun stretch => stretch.run.isSame).reverse

/-- A hunk shows the stretches from a change to a change, and of the unchanged lines on either side
those that are next, as many as the context takes or there are. -/
structure Framed (context : Nat) (stretches : List (Placed α)) (hunk : Hunk α)
    (before lead body trail after : List (Placed α)) : Prop where
  whole : stretches = before ++ (body ++ after)
  shown : hunk = lead ++ (body ++ trail)
  solid : body ≠ []
  first : ∀ stretch ∈ body.head?, stretch.run.isSame = false
  last : ∀ stretch ∈ body.getLast?, stretch.run.isSame = false
  unchanged : ∀ stretch ∈ lead ++ trail, stretch.run.isSame = true
  leadLines : Hunk.old lead <:+ unchangedBehind before
  leadLength : (Hunk.old lead).length = min context (unchangedBehind before).length
  trailLines : Hunk.old trail <+: unchangedAhead after
  trailLength : (Hunk.old trail).length = min context (unchangedAhead after).length

def Apart (old new : List α) (part next : Part α) : Prop :=
  ∃ skipped : List α, skipped ≠ [] ∧
    next.oldSlice.start = part.oldSlice.stop + skipped.length ∧
    next.newSlice.start = part.newSlice.stop + skipped.length ∧
    Slice.of ⟨part.oldSlice.stop, skipped.length⟩ old = skipped ∧
    Slice.of ⟨part.newSlice.stop, skipped.length⟩ new = skipped

/-- Where the hunks of an edit script lie among its stretches. -/
structure Layout (context : Nat) (old new : List α) (stretches : List (Placed α))
    (shown : List (Hunk α)) : Prop where
  changed : ∀ hunk ∈ shown, ∃ stretch ∈ hunk, stretch ∈ stretches ∧ stretch.run.isSame = false
  once : ∀ stretch ∈ stretches, stretch.run.isSame = false →
    ∃ earlier hunk later, shown = earlier ++ hunk :: later ∧ stretch ∈ hunk ∧
      ∀ other ∈ earlier ++ later, stretch ∉ other
  framed : ∀ hunk ∈ shown, ∃ before lead body trail after,
    Framed context stretches hunk before lead body trail after
  together_iff : ∀ before first between second after,
    stretches = before ++ first :: (between ++ second :: after) →
    first.run.isSame = false → second.run.isSame = false →
    (∀ stretch ∈ between, stretch.run.isSame = true) →
    ((∃ hunk ∈ shown, first ∈ hunk ∧ second ∈ hunk) ↔ (Hunk.old between).length ≤ 2 * context)
  apart : shown.IsChain fun hunk next => Apart old new hunk.part next.part

section Framing

variable {context : Nat} {stretches before body after : List (Placed α)} {hunk : Hunk α}

-- No two unchanged stretches are next to one another.
theorem takeWhile_isSame {runs : List (Placed α)} (alternate : Alternate runs)
    (same : ∀ stretch ∈ runs.head?, stretch.run.isSame = true) :
    runs.takeWhile (fun stretch => stretch.run.isSame) = runs.head?.toList := by
  match runs, alternate, same with
  | [], _, _ => rfl
  | [stretch], _, same => simp [same stretch rfl]
  | stretch :: next :: more, alternate, same =>
    have here := same stretch rfl
    have differ := (List.isChain_cons_cons.1 alternate).1
    have nextChanged : next.run.isSame = false := by simpa [here] using differ
    simp [here, nextChanged]

theorem Alternate.reverse {runs : List (Placed α)} (alternate : Alternate runs) :
    Alternate runs.reverse :=
  List.isChain_reverse.2 (alternate.imp fun _ _ differ => differ.symm)

theorem unchangedAhead_eq {after : List (Placed α)} (alternate : Alternate after)
    (same : ∀ stretch ∈ after.head?, stretch.run.isSame = true) :
    unchangedAhead after = Hunk.old after.head?.toList := by
  rw [unchangedAhead, takeWhile_isSame alternate same]

theorem unchangedBehind_eq {before : List (Placed α)} (alternate : Alternate before)
    (same : ∀ stretch ∈ before.getLast?, stretch.run.isSame = true) :
    unchangedBehind before = Hunk.old before.getLast?.toList := by
  rw [← List.head?_reverse] at same
  rw [unchangedBehind, takeWhile_isSame alternate.reverse same, List.head?_reverse]
  cases before.getLast? <;> rfl

theorem old_map_takeLast (context : Nat) {edge : Option (Placed α)}
    (same : ∀ stretch ∈ edge, stretch.run.isSame = true) :
    Hunk.old (edge.toList.map (Placed.takeLast context)) <:+ Hunk.old edge.toList ∧
      (Hunk.old (edge.toList.map (Placed.takeLast context))).length =
        min context (Hunk.old edge.toList).length := by
  cases edge with
  | none => simp [Hunk.old]
  | some stretch =>
    simp only [Option.toList_some, List.map_cons, List.map_nil, Hunk.old, List.flatMap_cons,
      List.flatMap_nil, List.append_nil, Placed.old_takeLast (same stretch rfl)]
    refine ⟨List.drop_suffix _ _, ?_⟩
    rw [List.length_drop]
    omega

theorem old_map_takeFirst (context : Nat) {edge : Option (Placed α)}
    (same : ∀ stretch ∈ edge, stretch.run.isSame = true) :
    Hunk.old (edge.toList.map (Placed.takeFirst context)) <+: Hunk.old edge.toList ∧
      (Hunk.old (edge.toList.map (Placed.takeFirst context))).length =
        min context (Hunk.old edge.toList).length := by
  cases edge with
  | none => simp [Hunk.old]
  | some stretch =>
    simp only [Option.toList_some, List.map_cons, List.map_nil, Hunk.old, List.flatMap_cons,
      List.flatMap_nil, List.append_nil, Placed.old_takeFirst (same stretch rfl)]
    exact ⟨List.take_prefix _ _, List.length_take⟩

namespace CutOut

theorem exists_change (cut : CutOut context stretches hunk before body after) :
    ∃ stretch ∈ hunk, stretch ∈ stretches ∧ stretch.run.isSame = false := by
  have solid := cut.cluster.ne_nil
  have inside := List.head_mem solid
  refine ⟨body.head solid, by simp [cut.shown, inside], by simp [cut.whole, inside], ?_⟩
  exact cut.cluster.head_changed _ (List.head?_eq_some_head solid)

-- A cluster starts and ends with a change, so what is next to it is not one.
theorem beside (cut : CutOut context stretches hunk before body after)
    (alternate : Alternate stretches) :
    (Alternate before ∧ ∀ stretch ∈ before.getLast?, stretch.run.isSame = true) ∧
      (Alternate after ∧ ∀ stretch ∈ after.head?, stretch.run.isSame = true) := by
  rw [cut.whole] at alternate
  obtain ⟨alternateBefore, rest, joint⟩ := List.isChain_append.1 alternate
  obtain ⟨-, alternateAfter, end_joint⟩ := List.isChain_append.1 rest
  have solid := cut.cluster.ne_nil
  refine ⟨⟨alternateBefore, fun stretch isLast => ?_⟩, ⟨alternateAfter, fun stretch isFirst => ?_⟩⟩
  next =>
    have first := List.head?_eq_some_head solid
    have changed := cut.cluster.head_changed _ first
    have differ := joint stretch isLast (body.head solid) (by simp [first])
    simpa [changed] using differ
  next =>
    have last := List.getLast?_eq_some_getLast solid
    have changed := cut.cluster.last_changed _ last
    have differ := end_joint _ last stretch isFirst
    simpa [changed] using differ.symm

theorem framed (cut : CutOut context stretches hunk before body after)
    (alternate : Alternate stretches) :
    Framed context stretches hunk before
      (before.getLast?.toList.map (Placed.takeLast context)) body
      (after.head?.toList.map (Placed.takeFirst context)) after := by
  obtain ⟨⟨alternateBefore, sameBefore⟩, alternateAfter, sameAfter⟩ := cut.beside alternate
  obtain ⟨leadLines, leadLength⟩ := old_map_takeLast context sameBefore
  obtain ⟨trailLines, trailLength⟩ := old_map_takeFirst context sameAfter
  rw [← unchangedBehind_eq alternateBefore sameBefore] at leadLines leadLength
  rw [← unchangedAhead_eq alternateAfter sameAfter] at trailLines trailLength
  refine ⟨cut.whole, cut.shown, cut.cluster.ne_nil, cut.cluster.head_changed,
    cut.cluster.last_changed, ?_, leadLines, leadLength, trailLines, trailLength⟩
  intro stretch among
  simp only [List.mem_append, List.mem_map, Option.mem_toList] at among
  obtain ⟨edge, isEdge, rfl⟩ | ⟨edge, isEdge, rfl⟩ := among
  next => rw [Placed.isSame_takeLast, sameBefore edge isEdge]
  next => rw [Placed.isSame_takeFirst, sameAfter edge isEdge]

end CutOut

theorem Framed.mem_body {lead trail : List (Placed α)}
    (framed : Framed context stretches hunk before lead body trail after) {stretch : Placed α}
    (among : stretch ∈ hunk) (changed : stretch.run.isSame = false) : stretch ∈ body := by
  have notMargin : stretch ∉ lead ++ trail := by
    intro margin
    have same := framed.unchanged stretch margin
    rw [changed] at same
    cases same
  rw [framed.shown] at among
  simp only [List.mem_append, not_or] at among notMargin
  tauto

end Framing

section Together

variable {context : Nat} {stretches : List (Placed α)} {shown : List (Hunk α)}

-- Kinds alternate, so what lies between two changes in a row is one unchanged stretch.
theorem exists_between {before between after : List (Placed α)} {first second : Placed α}
    (alternate : Alternate (before ++ first :: (between ++ second :: after)))
    (firstChanged : first.run.isSame = false) (secondChanged : second.run.isSame = false)
    (same : ∀ stretch ∈ between, stretch.run.isSame = true) :
    ∃ stretch, between = [stretch] := by
  have inner := alternate.right_of_append
  match between, inner, same with
  | [], inner, _ =>
    have differ := (List.isChain_cons_cons.1 inner).1
    exact absurd (firstChanged.trans secondChanged.symm) differ
  | [stretch], _, _ => exact ⟨stretch, rfl⟩
  | stretch :: next :: more, inner, same =>
    have differ := (List.isChain_cons_cons.1 (List.isChain_cons.1 inner).2).1
    have equal : stretch.run.isSame = next.run.isSame :=
      (same stretch (by simp)).trans (same next (by simp)).symm
    exact absurd equal differ

-- A stretch stands in one place only, so what comes after it there comes after it here.
theorem rest_eq {before body after earlier later : List (Placed α)} {stretch : Placed α}
    (nodup : stretches.Nodup) (whole : stretches = before ++ (body ++ after))
    (elsewhere : stretches = earlier ++ stretch :: later) (among : stretch ∈ body) :
    ∃ front back, body = front ++ stretch :: back ∧ back ++ after = later := by
  obtain ⟨front, back, rfl⟩ := List.append_of_mem among
  have here : stretches = (before ++ front) ++ stretch :: (back ++ after) := by simp [whole]
  rw [here, List.nodup_append, List.nodup_cons] at nodup
  obtain ⟨-, ⟨notAfter, -⟩, disjoint⟩ := nodup
  have notBefore : stretch ∉ before ++ front := fun again =>
    disjoint stretch again stretch List.mem_cons_self rfl
  have equal := (List.append_cons_inj_of_notMem notBefore notAfter).1 (here.symm.trans elsewhere)
  exact ⟨front, back, rfl, equal.2.2⟩

-- The next change is in the cluster unless the cluster ends at a gap before it.
theorem CutOut.mem_body_iff {before body after earlier later : List (Placed α)} {hunk : Hunk α}
    {first between second : Placed α} (cut : CutOut context stretches hunk earlier body later)
    (nodup : stretches.Nodup) (whole : stretches = before ++ first :: between :: second :: after)
    (same : between.run.isSame = true) (inside : first ∈ body) :
    second ∈ body ↔ between.isGap context = false := by
  obtain ⟨front, back, rfl, rest⟩ := rest_eq nodup cut.whole whole inside
  rcases back with _ | ⟨next, _ | ⟨last, back⟩⟩
  next =>
    obtain rfl : later = between :: second :: after := rest
    have gap := cut.closed (List.cons_ne_nil _ _) between rfl
    rw [cut.whole, List.nodup_append, List.nodup_append] at nodup
    obtain ⟨-, ⟨-, -, disjoint⟩, -⟩ := nodup
    refine iff_of_false (fun again => disjoint second again second (by simp) rfl) ?_
    simp [gap]
  next =>
    obtain ⟨rfl, -⟩ := List.cons.inj rest
    have changed := cut.cluster.last_changed next (by simp)
    rw [same] at changed
    cases changed
  next =>
    obtain ⟨rfl, others⟩ := List.cons.inj rest
    obtain ⟨rfl, -⟩ := List.cons.inj others
    exact iff_of_true (by simp) (cut.cluster.not_isGap next (by simp))

theorem together_iff {before between after : List (Placed α)} {first second : Placed α}
    (alternate : Alternate stretches) (nodup : stretches.Nodup)
    (cuts : ∀ hunk ∈ shown, ∃ before body after, CutOut context stretches hunk before body after)
    (complete : ∀ stretch ∈ stretches, stretch.run.isSame = false → ∃ hunk ∈ shown, stretch ∈ hunk)
    (whole : stretches = before ++ first :: (between ++ second :: after))
    (firstChanged : first.run.isSame = false) (secondChanged : second.run.isSame = false)
    (same : ∀ stretch ∈ between, stretch.run.isSame = true) :
    (∃ hunk ∈ shown, first ∈ hunk ∧ second ∈ hunk) ↔
      (Hunk.old between).length ≤ 2 * context := by
  obtain ⟨stretch, rfl⟩ := exists_between (whole ▸ alternate) firstChanged secondChanged same
  have same := same stretch (by simp)
  have close : (Hunk.old [stretch]).length ≤ 2 * context ↔ stretch.isGap context = false := by
    rw [← Bool.not_eq_true, Placed.isGap_iff same, Nat.not_lt, Hunk.old, List.flatMap_singleton]
  rw [close]
  constructor
  next =>
    rintro ⟨hunk, among, firstIn, secondIn⟩
    obtain ⟨earlier, body, later, cut⟩ := cuts hunk among
    have framed := cut.framed alternate
    have firstBody := framed.mem_body firstIn firstChanged
    exact (cut.mem_body_iff nodup whole same firstBody).1 (framed.mem_body secondIn secondChanged)
  next =>
    intro noGap
    obtain ⟨hunk, among, firstIn⟩ := complete first (by simp [whole]) firstChanged
    obtain ⟨earlier, body, later, cut⟩ := cuts hunk among
    have firstBody := (cut.framed alternate).mem_body firstIn firstChanged
    have secondBody := (cut.mem_body_iff nodup whole same firstBody).2 noGap
    exact ⟨hunk, among, firstIn, by simp [cut.shown, secondBody]⟩

-- The changes of all hunks together hold none twice.
theorem exists_only_hunk {stretch : Placed α} (nodup : (changes shown.flatten).Nodup)
    (among : stretch ∈ changes shown.flatten) :
    ∃ earlier hunk later, shown = earlier ++ hunk :: later ∧ stretch ∈ hunk ∧
      ∀ other ∈ earlier ++ later, stretch ∉ other := by
  obtain ⟨inside, changed⟩ := mem_changes_iff.1 among
  obtain ⟨hunk, isShown, here⟩ := List.mem_flatten.1 inside
  obtain ⟨earlier, later, rfl⟩ := List.append_of_mem isShown
  rw [List.flatten_append, List.flatten_cons, changes_append, changes_append, List.nodup_append,
    List.nodup_append] at nodup
  obtain ⟨-, ⟨-, -, apartLater⟩, apartEarlier⟩ := nodup
  have hereChange : stretch ∈ changes hunk := mem_changes_iff.2 ⟨here, changed⟩
  refine ⟨earlier, hunk, later, rfl, here, fun other isOther again => ?_⟩
  obtain isEarlier | isLater := List.mem_append.1 isOther
  next =>
    have before : stretch ∈ changes earlier.flatten :=
      mem_changes_iff.2 ⟨List.mem_flatten_of_mem isEarlier again, changed⟩
    exact apartEarlier stretch before stretch (List.mem_append_left _ hereChange) rfl
  next =>
    have after : stretch ∈ changes later.flatten :=
      mem_changes_iff.2 ⟨List.mem_flatten_of_mem isLater again, changed⟩
    exact apartLater stretch hereChange stretch after rfl

end Together

-- Slices count from the start of the lists, so what stands before the places goes along.
theorem Rewrites.apart {least oldAt newAt : Nat} {parts : List (Part α)} {old new : List α}
    (rewrites : Rewrites least oldAt newAt parts old new) (oldBefore newBefore : List α)
    (oldPlace : oldBefore.length = oldAt) (newPlace : newBefore.length = newAt) :
    parts.IsChain (Apart (oldBefore ++ old) (newBefore ++ new)) := by
  induction rewrites generalizing oldBefore newBefore with
  | rest => exact .nil
  | @part least oldAt newAt skipped old new part parts enough oldSlice newSlice others ih =>
    have oldReach : (oldBefore ++ skipped ++ part.old).length = part.oldSlice.stop := by
      simp [oldSlice, Slice.stop, oldPlace, Nat.add_assoc]
    have newReach : (newBefore ++ skipped ++ part.new).length = part.newSlice.stop := by
      simp [newSlice, Slice.stop, newPlace, Nat.add_assoc]
    have oldWhole : oldBefore ++ (skipped ++ (part.old ++ old)) =
        oldBefore ++ skipped ++ part.old ++ old := by simp
    have newWhole : newBefore ++ (skipped ++ (part.new ++ new)) =
        newBefore ++ skipped ++ part.new ++ new := by simp
    rw [oldWhole, newWhole]
    refine List.isChain_cons.2 ⟨?_, ih _ _ oldReach newReach⟩
    cases others with
    | rest => simp
    | @part _ _ _ between old new next parts enough oldSlice newSlice others =>
      rintro later ⟨⟩
      refine ⟨between, List.length_pos_iff.1 enough, by rw [oldSlice], by rw [newSlice], ?_, ?_⟩
      next => rw [← oldReach, Slice.of_append]
      next => rw [← newReach, Slice.of_append]

variable [DecidableEq α]

theorem hunks_layout (context : Nat) (old new : List α) :
    Layout context old new (stretches old new) (hunks context (script old new)) := by
  have normal := normal_foldr_consEdit (edits (lcsRows old new) old new)
  obtain ⟨laid, -, -⟩ := place_spec 0 0 (script old new)
  obtain ⟨scriptOld, scriptNew⟩ := flatMap_sides_script old new
  have covers := covers_place normal
  have alternate : Alternate (stretches old new) := covers.alternate
  have nodup : (stretches old new).Nodup := nodup_of_laid laid covers.solid
  have cuts := cutOut_of_mem_hunks context alternate
  have shown : changes (hunks context (script old new)).flatten = changes (stretches old new) :=
    changes_flatten_hunks context (script old new)
  have once (stretch : Placed α) (among : stretch ∈ stretches old new)
      (changed : stretch.run.isSame = false) := exists_only_hunk
    (by rw [shown]; exact nodup.filter _) (shown ▸ mem_changes_iff.2 ⟨among, changed⟩)
  refine ⟨?_, once, ?_, ?_, ?_⟩
  next =>
    intro hunk among
    obtain ⟨before, body, after, cut⟩ := cuts hunk among
    exact cut.exists_change
  next =>
    intro hunk among
    obtain ⟨before, body, after, cut⟩ := cuts hunk among
    exact ⟨_, _, _, _, _, cut.framed alternate⟩
  next =>
    intro before first between second after
    refine together_iff alternate nodup cuts fun stretch among changed => ?_
    obtain ⟨earlier, hunk, later, whole, inside, -⟩ := once stretch among changed
    exact ⟨hunk, by simp [whole], inside⟩
  next =>
    have rewrites := hunks_rewrites context (script old new)
    rw [scriptOld, scriptNew] at rewrites
    exact (List.isChain_map _).1 (rewrites.apart [] [] rfl rfl)

/-- The hunks of a unified diff show three unchanged lines on either side, and two changes share one
when at most six unchanged lines lie between them. -/
theorem unified_layout (old new : List α) :
    Layout 3 old new (stretches old new) (hunks contextLines (script old new)) :=
  hunks_layout contextLines old new

end GoldenSuite.Diff
