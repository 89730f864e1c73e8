import GoldenSuite.Proofs.Fixture.RoundTrip
import GoldenSuite.Proofs.Regex.Room
import GoldenSuite.Proofs.Volatile.Stripping

set_option autoImplicit false

namespace GoldenSuite

namespace VolatileFilter

open Text

section Reading

theorem marker?_of_spells {written : String} {mark : List Char}
    (spelled : Regex.Spells written.toList mark) (solid : mark ≠ []) :
    marker? written =
      if (Regex.bytesOf mark).length ≤ Regex.mostBytes then some (.literal mark) else none := by
  rw [marker?, Regex.parse?_of_spells spelled solid]
  by_cases room : (Regex.bytesOf mark).length ≤ Regex.mostBytes
  next => simp [room, (Regex.fits_literal_iff mark).2 room]
  next => simp [room, mt (Regex.fits_literal_iff mark).1 room]

theorem ofMarkers_cons_eq_ok_iff {marker : String} {markers : List String}
    {filter : VolatileFilter} : ofMarkers (marker :: markers) = .ok filter ↔
      ∃ regex others, marker? marker = some regex ∧ ofMarkers markers = .ok others ∧
        filter = ⟨regex :: others.markers⟩ := by
  rw [ofMarkers]
  cases marker? marker with
  | none => simp
  | some regex =>
    cases ofMarkers markers with
    | error first => simp [bind, Except.bind]
    | ok others => simp [bind, Except.bind, pure, Except.pure, eq_comm]

theorem ofMarkers_eq_ok_iff {written : List String} {marks : List (List Char)}
    (spelled : List.Forall₂ (fun written mark => Regex.Spells written.toList mark) written marks)
    (solid : ∀ mark ∈ marks, mark ≠ []) (filter : VolatileFilter) :
    ofMarkers written = .ok filter ↔
      (∀ mark ∈ marks, (Regex.bytesOf mark).length ≤ Regex.mostBytes) ∧ filter = ofMarks marks := by
  induction spelled generalizing filter with
  | nil => simp [ofMarkers, ofMarks, eq_comm]
  | cons first _ ih =>
    obtain ⟨inhabited, others⟩ := List.forall_mem_cons.1 solid
    simp only [ofMarkers_cons_eq_ok_iff, marker?_of_spells first inhabited, ih others,
      List.forall_mem_cons]
    constructor
    next =>
      rintro ⟨regex, rest, fitting, ⟨roomy, rfl⟩, rfl⟩
      split at fitting
      next room =>
        obtain rfl := Option.some.inj fitting
        exact ⟨⟨room, roomy⟩, rfl⟩
      next => cases fitting
    next =>
      rintro ⟨⟨room, roomy⟩, rfl⟩
      exact ⟨_, _, if_pos room, ⟨roomy, rfl⟩, rfl⟩

end Reading

section Removing

variable {marks : List (List Char)}

def Free (marks : List (List Char)) (line : List Char) : Prop := ∀ mark ∈ marks, ¬ mark <:+: line

instance (marks : List (List Char)) (line : List Char) : Decidable (Free marks line) :=
  inferInstanceAs (Decidable (∀ mark ∈ marks, ¬ mark <:+: line))

/-- Of the lines of a text those in which a mark occurs are gone, and the others are still there,
blanks around them aside. -/
structure Removed (marks : List (List Char)) (text stripped : String) : Prop where
  free : ∀ line ∈ stripped.toList.splitOn '\n', Free marks line
  lines : solidLines trim stripped.toList =
    (((text.toList.splitOn '\n').filter (Free marks ·)).map trim).filter (· ≠ [])
  tidy : Tidy stripped.toList

theorem isVolatile_ofMarks_eq (marks : List (List Char)) (line : List Char) :
    (!(ofMarks marks).isVolatile line) = decide (Free marks line) := by
  rw [Bool.eq_iff_iff, Bool.not_eq_true', ← Bool.not_eq_true, isVolatile_ofMarks_iff,
    decide_eq_true_eq]
  simp [Free]

-- A shape of lines that leaves nothing of those that go.
def trimFree (marks : List (List Char)) (line : List Char) : List Char :=
  if Free marks line then trim line else []

theorem map_trimFree (lines : List (List Char)) :
    (lines.map (trimFree marks)).filter (· ≠ []) =
      ((lines.filter (Free marks ·)).map trim).filter (· ≠ []) := by
  induction lines with
  | nil => rfl
  | cons line lines ih =>
    by_cases free : Free marks line
    next =>
      have shaped : trimFree marks line = trim line := if_pos free
      simp only [List.map_cons, List.filter_cons, shaped, free, decide_true, if_true, ih]
    next =>
      have shaped : trimFree marks line = [] := if_neg free
      simpa only [List.map_cons, List.filter_cons, shaped, free, decide_false, ne_eq, not_true,
        Bool.false_eq_true, if_false] using ih

variable (bare : ∀ mark ∈ marks, mark ≠ [] ∧ '\n' ∉ mark)

include bare

theorem free_append_feed (line : List Char) :
    Free marks (line ++ ['\n']) ↔ Free marks line := by
  have seam (mark : List Char) (among : mark ∈ marks) :
      mark <:+: line ++ ['\n'] ↔ mark <:+: line :=
    infix_append_singleton_iff (bare mark among).1 (bare mark among).2 line
  exact forall_congr' fun mark => forall_congr' fun among => not_congr (seam mark among)

theorem free_stripChars (text : List Char) : Free marks ((ofMarks marks).stripChars text) := by
  intro mark among found
  obtain ⟨solid, feedless⟩ := bare mark among
  obtain ⟨line, member, within⟩ := (ofMarks marks).exists_kept_line text solid feedless found
  have volatile := (isVolatile_ofMarks_iff marks line).2 ⟨mark, among, within⟩
  exact absurd volatile (by simp [not_volatile_of_mem_kept _ _ member])

theorem solidLines_ofMarks (text : List Char) :
    solidLines trim ((ofMarks marks).stripChars text) =
      (((text.splitOn '\n').filter (Free marks ·)).map trim).filter (· ≠ []) := by
  have hollow : trimFree marks [] = [] := ite_self []
  -- Lines are looked at with their line feeds, of which no mark has one.
  have ended (line : List Char) : trimFree marks (line ++ ['\n']) = trimFree marks line := by
    simp only [trimFree, free_append_feed bare, trim_append_feed]
  have same := solidLines_eq_linesWithEnds hollow ended text
  rw [solidLines, map_trimFree, map_trimFree] at same
  rw [solidLines_stripChars, kept, same]
  simp only [isVolatile_ofMarks_eq]

theorem removed_strip (text : String) : Removed marks text ((ofMarks marks).strip text) where
  free line among := by
    rw [toList_strip] at among
    exact fun mark member inside => free_stripChars bare text.toList mark member
      (inside.trans (infix_of_mem_splitOn among))
  lines := by rw [toList_strip, solidLines_ofMarks bare]
  tidy := by
    rw [toList_strip]
    exact tidy_stripChars _ _

end Removing

section Storing

/-- The artifact is read from a fixture as it was written there, where it is more than a line
feed. -/
def ReadBack (artifact : String) : Prop :=
  ∀ source symbols, ¬ Fixture.HoldsDelimiter source → ¬ Fixture.HoldsDelimiter artifact →
    (∀ listing ∈ symbols, ¬ Fixture.HoldsDelimiter listing) →
      ∃ again, Fixture.parse (Fixture.render source artifact symbols) = .ok again ∧
        again.artifact = if artifact = "\n" then "" else artifact

theorem Tidy.leftTrimmed {text : String} (tidy : Tidy text.toList) :
    Text.leftTrimmed text = if text = "\n" then "" else text := by
  by_cases hollow : text = "\n"
  next =>
    rw [if_pos hollow, hollow]
    rfl
  next =>
    have more : text.toList ≠ ['\n'] := fun same => hollow (String.toList_inj.1 same)
    rw [if_neg hollow, Text.leftTrimmed, trimStart_eq_self (tidy.head_solid more),
      String.ofList_toList]

theorem Tidy.readBack {artifact : String} (tidy : Tidy artifact.toList) : ReadBack artifact :=
  fun _ _ sourceClear clear symbolsClear =>
    ⟨_, Fixture.parse_render sourceClear clear symbolsClear, tidy.leftTrimmed⟩

end Storing

/-- Markers that spell texts without line feeds, and are not too long, take away exactly the lines
in which one of these texts occurs. What is left is read back from a fixture as it is, unless
nothing is left. -/
theorem strip_removes_marked {marks : List (List Char)}
    (bare : ∀ mark ∈ marks, mark ≠ [] ∧ '\n' ∉ mark) :
    (∀ written filter,
        List.Forall₂ (fun written mark => Regex.Spells written.toList mark) written marks →
          (ofMarkers written = .ok filter ↔
            (∀ mark ∈ marks, (Regex.bytesOf mark).length ≤ Regex.mostBytes) ∧
              filter = ofMarks marks)) ∧
      ∀ text, Removed marks text ((ofMarks marks).strip text) ∧
        ReadBack ((ofMarks marks).strip text) := by
  refine ⟨fun written filter spelled => ?_, fun text => ?_⟩
  next => exact ofMarkers_eq_ok_iff spelled (fun mark member => (bare mark member).1) filter
  next =>
    have removed := removed_strip bare text
    exact ⟨removed, removed.tidy.readBack⟩

section Samples

def moduleMarks : List (List Char) := ["; ModuleID".toList, "source_filename".toList]

-- The last mark stands in the middle of its line, and blanks stand around what is left.
def moduleText : String :=
  "; ModuleID = 'a'\nsource_filename = a\n\n  declare void @f()  \n\n ; x; ModuleID\nret\n\t\n"

theorem strip_removes_marked_defaults :
    (∀ mark ∈ moduleMarks, mark ≠ [] ∧ '\n' ∉ mark) ∧
      ofMarkers ({} : Config).volatileMarkers = .ok (ofMarks moduleMarks) ∧
      Removed moduleMarks moduleText "declare void @f()  \n\nret\n" ∧
      ∃ again, Fixture.parse (Fixture.render "int main() {}" "declare void @f()  \n\nret\n"
          (some "main T\n")) = .ok again ∧
        again.artifact = "declare void @f()  \n\nret\n" := by
  have bare : ∀ mark ∈ moduleMarks, mark ≠ [] ∧ '\n' ∉ mark := by decide
  obtain ⟨compiles, strips⟩ := strip_removes_marked bare
  have spelled : List.Forall₂ (fun written mark => Regex.Spells written.toList mark)
      ({} : Config).volatileMarkers moduleMarks :=
    .cons (Regex.spells_self (by decide)) (.cons (Regex.spells_self (by decide)) .nil)
  have compiled := (compiles _ _ spelled).2 ⟨by decide +kernel, rfl⟩
  have stripped : (ofMarks moduleMarks).strip moduleText = "declare void @f()  \n\nret\n" := by
    decide +kernel
  obtain ⟨removed, readBack⟩ := strips moduleText
  rw [stripped] at removed readBack
  refine ⟨bare, compiled, removed, ?_⟩
  simpa using readBack "int main() {}" (some "main T\n") (by decide) (by decide) (by decide)

end Samples

end VolatileFilter

end GoldenSuite
