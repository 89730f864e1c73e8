import GoldenSuite.Proofs.Path.Base
import GoldenSuite.Proofs.Selection.Partition

set_option autoImplicit false

namespace GoldenSuite.Selection

def HasExtension (name : List Char) : Prop :=
  ∃ stem ending, name = stem ++ '.' :: ending ∧ '.' ∉ ending ∧ stem ≠ [] ∧ stem ≠ ['.']

def containing (letters : List Char) (all : List Path) : List Path :=
  all.filter fun path => Text.occurs letters path.chars

section Letters

theorem select_singleton (all : List Path) (filter : String) :
    select all [filter] = containing (needle filter) all := by
  simp only [select, List.isEmpty_cons, Bool.false_eq_true, if_false, claim, List.append_nil]
  rfl

-- Letters are told apart by the path that is made of nothing else.
theorem containing_inj {left right : List Char}
    (same : ∀ all, containing left all = containing right all) : left = right := by
  have inside {letters other : List Char}
      (same : ∀ all, containing letters all = containing other all) : other <:+: letters := by
    have alone := same [Path.ofChars letters]
    have itself : Text.occurs letters letters = true := Text.occurs_iff.2 List.infix_rfl
    simp only [containing, List.filter_cons, Path.chars_ofChars, itself, if_true,
      List.filter_nil] at alone
    split at alone
    next found => exact Text.occurs_iff.1 found
    next => cases alone
  have here := inside fun all => (same all).symm
  have there := inside same
  exact here.eq_of_length (Nat.le_antisymm here.length_le there.length_le)

theorem select_eq_containing_iff {filter : String} {letters : List Char} :
    (∀ all, select all [filter] = containing letters all) ↔ needle filter = letters := by
  simp only [select_singleton]
  exact ⟨containing_inj, fun same all => by rw [same]⟩

theorem splitExtension_cases (name : List Char) :
    (∃ stem ending, name = stem ++ '.' :: ending ∧ '.' ∉ ending ∧ stem ≠ []) ∨
      '.' ∉ name.tail := by
  have found := stem_splitExtension name
  generalize (Path.splitExtension name).1 = stem at found
  cases found with
  | cut solid last => exact .inl ⟨_, _, rfl, last, solid⟩
  | whole plain => exact .inr plain

theorem needle_append_dot {front extension : List Char} {filter : String}
    (text : filter.toList = front ++ '.' :: extension) (last : '.' ∉ extension)
    (solid : front ≠ []) : needle filter = front := by
  simp [needle, text, splitExtension_append_dot _ last, solid]

theorem needle_eq_toList_iff {filter : String} :
    needle filter = filter.toList ↔ '.' ∉ filter.toList.tail := by
  have found := stem_splitExtension filter.toList
  rw [← needle] at found
  generalize needle filter = stem, filter.toList = text at found ⊢
  cases found with
  | whole plain => simp [plain]
  | cut solid last =>
    obtain ⟨c, rest, rfl⟩ := List.exists_cons_of_ne_nil solid
    simp

theorem not_hasExtension_of_plain {name : List Char} (plain : '.' ∉ name.tail) :
    ¬ HasExtension name := by
  rintro ⟨stem, ending, rfl, -, solid, -⟩
  obtain ⟨c, rest, rfl⟩ := List.exists_cons_of_ne_nil solid
  simp at plain

theorem not_hasExtension_dots {ending : List Char} (last : '.' ∉ ending) :
    ¬ HasExtension ('.' :: '.' :: ending) := by
  rintro ⟨stem, ending', same, last', solid, more⟩
  have cut := (Stem.cut solid last').eq_splitExtension
  have dot : Path.splitExtension ('.' :: '.' :: ending) = (['.'], some ending) :=
    splitExtension_append_dot ['.'] last
  rw [← same, dot] at cut
  exact more cut

end Letters

section Cases

variable {path : Path} {before : List (List Char)} {name : List Char}

-- In front of the file name of a path that ends in it stands the same, whatever the name.
theorem chars_of_parts (ends : path.parts = before ++ [name]) :
    path.chars = Path.joinSegments (before ++ [[]]) ++ name := by
  rw [← Path.joinSegments_parts, ends, Path.joinSegments_append_last, List.nil_append]

theorem base_of_plain (found : path.lastName? = some (before, name))
    (ends : path.parts = before ++ [name])
    (plain : Path.splitExtension name = (name, none)) : path.base = path := by
  rw [Path.base_eq found, Path.cutLetters, Path.extensionLength, plain]
  simp only [Option.map_none, Option.getD_none, Nat.sub_zero, List.take_length, Path.ofChars_chars]
  rw [← Path.ofChars_chars path.cutAfterStem, Path.chars_cutAfterStem found, plain, ← ends,
    Path.joinSegments_parts, Path.ofChars_chars]

-- The letters of an extension go first, and with them the segment still ends in the dot.
theorem parts_cutLetters {stem extension : List Char}
    (ends : path.parts = before ++ [stem ++ '.' :: extension]) (last : '.' ∉ extension)
    (solid : stem ≠ []) :
    (path.cutLetters (stem ++ '.' :: extension)).parts = before ++ [stem ++ ['.']] := by
  have text : (path.cutLetters (stem ++ '.' :: extension)).chars =
      Path.joinSegments (before ++ [stem ++ ['.']]) := by
    have whole := chars_of_parts ends
    have front := Path.joinSegments_append_last before [] (stem ++ ['.'])
    rw [List.nil_append] at front
    have split : path.chars = Path.joinSegments (before ++ [stem ++ ['.']]) ++ extension := by
      rw [whole, ← front]
      simp
    simp [Path.cutLetters, Path.extensionLength, splitExtension_append_dot _ last, solid, split,
      Path.chars_ofChars]
  refine Path.parts_of_chars text (by simp) fun segment among => ?_
  have clear : ∀ part ∈ before ++ [stem ++ '.' :: extension], '/' ∉ part :=
    fun part inside => Path.slash_notMem_parts (ends ▸ inside)
  rcases List.mem_append.1 among with front | shorter
  next => exact clear segment (List.mem_append_left _ front)
  next =>
    rw [List.mem_singleton.1 shorter]
    have whole := clear (stem ++ '.' :: extension) (by simp)
    simp only [List.mem_append, List.mem_cons, not_or] at whole ⊢
    exact ⟨whole.1, whole.2.1, by simp⟩

theorem chars_base_of_extension {stem extension : List Char}
    (found : path.lastName? = some (before, stem ++ '.' :: extension))
    (ends : path.parts = before ++ [stem ++ '.' :: extension]) (last : '.' ∉ extension)
    (solid : stem ≠ []) (more : stem ≠ ['.']) :
    path.base.chars = Path.joinSegments (before ++ [stem]) := by
  have notParent : stem ++ ['.'] ≠ ['.'] ++ ['.'] :=
    fun same => more (List.append_cancel_right same)
  have named : Path.IsName (stem ++ ['.']) := ⟨by simp, by simpa using solid, notParent⟩
  have found' : (path.cutLetters (stem ++ '.' :: extension)).lastName? =
      some (before, stem ++ ['.']) :=
    Path.lastName?_eq_some_iff.2 ⟨named, [], parts_cutLetters ends last solid, by simp⟩
  have noMore : '.' ∉ ([] : List Char) := List.not_mem_nil
  rw [Path.base_eq found, Path.chars_cutAfterStem found', splitExtension_append_dot stem noMore]
  simp [solid]

-- Of two dots and an extension the dots are left, and they name no file.
theorem chars_base_of_dots {extension : List Char}
    (found : path.lastName? = some (before, ['.'] ++ '.' :: extension))
    (ends : path.parts = before ++ [['.'] ++ '.' :: extension]) (last : '.' ∉ extension) :
    path.base.chars = Path.joinSegments (before ++ [['.', '.']]) := by
  have parts := parts_cutLetters ends last (List.cons_ne_nil _ _)
  have nameless : (path.cutLetters (['.'] ++ '.' :: extension)).lastName? = none := by
    rcases found' : (path.cutLetters (['.'] ++ '.' :: extension)).lastName? with _ | ⟨front, other⟩
    next => rfl
    next =>
      obtain ⟨-, rfl⟩ := Path.lastName?_of_busy parts rfl found'
      exact absurd rfl (Path.lastName?_eq_some_iff.1 found').1.2.2
  rw [Path.base_eq found, Path.cutAfterStem_of_nameless nameless, ← Path.joinSegments_parts, parts]
  rfl

theorem getLast?_ne_slash (solid : path.EndsSolid) : path.chars.getLast? ≠ some '/' := by
  intro slash
  obtain ⟨front, last, ends, notEmpty⟩ := solid
  have among : last ∈ path.parts := by simp [ends]
  rw [chars_of_parts ends, List.getLast?_append_of_ne_nil _ notEmpty] at slash
  exact Path.slash_notMem_parts among (List.mem_of_getLast? slash)

end Cases

section Agreement

variable {filter : String} {before : List (List Char)} {name : List Char}

-- Behind a file name only steps that count for nothing can stand, and the last one is a dot.
theorem needle_ends_in_slash (found : (Path.mk filter).lastName? = some (before, name))
    (closed : filter.toList.getLast? ≠ some '/')
    (more : (Path.mk filter).parts ≠ before ++ [name]) :
    (needle filter).getLast? = some '/' := by
  obtain ⟨-, idle, split, allIdle⟩ := Path.lastName?_eq_some_iff.1 found
  rcases List.eq_nil_or_concat idle with rfl | ⟨others, final, rfl⟩
  next => exact absurd split more
  next =>
    have text : filter.toList = Path.joinSegments (before ++ name :: others) ++ '/' :: final := by
      have whole := Path.joinSegments_parts (Path.mk filter)
      rw [split, List.concat_eq_append, ← List.cons_append, ← List.append_assoc,
        Path.joinSegments_append (by simp) (by simp)] at whole
      simpa [Path.joinSegments, Path.chars] using whole.symm
    have idle := allIdle final (by simp)
    simp only [Path.isIdle, Bool.or_eq_true, List.isEmpty_iff, beq_iff_eq] at idle
    rcases idle with rfl | rfl
    next => exact absurd (by simp [text]) closed
    next =>
      rw [List.append_cons] at text
      rw [needle_append_dot text (by simp) (by simp)]
      simp

theorem needle_eq_base_iff (found : (Path.mk filter).lastName? = some (before, name))
    (closed : filter.toList.getLast? ≠ some '/') :
    needle filter = (Path.mk filter).base.chars ↔
      (Path.mk filter).parts = before ++ [name] ∧
        ('.' ∉ filter.toList.tail ∨ HasExtension name) := by
  by_cases ends : (Path.mk filter).parts = before ++ [name]
  case neg =>
    have slash := needle_ends_in_slash found closed ends
    have solid := getLast?_ne_slash (Path.base_endsSolid found)
    exact iff_of_false (fun same => solid (same ▸ slash)) fun both => ends both.1
  case pos =>
    have text : filter.toList = Path.joinSegments (before ++ [[]]) ++ name := chars_of_parts ends
    rcases splitExtension_cases name with ⟨stem, extension, rfl, last, solid⟩ | plain
    next =>
      have cut : needle filter = Path.joinSegments (before ++ [stem]) := by
        rw [← List.nil_append stem, ← Path.joinSegments_append_last]
        exact needle_append_dot (by simp [text]) last (by simp [solid])
      by_cases dots : stem = ['.']
      next =>
        subst dots
        have longer : Path.joinSegments (before ++ [['.', '.']]) =
            Path.joinSegments (before ++ [['.']]) ++ ['.'] :=
          (Path.joinSegments_append_last before ['.'] ['.']).symm
        have dotted : '.' ∈ filter.toList.tail := by
          rw [text]
          cases Path.joinSegments (before ++ [[]]) <;> simp
        rw [cut, chars_base_of_dots found ends last, longer]
        simp [not_hasExtension_dots last, dotted]
      next =>
        rw [cut, chars_base_of_extension found ends last solid dots]
        exact iff_of_true rfl ⟨ends, .inr ⟨stem, extension, rfl, last, solid, dots⟩⟩
    next =>
      rw [base_of_plain found ends (splitExtension_of_notMem_tail plain)]
      have unchanged : needle filter = (Path.mk filter).chars ↔ '.' ∉ filter.toList.tail :=
        needle_eq_toList_iff
      simp [unchanged, ends, not_hasExtension_of_plain plain]

/-- A filter that names a file selects what its base path occurs in exactly if it ends in the file
name and its last dot, if it has one, starts an extension of that name. With a dot and an extension
put on, it selects what the filter itself occurs in, whatever the extension. -/
theorem select_follows_base_iff (found : (Path.mk filter).lastName? = some (before, name))
    (closed : filter.toList.getLast? ≠ some '/') :
    ((∀ all, select all [filter] = containing (Path.mk filter).base.chars all) ↔
        (Path.mk filter).parts = before ++ [name] ∧
          ('.' ∉ filter.toList.tail ∨ HasExtension name)) ∧
      ∀ extension : String, '.' ∉ extension.toList →
        ∀ all, select all [filter ++ "." ++ extension] = containing filter.toList all := by
  refine ⟨select_eq_containing_iff.trans (needle_eq_base_iff found closed), ?_⟩
  intro extension last
  refine select_eq_containing_iff.2 (needle_append_dot (by simp) last fun none => ?_)
  exact Path.chars_ne_nil_of_lastName? (by simp [found]) none

end Agreement

section Samples

theorem select_follows_base_dotted :
    (Path.mk "v1.2/foo.test").lastName? = some (["v1.2".toList], "foo.test".toList) ∧
      "v1.2/foo.test".toList.getLast? ≠ some '/' ∧ '.' ∉ "bak".toList ∧
      (∀ all, select all ["v1.2/foo.test"] = containing "v1.2/foo".toList all) ∧
      ∀ all, select all ["v1.2/foo.test.bak"] = containing "v1.2/foo.test".toList all := by
  have found : (Path.mk "v1.2/foo.test").lastName? =
      some (["v1.2".toList], "foo.test".toList) := by decide
  have closed : "v1.2/foo.test".toList.getLast? ≠ some '/' := by decide
  have last : '.' ∉ "bak".toList := by decide
  have extended : HasExtension "foo.test".toList :=
    ⟨"foo".toList, "test".toList, by decide, by decide, by decide, by decide⟩
  obtain ⟨follows, more⟩ := select_follows_base_iff found closed
  exact ⟨found, closed, last, follows.2 ⟨by decide, .inr extended⟩, more "bak" last⟩

-- The last dot of the filter is the one of its directory, which the other fixture's starts like.
theorem select_takes_directory_dot :
    select [⟨"v1.2/foo.test"⟩, ⟨"v1.3/bar.test"⟩] ["v1.2/foo"] =
        [⟨"v1.2/foo.test"⟩, ⟨"v1.3/bar.test"⟩] ∧
      containing (Path.mk "v1.2/foo").base.chars [⟨"v1.2/foo.test"⟩, ⟨"v1.3/bar.test"⟩] =
        [⟨"v1.2/foo.test"⟩] ∧
      select [⟨"v1.2/foo.test"⟩, ⟨"v1.3/bar.test"⟩] ["v1.2/foo.test"] = [⟨"v1.2/foo.test"⟩] := by
  decide

end Samples

end GoldenSuite.Selection
