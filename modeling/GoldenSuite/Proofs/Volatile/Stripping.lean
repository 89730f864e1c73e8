import GoldenSuite.Config
import GoldenSuite.Proofs.Regex.Literal
import GoldenSuite.Proofs.Text.Lines
import Mathlib.Logic.Function.Iterate

set_option autoImplicit false

namespace GoldenSuite

namespace Text

section Trimmed

variable (text : List Char)

theorem trim_append_feed : trim (text ++ ['\n']) = trim text :=
  trim_append_of_blank (by decide) text

theorem solidLines_trim_append {blanks : List Char} (blank : blanks.all isBlank = true) :
    solidLines trim (text ++ blanks) = solidLines trim text :=
  solidLines_append_blanks rfl (fun line _ blank => trim_append_of_blank blank line) text blank

theorem solidLines_trim_eq_linesWithEnds :
    solidLines trim text = ((linesWithEnds text).map trim).filter (· ≠ []) :=
  solidLines_eq_linesWithEnds rfl trim_append_feed text

theorem solidLines_trim : solidLines trim (trim text) = solidLines trim text := by
  obtain ⟨lead, trail, whole, front, back⟩ := exists_trim_append text
  have led : solidLines trim (lead ++ (trim text ++ trail)) = solidLines trim (trim text ++ trail) :=
    solidLines_append_of_blanks rfl (fun line _ blank => trim_cons_of_blank blank line) _ front
  rw [← whole] at led
  rw [led, solidLines_trim_append _ back]

end Trimmed

section Ends

variable {text line : List Char}

theorem first_line_solid (front : ∀ c ∈ text.head?, isBlank c = false)
    {after : List (List Char)} (split : linesWithEnds text = line :: after) :
    line.all isBlank = false := by
  rcases text with _ | ⟨c, rest⟩
  next => cases split
  next =>
    have solid : isBlank c = false := front c rfl
    have other : c ≠ '\n' := by
      rintro rfl
      exact absurd solid (by decide)
    rw [linesWithEnds_cons_of_ne other] at split
    obtain ⟨rfl, -⟩ := List.cons.inj split
    rw [List.all_cons, solid, Bool.false_and]

theorem last_line_solid (inhabited : text ≠ []) (back : ∀ c ∈ text.getLast?, isBlank c = false)
    {before : List (List Char)} (split : linesWithEnds (text ++ ['\n']) = before ++ [line]) :
    line.all isBlank = false := by
  induction text using linesInduction generalizing before with
  | single body bare =>
    have single : body ++ ['\n'] = line := by
      rw [linesWithEnds_append_feed bare] at split
      simpa [linesWithEnds] using congrArg List.getLast? split
    subst single
    have ended := List.getLast?_eq_some_getLast inhabited
    rw [List.all_append, Bool.and_eq_false_iff, List.all_eq_false]
    exact .inl ⟨_, List.getLast_mem inhabited, by simp [back _ ended]⟩
  | line body rest bare ih =>
    have more : rest ≠ [] := by
      rintro rfl
      exact absurd (back '\n' (by simp)) (by decide)
    have inside : ∀ c ∈ rest.getLast?, isBlank c = false := by
      intro c ended
      apply back
      rw [Option.mem_def] at ended
      simp [List.getLast?_append, List.getLast?_cons, ended]
    rw [linesWithEnds_line_append bare] at split
    rcases before with _ | ⟨_, before⟩
    next =>
      have joined := flatten_linesWithEnds (rest ++ ['\n'])
      simp [(List.cons.inj split).2] at joined
    next => exact ih more inside (List.cons.inj split).2

end Ends

end Text

namespace VolatileFilter

open Text

variable (filter : VolatileFilter) (text : List Char)

def kept : List (List Char) := (linesWithEnds text).filter fun line => !filter.isVolatile line

theorem stripChars_eq : filter.stripChars text = trim (filter.kept text).flatten ++ ['\n'] := rfl

@[simp] theorem toList_strip (text : String) :
    (filter.strip text).toList = filter.stripChars text.toList := String.toList_ofList

theorem linesWithEnds_kept : linesWithEnds (filter.kept text).flatten = filter.kept text :=
  linesWithEnds_flatten_filter _ text

theorem not_volatile_of_mem_kept {line : List Char} (among : line ∈ filter.kept text) :
    filter.isVolatile line = false := by
  simpa using (List.mem_filter.1 among).2

-- What is left of a text joins its lines nowhere, so a mark without line feeds was on one of them.
theorem exists_kept_line {mark : List Char} (solid : mark ≠ []) (bare : '\n' ∉ mark)
    (found : mark <:+: filter.stripChars text) : ∃ line ∈ filter.kept text, mark <:+: line := by
  rw [stripChars_eq, infix_append_singleton_iff solid bare] at found
  obtain ⟨lead, trail, whole, -, -⟩ := exists_trim_append (filter.kept text).flatten
  have inside : mark <:+: (filter.kept text).flatten := by
    rw [whole]
    exact found.trans ⟨lead, trail, by simp⟩
  rw [← linesWithEnds_kept]
  exact exists_line_of_infix solid bare inside

theorem solidLines_stripChars :
    solidLines trim (filter.stripChars text) = ((filter.kept text).map trim).filter (· ≠ []) := by
  rw [stripChars_eq, solidLines_trim_append _ (by decide), solidLines_trim,
    solidLines_trim_eq_linesWithEnds, linesWithEnds_kept]

section Shape

inductive Tidy : List Char → Prop
  | hollow : Tidy ['\n']
  | solid {body : List Char} (inhabited : body ≠ [])
      (front : ∀ c ∈ body.head?, isBlank c = false)
      (back : ∀ c ∈ body.getLast?, isBlank c = false) : Tidy (body ++ ['\n'])

theorem tidy_stripChars : Tidy (filter.stripChars text) := by
  rw [stripChars_eq]
  by_cases hollow : trim (filter.kept text).flatten = []
  next =>
    rw [hollow]
    exact .hollow
  next => exact .solid hollow (head_trim_solid _) (last_trim_solid _)

variable {text}

theorem Tidy.trim_append (tidy : Tidy text) : trim text ++ ['\n'] = text := by
  cases tidy with
  | hollow => rfl
  | solid inhabited front back =>
    rw [trim_append_feed, trim, trimStart_eq_self front, trimEnd_eq_self back]

theorem Tidy.head_solid (tidy : Tidy text) (more : text ≠ ['\n']) :
    ∀ c ∈ text.head?, isBlank c = false := by
  cases tidy with
  | hollow => exact absurd rfl more
  | solid inhabited front back => simpa [List.head?_append_of_ne_nil _ inhabited] using front

-- The only blank line at an end of a tidy text is the whole of it.
theorem Tidy.inner_of_blank (tidy : Tidy text) (more : text ≠ ['\n'])
    {before after : List (List Char)} {line : List Char}
    (split : linesWithEnds text = before ++ line :: after) (blank : line.all isBlank = true) :
    before ≠ [] ∧ after ≠ [] := by
  constructor
  next =>
    rintro rfl
    have first := first_line_solid (tidy.head_solid more) split
    simp [blank] at first
  next =>
    rintro rfl
    cases tidy with
    | hollow => exact absurd rfl more
    | solid inhabited front back =>
      have last := last_line_solid inhabited back split
      simp [blank] at last

end Shape

section Again

variable {text}

-- A line between others is a line that was looked at.
theorem mem_kept_of_inner {before after : List (List Char)} {line : List Char}
    (split : linesWithEnds (filter.stripChars text) = before ++ line :: after)
    (first : before ≠ []) (last : after ≠ []) : line ∈ filter.kept text := by
  obtain ⟨lead, trail, whole, -, -⟩ := exists_trim_append (filter.kept text).flatten
  rw [stripChars_eq] at split
  obtain ⟨front, body, rest, bare, rfl, inside⟩ := exists_inner_of_ended split first last
  have moved : lead ++ (front ++ '\n' :: (body ++ '\n' :: rest) ++ trail) =
      lead ++ front ++ '\n' :: (body ++ '\n' :: (rest ++ trail)) := by simp
  rw [← linesWithEnds_kept, whole, inside, moved, linesWithEnds_append,
    linesWithEnds_append_feed bare]
  exact List.mem_append_right _ List.mem_cons_self

/-- No line but a blank one is volatile. -/
def Clean (text : List Char) : Prop :=
  ∀ line ∈ linesWithEnds text, line.all isBlank = false → filter.isVolatile line = false

-- The blank lines of a stripped text stand between others.
theorem kept_stripChars (clean : filter.Clean (filter.stripChars text))
    (more : filter.stripChars text ≠ ['\n']) :
    filter.kept (filter.stripChars text) = linesWithEnds (filter.stripChars text) := by
  apply List.filter_eq_self.2
  intro line among
  rw [Bool.not_eq_true']
  cases blank : line.all isBlank with
  | false => exact clean line among blank
  | true =>
    obtain ⟨before, after, split⟩ := List.append_of_mem among
    obtain ⟨first, last⟩ := (filter.tidy_stripChars text).inner_of_blank more split blank
    exact filter.not_volatile_of_mem_kept text (filter.mem_kept_of_inner split first last)

theorem stripChars_feed : filter.stripChars ['\n'] = ['\n'] := by
  cases found : filter.isVolatile ['\n'] <;> simp [stripChars, linesWithEnds, found] <;> rfl

-- A volatile line that is not blank is missing when the lines are counted again.
theorem clean_of_length_eq
    (same : (solidLines trim (filter.stripChars text)).length = (solidLines trim text).length) :
    filter.Clean text := by
  rw [solidLines_stripChars, solidLines_trim_eq_linesWithEnds, kept] at same
  simp only [List.filter_map, List.length_map] at same
  rw [List.filter_comm, List.length_filter_eq_length_iff] at same
  intro line among solid
  have inhabited : trim line ≠ [] := by simp [trim_eq_nil_iff, solid]
  simpa using same line (List.mem_filter.2 ⟨among, by simpa using inhabited⟩)

theorem stripChars_stripChars_iff :
    filter.stripChars (filter.stripChars text) = filter.stripChars text ↔
      filter.Clean (filter.stripChars text) := by
  refine ⟨fun stable => filter.clean_of_length_eq (by rw [stable]), fun clean => ?_⟩
  by_cases hollow : filter.stripChars text = ['\n']
  next => rw [hollow, stripChars_feed]
  next =>
    rw [filter.stripChars_eq (filter.stripChars text), filter.kept_stripChars clean hollow,
      flatten_linesWithEnds]
    exact (filter.tidy_stripChars text).trim_append

def Blind : Prop :=
  ∀ line other, trim line = trim other → filter.isVolatile line = filter.isVolatile other

theorem clean_of_blind (blind : filter.Blind) : filter.Clean (filter.stripChars text) := by
  intro line among solid
  have counted : trim line ∈ solidLines trim (filter.stripChars text) := by
    rw [solidLines_trim_eq_linesWithEnds]
    exact List.mem_filter.2 ⟨List.mem_map_of_mem among, by simp [trim_eq_nil_iff, solid]⟩
  rw [solidLines_stripChars] at counted
  obtain ⟨original, kept, same⟩ := List.mem_map.1 (List.mem_filter.1 counted).1
  rw [← blind original line same]
  exact filter.not_volatile_of_mem_kept text kept

end Again

section Literals

def ofMarks (marks : List (List Char)) : VolatileFilter := ⟨marks.map Regex.literal⟩

theorem isVolatile_ofMarks_iff (marks : List (List Char)) (line : List Char) :
    (ofMarks marks).isVolatile line = true ↔ ∃ mark ∈ marks, mark <:+: line := by
  simp [isVolatile, ofMarks, Regex.isMatch_literal_iff]

theorem blind_ofMarks {marks : List (List Char)}
    (trimmed : ∀ mark ∈ marks, mark ≠ [] ∧ trim mark = mark) : (ofMarks marks).Blind := by
  intro line other same
  rw [Bool.eq_iff_iff, isVolatile_ofMarks_iff, isVolatile_ofMarks_iff]
  have found (mark : List Char) (among : mark ∈ marks) : mark <:+: line ↔ mark <:+: other := by
    obtain ⟨solid, ends⟩ := trimmed mark among
    rw [← infix_trim_iff solid ends, same, infix_trim_iff solid ends]
  exact exists_congr fun mark => and_congr_right (found mark)

end Literals

theorem strip_strip_iff (text : String) :
    filter.strip (filter.strip text) = filter.strip text ↔
      filter.Clean (filter.strip text).toList := by
  rw [← String.toList_inj, toList_strip, toList_strip, stripChars_stripChars_iff]

/-- Stripping is stable on a text exactly when no line of the stripped text but a blank one is
volatile. No line between others is, and none at all where blanks at the ends of a line do not
matter to the markers. -/
theorem strip_stable_iff (text : String) :
    (filter.strip (filter.strip text) = filter.strip text ↔
        filter.Clean (filter.strip text).toList) ∧
      (∀ before line after, linesWithEnds (filter.strip text).toList = before ++ line :: after →
        before ≠ [] → after ≠ [] → filter.isVolatile line = false) ∧
      (filter.Blind → filter.strip (filter.strip text) = filter.strip text) := by
  refine ⟨filter.strip_strip_iff text, ?_, fun blind => ?_⟩
  next =>
    intro before line after split first last
    rw [toList_strip] at split
    exact filter.not_volatile_of_mem_kept _ (filter.mem_kept_of_inner split first last)
  next =>
    rw [strip_strip_iff, toList_strip]
    exact filter.clean_of_blind blind

section Samples

def anchoredConfig : Config := { volatileMarkers := ["^;"] }

def anchored : VolatileFilter := ⟨[.sequence [.look .textStart, .literal [';']]]⟩

-- Lines are looked at with the blanks in front of them, which the first line loses afterwards.
def indentedText : String := "  ; x\n  ; y\nret\n"

theorem strip_stable_iff_anchored :
    anchored.isVolatile "  ; y\n".toList = false ∧
      anchored.strip (anchored.strip indentedText) ≠ anchored.strip indentedText ∧
      ¬ anchored.Clean (anchored.strip indentedText).toList ∧
      (ofMarks ["; ModuleID".toList]).strip ((ofMarks ["; ModuleID".toList]).strip indentedText) =
        (ofMarks ["; ModuleID".toList]).strip indentedText := by
  obtain ⟨stable, inner, -⟩ := strip_stable_iff anchored indentedText
  obtain ⟨-, -, unmoved⟩ := strip_stable_iff (ofMarks ["; ModuleID".toList]) indentedText
  have changed : anchored.strip (anchored.strip indentedText) ≠ anchored.strip indentedText := by
    decide +kernel
  refine ⟨?_, changed, mt stable.2 changed, unmoved (blind_ofMarks (by decide))⟩
  exact inner ["; x\n".toList] _ ["ret\n".toList] (by decide +kernel) (by decide) (by decide)

theorem strip_not_stable : ¬ ∀ (config : Config) (filter : VolatileFilter),
    config.validate = .ok () → config.volatileFilter = .ok filter →
      ∀ text, filter.strip (filter.strip text) = filter.strip text := by
  intro stable
  have valid : anchoredConfig.validate = .ok () := by rfl
  have compiled : anchoredConfig.volatileFilter = .ok anchored := by rfl
  exact absurd (stable _ _ valid compiled "  ; x\nret\n") (by decide +kernel)

end Samples

end VolatileFilter

end GoldenSuite
