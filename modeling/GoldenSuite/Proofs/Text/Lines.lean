import GoldenSuite.Proofs.Text.Pieces
import GoldenSuite.Proofs.Text.Trimming
import GoldenSuite.Text.Lines
import Mathlib.Data.List.Basic

set_option autoImplicit false

namespace GoldenSuite.Text

section Cutting

@[elab_as_elim]
theorem linesInduction {motive : List Char → Prop}
    (single : ∀ body, '\n' ∉ body → motive body)
    (line : ∀ body rest, '\n' ∉ body → motive rest → motive (body ++ '\n' :: rest))
    (text : List Char) : motive text := by
  suffices ∀ body, '\n' ∉ body → motive (body ++ text) from this [] List.not_mem_nil
  induction text with
  | nil => exact fun body bare => by simpa using single body bare
  | cons c rest ih =>
    intro body bare
    by_cases feed : c = '\n'
    next =>
      subst feed
      exact line body rest bare (by simpa using ih [] List.not_mem_nil)
    next =>
      have longer : '\n' ∉ body ++ [c] := by simp [bare, Ne.symm feed]
      simpa using ih (body ++ [c]) longer

theorem linesWithEnds_cons_of_ne {c : Char} (other : c ≠ '\n') (rest : List Char) :
    linesWithEnds (c :: rest) =
      (c :: (linesWithEnds rest).headD []) :: (linesWithEnds rest).tail := by
  rw [linesWithEnds, if_neg other]
  cases linesWithEnds rest <;> rfl

theorem linesWithEnds_append_feed {body : List Char} (bare : '\n' ∉ body) (rest : List Char) :
    linesWithEnds (body ++ '\n' :: rest) = (body ++ ['\n']) :: linesWithEnds rest := by
  induction body with
  | nil => simp [linesWithEnds]
  | cons c body ih =>
    rw [List.mem_cons, not_or] at bare
    rw [List.cons_append, linesWithEnds_cons_of_ne (Ne.symm bare.1), ih bare.2]
    rfl

theorem linesWithEnds_of_bare {body : List Char} (bare : '\n' ∉ body) (solid : body ≠ []) :
    linesWithEnds body = [body] := by
  induction body with
  | nil => exact absurd rfl solid
  | cons c body ih =>
    rw [List.mem_cons, not_or] at bare
    rw [linesWithEnds_cons_of_ne (Ne.symm bare.1)]
    rcases body with _ | ⟨d, body⟩
    next => rfl
    next => rw [ih bare.2 (List.cons_ne_nil _ _)]; rfl

-- A line feed ends a line whatever stands in front of it.
theorem linesWithEnds_append {before : List Char} (rest : List Char) :
    linesWithEnds (before ++ '\n' :: rest) =
      linesWithEnds (before ++ ['\n']) ++ linesWithEnds rest := by
  induction before using linesInduction with
  | single body bare =>
    rw [linesWithEnds_append_feed bare, linesWithEnds_append_feed bare]
    rfl
  | line body before bare ih =>
    rw [List.append_assoc, List.cons_append, linesWithEnds_append_feed bare, ih,
      List.append_assoc, List.cons_append, linesWithEnds_append_feed bare, List.cons_append]

theorem infix_of_mem_linesWithEnds {text line : List Char} (among : line ∈ linesWithEnds text) :
    line <:+: text := by
  have inside := List.infix_of_mem_flatten among
  rwa [flatten_linesWithEnds] at inside

-- A mark without line feeds stands within a line.
theorem exists_line_of_infix {mark : List Char} (solid : mark ≠ []) (bareMark : '\n' ∉ mark)
    {text : List Char} (found : mark <:+: text) : ∃ line ∈ linesWithEnds text, mark <:+: line := by
  induction text using linesInduction with
  | single body bare =>
    have inhabited : body ≠ [] := by
      rintro rfl
      exact solid (List.infix_nil.1 found)
    exact ⟨body, by simp [linesWithEnds_of_bare bare inhabited], found⟩
  | line body rest bare ih =>
    rw [linesWithEnds_append_feed bare]
    rcases (infix_append_cons_iff solid bareMark body rest).1 found with here | later
    next =>
      exact ⟨body ++ ['\n'], List.mem_cons_self,
        (infix_append_singleton_iff solid bareMark body).2 here⟩
    next =>
      obtain ⟨line, among, inside⟩ := ih later
      exact ⟨line, List.mem_cons_of_mem _ among, inside⟩

-- Lines of a text stay lines when others are left out.
theorem linesWithEnds_flatten_filter (keep : List Char → Bool) (text : List Char) :
    linesWithEnds ((linesWithEnds text).filter keep).flatten = (linesWithEnds text).filter keep := by
  induction text using linesInduction with
  | single body bare =>
    by_cases empty : body = []
    next => simp [empty, linesWithEnds]
    next =>
      rw [linesWithEnds_of_bare bare empty]
      cases kept : keep body with
      | true => simp [kept, linesWithEnds_of_bare bare empty]
      | false => simp [kept, linesWithEnds]
  | line body rest bare ih =>
    rw [linesWithEnds_append_feed bare]
    cases kept : keep (body ++ ['\n']) with
    | true =>
      rw [List.filter_cons_of_pos kept, List.flatten_cons, List.append_assoc,
        List.singleton_append, linesWithEnds_append_feed bare, ih]
    | false => rw [List.filter_cons_of_neg (by simp [kept]), ih]

theorem exists_first_of_linesWithEnds {text line : List Char} {after : List (List Char)}
    (split : linesWithEnds text = line :: after) (more : after ≠ []) :
    ∃ body, '\n' ∉ body ∧ line = body ++ ['\n'] ∧ text = body ++ '\n' :: after.flatten := by
  induction text using linesInduction with
  | single body bare =>
    by_cases empty : body = []
    next => simp [empty, linesWithEnds] at split
    next =>
      rw [linesWithEnds_of_bare bare empty] at split
      exact absurd (List.cons.inj split).2.symm more
  | line body rest bare _ =>
    rw [linesWithEnds_append_feed bare] at split
    obtain ⟨rfl, rfl⟩ := List.cons.inj split
    exact ⟨body, bare, rfl, by rw [flatten_linesWithEnds]⟩

section Ended

variable {text line : List Char} {before after : List (List Char)}

theorem linesWithEnds_line_append {body : List Char} (bare : '\n' ∉ body) (rest ending : List Char) :
    linesWithEnds (body ++ '\n' :: rest ++ ending) =
      (body ++ ['\n']) :: linesWithEnds (rest ++ ending) := by
  rw [List.append_assoc, List.cons_append, linesWithEnds_append_feed bare]

theorem exists_first_of_ended (split : linesWithEnds (text ++ ['\n']) = line :: after)
    (last : after ≠ []) :
    ∃ body rest, '\n' ∉ body ∧ line = body ++ ['\n'] ∧ text = body ++ '\n' :: rest := by
  induction text using linesInduction with
  | single body bare =>
    rw [linesWithEnds_append_feed bare] at split
    exact absurd (List.cons.inj split).2.symm last
  | line body rest bare _ =>
    rw [linesWithEnds_line_append bare] at split
    exact ⟨body, rest, bare, (List.cons.inj split).1.symm, rfl⟩

-- A line between others stands between two line feeds, the last one of the text aside.
theorem exists_inner_of_ended
    (split : linesWithEnds (text ++ ['\n']) = before ++ line :: after) (first : before ≠ [])
    (last : after ≠ []) :
    ∃ front body rest, '\n' ∉ body ∧ line = body ++ ['\n'] ∧
      text = front ++ '\n' :: (body ++ '\n' :: rest) := by
  obtain ⟨start, others, rfl⟩ := List.exists_cons_of_ne_nil first
  induction text using linesInduction generalizing start others with
  | single body bare =>
    rw [linesWithEnds_append_feed bare] at split
    have many := (List.cons.inj split).2
    simp [linesWithEnds] at many
  | line body rest bare ih =>
    rw [linesWithEnds_line_append bare] at split
    have later := (List.cons.inj split).2
    rcases others with _ | ⟨next, others⟩
    next =>
      obtain ⟨inner, ending, clear, ended, rfl⟩ := exists_first_of_ended later last
      exact ⟨body, inner, ending, clear, ended, rfl⟩
    next =>
      obtain ⟨front, inner, ending, clear, ended, rfl⟩ := ih next others later (List.cons_ne_nil _ _)
      exact ⟨body ++ '\n' :: front, inner, ending, clear, ended, by simp⟩

end Ended

end Cutting

section Counting

variable {shape : List Char → List Char}

/-- What stands between the line feeds, in some shape, where that leaves something of it. -/
def solidLines (shape : List Char → List Char) (text : List Char) : List (List Char) :=
  ((text.splitOn '\n').map shape).filter (· ≠ [])

theorem solidLines_append_feed (before rest : List Char) :
    solidLines shape (before ++ '\n' :: rest) = solidLines shape before ++ solidLines shape rest := by
  simp [solidLines, List.splitOn_append_cons_self]

theorem solidLines_of_bare {body : List Char} (bare : '\n' ∉ body) :
    solidLines shape body = [shape body].filter (· ≠ []) := by
  simp [solidLines, List.splitOn_eq_singleton bare]

theorem infix_of_mem_splitOn {text line : List Char} (among : line ∈ text.splitOn '\n') :
    line <:+: text := by
  induction text using linesInduction with
  | single body bare =>
    rw [List.splitOn_eq_singleton bare, List.mem_singleton] at among
    exact among ▸ List.infix_rfl
  | line body rest bare ih =>
    rw [List.splitOn_append_cons_self, List.splitOn_eq_singleton bare, List.singleton_append,
      List.mem_cons] at among
    rcases among with rfl | later
    next => exact (List.prefix_append _ _).isInfix
    next => exact (ih later).trans ⟨body ++ ['\n'], [], by simp⟩

theorem solidLines_nil (hollow : shape [] = []) : solidLines shape [] = [] := by
  simp [solidLines_of_bare List.not_mem_nil, hollow]

theorem solidLines_eq_linesWithEnds (hollow : shape [] = [])
    (ended : ∀ line, shape (line ++ ['\n']) = shape line) (text : List Char) :
    solidLines shape text = ((linesWithEnds text).map shape).filter (· ≠ []) := by
  induction text using linesInduction with
  | single body bare =>
    rw [solidLines_of_bare bare]
    by_cases empty : body = []
    next => simp [empty, hollow, linesWithEnds]
    next => simp [linesWithEnds_of_bare bare empty]
  | line body rest bare ih =>
    rw [solidLines_append_feed, solidLines_of_bare bare, linesWithEnds_append_feed bare, ih,
      List.map_cons, ended, ← List.filter_append, List.singleton_append]

theorem solidLines_append_blank (hollow : shape [] = [])
    (ended : ∀ line c, isBlank c = true → shape (line ++ [c]) = shape line) (text : List Char)
    {c : Char} (blank : isBlank c = true) :
    solidLines shape (text ++ [c]) = solidLines shape text := by
  induction text using linesInduction with
  | single body bare =>
    by_cases feed : c = '\n'
    next => rw [feed, solidLines_append_feed, solidLines_nil hollow, List.append_nil]
    next =>
      have longer : '\n' ∉ body ++ [c] := by simp [bare, Ne.symm feed]
      rw [solidLines_of_bare longer, solidLines_of_bare bare, ended body c blank]
  | line body rest bare ih =>
    rw [List.append_assoc, List.cons_append, solidLines_append_feed, ih, solidLines_append_feed]

theorem solidLines_append_blanks (hollow : shape [] = [])
    (ended : ∀ line c, isBlank c = true → shape (line ++ [c]) = shape line) (text : List Char)
    {blanks : List Char} (blank : blanks.all isBlank = true) :
    solidLines shape (text ++ blanks) = solidLines shape text := by
  induction blanks generalizing text with
  | nil => rw [List.append_nil]
  | cons c blanks ih =>
    rw [List.all_cons, Bool.and_eq_true] at blank
    have moved : text ++ c :: blanks = text ++ [c] ++ blanks := by simp
    rw [moved, ih _ blank.2, solidLines_append_blank hollow ended text blank.1]

theorem solidLines_cons_blank (hollow : shape [] = [])
    (led : ∀ line c, isBlank c = true → shape (c :: line) = shape line) (text : List Char)
    {c : Char} (blank : isBlank c = true) :
    solidLines shape (c :: text) = solidLines shape text := by
  by_cases feed : c = '\n'
  next =>
    rw [feed, ← List.nil_append ('\n' :: text), solidLines_append_feed, solidLines_nil hollow,
      List.nil_append]
  next =>
    have longer {body : List Char} (bare : '\n' ∉ body) : '\n' ∉ c :: body := by
      simp [bare, Ne.symm feed]
    induction text using linesInduction with
    | single body bare =>
      rw [solidLines_of_bare (longer bare), solidLines_of_bare bare, led body c blank]
    | line body rest bare _ =>
      rw [← List.cons_append, solidLines_append_feed, solidLines_append_feed,
        solidLines_of_bare (longer bare), solidLines_of_bare bare, led body c blank]

theorem solidLines_append_of_blanks (hollow : shape [] = [])
    (led : ∀ line c, isBlank c = true → shape (c :: line) = shape line) (text : List Char)
    {blanks : List Char} (blank : blanks.all isBlank = true) :
    solidLines shape (blanks ++ text) = solidLines shape text := by
  induction blanks with
  | nil => rfl
  | cons c blanks ih =>
    rw [List.all_cons, Bool.and_eq_true] at blank
    rw [List.cons_append, solidLines_cons_blank hollow led _ blank.1, ih blank.2]

end Counting

end GoldenSuite.Text
