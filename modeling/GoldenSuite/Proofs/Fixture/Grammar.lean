import GoldenSuite.Proofs.Fixture.RoundTrip

set_option autoImplicit false

namespace GoldenSuite.Fixture

/-- The parts are what a text has between its delimiters, each of these as far left as can be. -/
structure Cut (text : List Char) (parts : List (List Char)) : Prop where
  -- No parts at all would be joined to the empty text too.
  solid : parts ≠ []
  joined : delimiter.intercalate parts = text
  clear : ∀ part ∈ parts, ¬ delimiter <:+: part
  apart : ∀ part ∈ parts.dropLast, part.getLast? ≠ some '='

section Cutting

theorem endsApart_iff (part : List Char) :
    Text.EndsApart delimiter part ↔ part.getLast? ≠ some '=' := by
  cases last : part.getLast? with
  | none => simp [Text.EndsApart, last]
  | some c => simp [Text.EndsApart, last, delimiter]

-- The delimiter moved one place to the left over an equals sign is the delimiter again.
theorem delimiter_prefix_of_equals_before (rest : List Char) :
    delimiter <+: '=' :: (delimiter ++ rest) :=
  ⟨'=' :: rest, rfl⟩

theorem exists_first_delimiter {text : List Char} (holds : delimiter <:+: text) :
    ∃ before after, text = before ++ (delimiter ++ after) ∧ ¬ delimiter <:+: before ∧
      before.getLast? ≠ some '=' := by
  induction text with
  | nil => exact absurd (List.infix_nil.1 holds) delimiter_ne_nil
  | cons c rest ih =>
    by_cases here : delimiter <+: c :: rest
    next =>
      obtain ⟨after, whole⟩ := here
      exact ⟨[], after, whole.symm, by simp [delimiter_ne_nil], by simp⟩
    next =>
      have further := (List.infix_cons_iff.1 holds).resolve_left here
      obtain ⟨before, after, rfl, clear, apart⟩ := ih further
      refine ⟨c :: before, after, rfl, ?_, ?_⟩
      next =>
        intro inside
        rcases List.infix_cons_iff.1 inside with front | later
        next => exact here (front.trans (List.prefix_append (c :: before) _))
        next => exact clear later
      next =>
        cases before with
        | nil =>
          intro last
          obtain rfl : c = '=' := by simpa using last
          exact here (delimiter_prefix_of_equals_before after)
        | cons d before => simpa using apart

theorem cut_singleton {text : List Char} (clear : ¬ delimiter <:+: text) : Cut text [text] where
  solid := List.cons_ne_nil _ _
  joined := List.intercalate_singleton
  clear := by simpa using clear
  apart := by simp

theorem Cut.cons {part rest : List Char} {parts : List (List Char)}
    (clear : ¬ delimiter <:+: part) (apart : part.getLast? ≠ some '=') (cut : Cut rest parts) :
    Cut (part ++ (delimiter ++ rest)) (part :: parts) := by
  obtain ⟨next, more, rfl⟩ := List.exists_cons_of_ne_nil cut.solid
  refine ⟨List.cons_ne_nil _ _, ?_, List.forall_mem_cons.2 ⟨clear, cut.clear⟩, ?_⟩
  next => rw [List.intercalate_cons_cons, cut.joined, List.append_assoc]
  next =>
    rw [List.dropLast_cons_of_ne_nil (List.cons_ne_nil _ _)]
    exact List.forall_mem_cons.2 ⟨apart, cut.apart⟩

theorem Cut.tail {part next : List Char} {text : List Char} {more : List (List Char)}
    (cut : Cut text (part :: next :: more)) :
    ∃ rest, text = part ++ (delimiter ++ rest) ∧ Cut rest (next :: more) := by
  refine ⟨delimiter.intercalate (next :: more), ?_, List.cons_ne_nil _ _, rfl, ?_, ?_⟩
  next => rw [← cut.joined, List.intercalate_cons_cons, List.append_assoc]
  next => exact (List.forall_mem_cons.1 cut.clear).2
  next =>
    have apart := cut.apart
    rw [List.dropLast_cons_of_ne_nil (List.cons_ne_nil _ _)] at apart
    exact (List.forall_mem_cons.1 apart).2

theorem exists_cut (text : List Char) : ∃ parts, Cut text parts := by
  -- What stands behind the first delimiter is shorter than the text.
  induction size : text.length using Nat.strongRecOn generalizing text with
  | ind n ih =>
    by_cases holds : delimiter <:+: text
    next =>
      obtain ⟨before, after, rfl, clear, apart⟩ := exists_first_delimiter holds
      have shorter : after.length < n := by
        have : 0 < delimiter.length := by decide
        simp only [List.length_append] at size
        omega
      obtain ⟨parts, cut⟩ := ih _ shorter after rfl
      exact ⟨before :: parts, cut.cons clear apart⟩
    next => exact ⟨[text], cut_singleton holds⟩

theorem Cut.sections_eq {text : List Char} {parts : List (List Char)} (cut : Cut text parts) :
    sections text = parts := by
  induction parts generalizing text with
  | nil => exact absurd rfl cut.solid
  | cons part parts ih =>
    have clear := (List.forall_mem_cons.1 cut.clear).1
    cases parts with
    | nil =>
      rw [← cut.joined, List.intercalate_singleton]
      exact sections_of_not_occurs clear
    | cons next more =>
      obtain ⟨rest, rfl, later⟩ := cut.tail
      have apart := (endsApart_iff part).2 (cut.apart part (by simp))
      have split : sections (part ++ (delimiter ++ rest)) = sections part ++ sections rest :=
        Text.pieces_append_mark delimiter_ne_nil apart rest
      rw [split, sections_of_not_occurs clear, ih later, List.singleton_append]

theorem cut_iff (text : List Char) (parts : List (List Char)) :
    Cut text parts ↔ parts = sections text := by
  constructor
  next => exact fun cut => cut.sections_eq.symm
  next =>
    rintro rfl
    obtain ⟨parts, cut⟩ := exists_cut text
    rwa [cut.sections_eq]

end Cutting

section Description

def LosesLead (part rest : List Char) : Prop :=
  ∃ lead, part = lead ++ rest ∧ lead.all Text.isBlank = true ∧
    ∀ c ∈ rest.head?, Text.isBlank c = false

def LosesFeed (part rest : List Char) : Prop :=
  part = rest ++ ['\n'] ∨ part = rest ∧ part.getLast? ≠ some '\n'

theorem losesLead_iff (part rest : List Char) :
    LosesLead part rest ↔ rest = Text.trimStart part := by
  constructor
  next =>
    rintro ⟨lead, rfl, blank, solid⟩
    rw [Text.trimStart_append_of_blank lead blank, Text.trimStart_eq_self solid]
  next =>
    rintro rfl
    refine ⟨part.takeWhile Text.isBlank, ?_, ?_, Text.head_trimStart_solid part⟩
    next => exact List.takeWhile_append_dropWhile.symm
    next => exact List.all_takeWhile

theorem losesFeed_iff (part rest : List Char) :
    LosesFeed part rest ↔ rest = Text.dropSuffix ['\n'] part := by
  by_cases feed : part.getLast? = some '\n'
  next =>
    obtain ⟨front, rfl⟩ := List.getLast?_eq_some_iff.1 feed
    simp [LosesFeed, eq_comm]
  next =>
    have bare : ¬ ['\n'] <:+ part := by
      rintro ⟨front, rfl⟩
      simp at feed
    have other : part ≠ rest ++ ['\n'] := by
      rintro rfl
      simp at feed
    have kept : Text.dropSuffix ['\n'] part = part := by
      simp [Text.dropSuffix, bare]
    rw [kept, LosesFeed, or_iff_right other, and_iff_left feed, eq_comm]

/-- The fixture that two or three sections stand for. -/
inductive Describes : List (List Char) → Fixture → Prop
  | plain {source second artifact : List Char} (lead : LosesLead second artifact) :
      Describes [source, second] ⟨String.ofList source, String.ofList artifact, none⟩
  | listed {source second third trimmed artifact listing : List Char}
      (lead : LosesLead second trimmed) (feed : LosesFeed trimmed artifact)
      (listingLead : LosesLead third listing) :
      Describes [source, second, third]
        ⟨String.ofList source, String.ofList artifact, some (String.ofList listing)⟩

theorem parse_eq_ok_iff (text : String) (fixture : Fixture) :
    parse text = .ok fixture ↔ Describes (sections text.toList) fixture := by
  constructor
  next =>
    intro parsed
    obtain ⟨source, artifact, split, rfl⟩ | ⟨source, artifact, listing, split, rfl⟩ :=
      parse_eq_ok parsed
    next =>
      rw [split]
      exact .plain ((losesLead_iff _ _).2 rfl)
    next =>
      rw [split]
      exact .listed ((losesLead_iff _ _).2 rfl) ((losesFeed_iff _ _).2 rfl)
        ((losesLead_iff _ _).2 rfl)
  next =>
    generalize split : sections text.toList = parts
    intro described
    cases described with
    | plain lead =>
      obtain rfl := (losesLead_iff _ _).1 lead
      exact parse_of_sections_two split
    | listed lead feed listingLead =>
      obtain rfl := (losesLead_iff _ _).1 lead
      obtain rfl := (losesFeed_iff _ _).1 feed
      obtain rfl := (losesLead_iff _ _).1 listingLead
      exact parse_of_sections_three split

end Description

section Arity

theorem parse_of_sections_one {text : String} {source : List Char}
    (split : sections text.toList = [source]) : parse text = .error .missing := by
  simp only [parse, split]

theorem parse_of_sections_many {text : String} {first second third fourth : List Char}
    {more : List (List Char)}
    (split : sections text.toList = first :: second :: third :: fourth :: more) :
    parse text = .error (.extra (more.length + 4)) := by
  simp [parse, split]

theorem parse_by_arity (text : String) :
    (parse text = .error .missing ↔ (sections text.toList).length = 1) ∧
      (∀ found, parse text = .error (.extra found) ↔
        (sections text.toList).length = found ∧ 3 < found) ∧
      ((∃ fixture, parse text = .ok fixture) ↔
        (sections text.toList).length = 2 ∨ (sections text.toList).length = 3) := by
  have solid := length_sections_pos text.toList
  rcases split : sections text.toList with
    _ | ⟨first, _ | ⟨second, _ | ⟨third, _ | ⟨fourth, more⟩⟩⟩⟩
  next => simp [split] at solid
  next => simp [parse_of_sections_one split]
  next => simp [parse_of_sections_two split]
  next => simp [parse_of_sections_three split]
  next => simp [parse_of_sections_many split]

end Arity

/-- Reading goes by the grammar: a text has one cut, and whether it is read, what it is read as and
what is wrong with it otherwise are said by the parts of that. -/
theorem parse_goes_by_cut (text : String) :
    (∀ parts, Cut text.toList parts ↔ parts = sections text.toList) ∧
      (parse text = .error .missing ↔ ¬ HoldsDelimiter text) ∧
      (∀ found, parse text = .error (.extra found) ↔
        (sections text.toList).length = found ∧ 3 < found) ∧
      ((∃ fixture, parse text = .ok fixture) ↔
        HoldsDelimiter text ∧ (sections text.toList).length ≤ 3) ∧
      ∀ fixture, parse text = .ok fixture ↔ Describes (sections text.toList) fixture := by
  obtain ⟨missing, extra, read⟩ := parse_by_arity text
  have solid := length_sections_pos text.toList
  have single := length_sections_eq_one_iff text.toList
  refine ⟨cut_iff text.toList, missing.trans single, extra, ?_, parse_eq_ok_iff text⟩
  have several : (sections text.toList).length ≠ 1 ↔ HoldsDelimiter text :=
    (not_congr single).trans Classical.not_not
  rw [read, ← several]
  omega

end GoldenSuite.Fixture
