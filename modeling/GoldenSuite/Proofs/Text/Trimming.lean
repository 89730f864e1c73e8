import GoldenSuite.Text.Blank
import GoldenSuite.Text.Search
import Mathlib.Data.List.TakeWhile

set_option autoImplicit false

namespace GoldenSuite.Text

variable {mark : List Char}

theorem trimStart_append_of_blank (blanks : List Char) (blank : blanks.all isBlank = true)
    (text : List Char) : trimStart (blanks ++ text) = trimStart text := by
  simp only [List.all_eq_true] at blank
  simp [trimStart, List.dropWhile_append_of_pos blank]

theorem trimEnd_append_of_blank {c : Char} (blank : isBlank c = true) (text : List Char) :
    trimEnd (text ++ [c]) = trimEnd text := by
  simp [trimEnd, blank]

theorem trimEnd_prefix (text : List Char) : trimEnd text <+: text := by
  rw [← List.reverse_suffix]
  simpa [trimEnd] using List.dropWhile_suffix isBlank

theorem head_trimStart_solid (text : List Char) :
    ∀ c ∈ (trimStart text).head?, isBlank c = false := by
  intro c first
  have solid := List.head?_dropWhile_not isBlank text
  rw [trimStart, Option.mem_def] at first
  simpa [first] using solid

-- Cutting a trimmed text short leaves nothing blank in front.
theorem trimStart_of_prefix {front text : List Char} (within : front <+: trimStart text) :
    trimStart front = front := by
  apply trimStart_eq_self
  intro c first
  apply head_trimStart_solid text
  obtain ⟨ending, whole⟩ := within
  rw [← whole]
  simp [List.head?_append, Option.mem_def.1 first]

theorem trimStart_trim (text : List Char) : trimStart (trim text) = trim text :=
  trimStart_of_prefix <| trimEnd_prefix (trimStart text)

@[simp] theorem trim_trim (text : List Char) : trim (trim text) = trim text := by
  rw [trim, trimStart_trim, trim, trimEnd_trimEnd]

theorem trim_cons_of_blank {c : Char} (blank : isBlank c = true) (text : List Char) :
    trim (c :: text) = trim text := by
  simp [trim, trimStart, blank]

theorem trim_append_of_blank {c : Char} (blank : isBlank c = true) (text : List Char) :
    trim (text ++ [c]) = trim text := by
  rw [trim, trim, trimStart, List.dropWhile_append]
  by_cases hollow : text.dropWhile isBlank = []
  next => simp [trimStart, hollow, blank]
  next => simp [trimStart, hollow, trimEnd_append_of_blank blank]

theorem trimEnd_eq_self {text : List Char} (last_solid : ∀ c ∈ text.getLast?, isBlank c = false) :
    trimEnd text = text := by
  have turned : trimStart text.reverse = text.reverse :=
    trimStart_eq_self (by rwa [List.head?_reverse])
  rw [trimStart] at turned
  rw [trimEnd, turned, List.reverse_reverse]

theorem exists_trimEnd_append (text : List Char) :
    ∃ blanks, text = trimEnd text ++ blanks ∧ blanks.all isBlank = true := by
  refine ⟨(text.reverse.takeWhile isBlank).reverse, ?_, ?_⟩
  next => rw [trimEnd, ← List.reverse_append, List.takeWhile_append_dropWhile, List.reverse_reverse]
  next => simp only [List.all_reverse, List.all_takeWhile]

theorem exists_trim_append (text : List Char) :
    ∃ lead trail, text = lead ++ (trim text ++ trail) ∧ lead.all isBlank = true ∧
      trail.all isBlank = true := by
  obtain ⟨trail, whole, blank⟩ := exists_trimEnd_append (trimStart text)
  refine ⟨text.takeWhile isBlank, trail, ?_, List.all_takeWhile, blank⟩
  rw [trim, ← whole, trimStart, List.takeWhile_append_dropWhile]

theorem head_trim_solid (text : List Char) : ∀ c ∈ (trim text).head?, isBlank c = false := by
  have solid := head_trimStart_solid (trim text)
  rwa [trimStart_trim] at solid

theorem last_trim_solid (text : List Char) : ∀ c ∈ (trim text).getLast?, isBlank c = false := by
  have solid := head_trimStart_solid (trimStart text).reverse
  intro c last
  rw [trim, trimEnd, List.getLast?_reverse] at last
  exact solid c last

theorem trim_eq_nil_iff (text : List Char) : trim text = [] ↔ text.all isBlank = true := by
  constructor
  next =>
    intro hollow
    obtain ⟨lead, trail, whole, front, back⟩ := exists_trim_append text
    rw [whole, hollow, List.nil_append, List.all_append, front, back]
    rfl
  next =>
    intro blank
    rw [trim, trimStart, List.dropWhile_eq_nil_iff.2 (List.all_eq_true.1 blank), trimEnd_nil]

-- An occurrence does not start with the blanks that are trimmed away.
theorem infix_trimStart_iff (solid : mark ≠ [])
    (front : ∀ c ∈ mark.head?, isBlank c = false) {text : List Char} :
    mark <:+: trimStart text ↔ mark <:+: text := by
  induction text with
  | nil => simp
  | cons c rest ih =>
    by_cases blank : isBlank c = true
    next =>
      have absent : ¬ mark <+: c :: rest := by
        obtain ⟨d, more, rfl⟩ := List.exists_cons_of_ne_nil solid
        intro found
        obtain ⟨rfl, -⟩ := List.cons_prefix_cons.1 found
        simp [blank] at front
      have dropped : trimStart (c :: rest) = trimStart rest := by simp [trimStart, blank]
      simp only [dropped, ih, List.infix_cons_iff, absent, false_or]
    next =>
      have kept : trimStart (c :: rest) = c :: rest := by simp [trimStart, blank]
      rw [kept]

theorem infix_trimEnd_iff (solid : mark ≠ [])
    (back : ∀ c ∈ mark.getLast?, isBlank c = false) {text : List Char} :
    mark <:+: trimEnd text ↔ mark <:+: text := by
  have solid' : mark.reverse ≠ [] := by simpa using solid
  have front : ∀ c ∈ mark.reverse.head?, isBlank c = false := by rwa [List.head?_reverse]
  have turned : mark.reverse <:+: trimStart text.reverse ↔ mark.reverse <:+: text.reverse :=
    infix_trimStart_iff solid' front
  rw [← List.reverse_infix]
  simpa [trimEnd, trimStart] using turned

theorem infix_trim_iff (solid : mark ≠ []) (trimmed : trim mark = mark)
    {text : List Char} : mark <:+: trim text ↔ mark <:+: text := by
  have front := head_trim_solid mark
  have back := last_trim_solid mark
  rw [trimmed] at front back
  rw [trim, infix_trimEnd_iff solid back, infix_trimStart_iff solid front]

@[simp] theorem dropSuffix_append (ending text : List Char) :
    dropSuffix ending (text ++ ending) = text := by
  simp [dropSuffix]

theorem dropSuffix_nil {ending : List Char} : dropSuffix ending [] = [] := by
  simp [dropSuffix]

theorem dropSuffix_prefix (ending text : List Char) : dropSuffix ending text <+: text := by
  unfold dropSuffix
  split
  next => exact List.take_prefix _ _
  next => exact List.prefix_rfl

-- A line feed at the end of a text outlives trimming at the front only behind something solid,
-- so dropping it afterwards leaves the text trimmed and no more.
theorem dropSuffix_trimStart_append {c : Char} (blank : isBlank c = true) (text : List Char) :
    dropSuffix [c] (trimStart (text ++ [c])) = trimStart text := by
  rw [trimStart, List.dropWhile_append]
  by_cases hollow : text.dropWhile isBlank = []
  next => simp [trimStart, hollow, blank, dropSuffix_nil]
  next => simp [trimStart, hollow]

end GoldenSuite.Text
