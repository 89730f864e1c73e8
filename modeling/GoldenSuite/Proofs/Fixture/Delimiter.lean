import GoldenSuite.Proofs.Fixture.RoundTrip
import GoldenSuite.Proofs.Symbols
import GoldenSuite.Proofs.Volatile.Stripping

set_option autoImplicit false

namespace GoldenSuite

namespace Text

variable {mark : List Char}

theorem infix_of_mem_lines {text line : List Char} (among : line ∈ lines text) :
    line <:+: text := by
  obtain ⟨whole, ended, rfl⟩ := List.mem_map.1 among
  refine List.IsInfix.trans ?_ (infix_of_mem_linesWithEnds ended)
  unfold dropLineEnd
  split
  next body turned =>
    exact ⟨[], ['\r', '\n'], by simpa using (congrArg List.reverse turned).symm⟩
  next body _ turned =>
    exact ⟨[], ['\n'], by simpa using (congrArg List.reverse turned).symm⟩
  next => exact List.infix_rfl

-- The first word of a text that starts with one, and the words after it.
theorem words_cons_of_ink {c : Char} (ink : isBlank c = false) (rest : List Char) :
    ∃ word more, words (c :: rest) = word :: more ∧ word <+: c :: rest ∧ more ⊆ words rest := by
  induction rest generalizing c with
  | nil =>
    have alone : words [c] = [[c]] := by
      rw [words_cons, ink]
      rfl
    exact ⟨[c], [], alone, List.prefix_rfl, List.nil_subset _⟩
  | cons d rest ih =>
    rw [words_cons, ink]
    cases gap : isBlank d with
    | true =>
      cases split : words (d :: rest) with
      | nil => exact ⟨[c], [], by simp, by simp, by simp⟩
      | cons word more => exact ⟨[c], word :: more, by simp [gap], by simp, by simp⟩
    | false =>
      obtain ⟨word, more, split, front, -⟩ := ih gap
      exact ⟨c :: word, more, by simp [split, gap], by simpa using front, by simp [split]⟩

theorem infix_of_mem_words {text word : List Char} (among : word ∈ words text) :
    word <:+: text := by
  induction text with
  | nil => cases among
  | cons c rest ih =>
    cases ink : isBlank c with
    | true =>
      rw [words_cons, ink, if_pos rfl] at among
      exact (ih among).trans (List.suffix_cons c rest).isInfix
    | false =>
      obtain ⟨first, more, split, front, inside⟩ := words_cons_of_ink ink rest
      rw [split] at among
      rcases List.mem_cons.1 among with rfl | later
      next => exact front.isInfix
      next => exact (ih (inside later)).trans (List.suffix_cons c rest).isInfix

end Text

namespace VolatileFilter

theorem not_holdsDelimiter_strip (volatile : VolatileFilter) {text : String}
    (clear : ¬ Fixture.HoldsDelimiter text) : ¬ Fixture.HoldsDelimiter (volatile.strip text) := by
  intro holds
  rw [Fixture.HoldsDelimiter, toList_strip] at holds
  obtain ⟨line, among, inside⟩ := volatile.exists_kept_line _ Fixture.delimiter_ne_nil
    Fixture.newline_notMem_delimiter holds
  have whole := Text.infix_of_mem_linesWithEnds (List.mem_filter.1 among).1
  exact clear (inside.trans whole)

end VolatileFilter

namespace Symbols

theorem not_infix_entry? {line entry : List Char} (clear : ¬ Fixture.delimiter <:+: line)
    (kept : entry? line = some entry) : ¬ Fixture.delimiter <:+: entry := by
  have words (word : List Char) (among : word ∈ Text.words line) :
      ¬ Fixture.delimiter <:+: word :=
    fun inside => clear (inside.trans (Text.infix_of_mem_words among))
  unfold entry? at kept
  split at kept
  next => cases kept
  next name split =>
    cases kept
    exact words _ (by simp [split])
  next name type _ split =>
    split at kept
    next => cases kept
    next =>
      cases kept
      rw [Text.infix_append_cons_iff Fixture.delimiter_ne_nil (by decide), not_or]
      exact ⟨words name (by simp [split]), words type (by simp [split])⟩

theorem exists_entry_of_infix {entries : List (List Char)}
    (found : Fixture.delimiter <:+: entries.flatMap (· ++ ['\n'])) :
    ∃ entry ∈ entries, Fixture.delimiter <:+: entry := by
  induction entries with
  | nil => exact absurd (List.infix_nil.1 found) Fixture.delimiter_ne_nil
  | cons entry entries ih =>
    rw [List.flatMap_cons, List.append_assoc, List.singleton_append,
      Text.infix_append_cons_iff Fixture.delimiter_ne_nil Fixture.newline_notMem_delimiter] at found
    rcases found with here | later
    next => exact ⟨entry, List.mem_cons_self, here⟩
    next =>
      obtain ⟨other, among, inside⟩ := ih later
      exact ⟨other, List.mem_cons_of_mem _ among, inside⟩

theorem not_holdsDelimiter_filter {raw : String} (clear : ¬ Fixture.HoldsDelimiter raw) :
    ¬ Fixture.HoldsDelimiter (filter raw) := by
  intro holds
  rw [Fixture.HoldsDelimiter, filter, String.toList_ofList] at holds
  obtain ⟨entry, kept, inside⟩ := exists_entry_of_infix holds
  obtain ⟨line, found, given⟩ := List.mem_filterMap.1 kept
  exact not_infix_entry? (fun whole => clear (whole.trans (Text.infix_of_mem_lines found))) given
    inside

end Symbols

end GoldenSuite
