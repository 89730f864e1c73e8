import GoldenSuite.Proofs.Fixture.RoundTrip
import GoldenSuite.Symbols

set_option autoImplicit false

namespace GoldenSuite

namespace Text

def StartsSolid (text : List Char) : Prop := ∃ c rest, text = c :: rest ∧ isBlank c = false

theorem StartsSolid.append {text : List Char} (solid : StartsSolid text) (more : List Char) :
    StartsSolid (text ++ more) := by
  obtain ⟨c, rest, rfl, ink⟩ := solid
  exact ⟨c, rest ++ more, rfl, ink⟩

theorem StartsSolid.trimStart {text : List Char} (solid : StartsSolid text) :
    Text.trimStart text = text := by
  obtain ⟨c, rest, same, ink⟩ := solid
  rw [same, Text.trimStart, List.dropWhile_cons_of_neg]
  simp [ink]

theorem words_cons (c : Char) (rest : List Char) :
    words (c :: rest) =
      if isBlank c then words rest
      else match rest, words rest with
        | d :: _, word :: more => if isBlank d then [c] :: word :: more else (c :: word) :: more
        | _, more => [c] :: more := rfl

theorem words_startsSolid (text : List Char) : ∀ word ∈ words text, StartsSolid word := by
  induction text with
  | nil => exact fun word among => absurd among List.not_mem_nil
  | cons c rest ih =>
    rw [words_cons]
    by_cases blank : isBlank c = true
    next => rwa [if_pos blank]
    next =>
      have start (more : List Char) : StartsSolid (c :: more) :=
        ⟨c, more, rfl, Bool.eq_false_iff.2 blank⟩
      rw [if_neg blank]
      generalize words rest = found at ih ⊢
      rcases rest with _ | ⟨d, more⟩
      next => simpa using ⟨start [], ih⟩
      next =>
        rcases found with _ | ⟨word, others⟩
        next => simpa using start []
        next =>
          obtain ⟨first, tail⟩ := List.forall_mem_cons.1 ih
          by_cases gap : isBlank d = true
          next => simpa [gap] using ⟨start [], first, tail⟩
          next => simpa [gap] using ⟨start word, tail⟩

end Text

namespace Symbols

theorem entry?_startsSolid {line entry : List Char} (kept : entry? line = some entry) :
    Text.StartsSolid entry := by
  have solid := Text.words_startsSolid line
  unfold entry? at kept
  split at kept
  next => cases kept
  next name split =>
    cases kept
    exact solid _ (by simp [split])
  next name type _ split =>
    split at kept
    next => cases kept
    next =>
      cases kept
      exact (solid name (by simp [split])).append (' ' :: type)

theorem leftTrimmed_filter (raw : String) : Text.leftTrimmed (filter raw) = filter raw := by
  simp only [Text.leftTrimmed, filter, String.toList_ofList]
  congr 1
  rcases kept : (Text.lines raw.toList).filterMap entry? with _ | ⟨entry, entries⟩
  next => rfl
  next =>
    have among : entry ∈ (Text.lines raw.toList).filterMap entry? := by simp [kept]
    obtain ⟨line, -, found⟩ := List.mem_filterMap.1 among
    rw [List.flatMap_cons, List.append_assoc]
    exact ((entry?_startsSolid found).append _).trimStart

end Symbols

end GoldenSuite
