import GoldenSuite.Files.Glob

set_option autoImplicit false

namespace GoldenSuite.Glob

theorem mem_endings_iff {ending text : List Char} : ending ∈ endings text ↔ ending <:+ text := by
  induction text with
  | nil => simp [endings]
  | cons c rest ih => simp [endings, ih, List.suffix_cons_iff]

theorem mem_step_char_iff {left : List (List Char)} {c : Char} {rest : List Char} :
    rest ∈ step left (.char c) ↔ c :: rest ∈ left := by
  simp only [step, Token.accepts, List.mem_filterMap]
  constructor
  next =>
    rintro ⟨text, among, stepped⟩
    cases text with
    | nil => cases stepped
    | cons d more =>
      by_cases same : d = c
      next => simp_all
      next => simp [same] at stepped
  next => exact fun among => ⟨c :: rest, among, by simp⟩

theorem mem_foldl_step_iff {left : List (List Char)} {literal rest : List Char} :
    rest ∈ (literal.map Token.char).foldl step left ↔ literal ++ rest ∈ left := by
  induction literal generalizing left with
  | nil => rfl
  | cons c literal ih =>
    rw [List.map_cons, List.foldl_cons, ih, mem_step_char_iff, List.cons_append]

def ending (literal : String) : Glob := ⟨.anyRun :: literal.toList.map .char⟩

theorem isMatch_ending_iff {literal name : String} :
    (ending literal).isMatch name = true ↔ literal.toList <:+ name.toList := by
  have emptied (left : List (List Char)) : left.any List.isEmpty = true ↔ [] ∈ left := by
    simp
  have first : step [name.toList] .anyRun = endings name.toList := by simp [step, Token.accepts]
  rw [isMatch, ending, List.foldl_cons, first, emptied, mem_foldl_step_iff, List.append_nil,
    mem_endings_iff]

end GoldenSuite.Glob
