import GoldenSuite.Text.Search

set_option autoImplicit false

namespace GoldenSuite.Text

variable {mark : List Char}

-- The last character, if there is one, is none of the mark's.
def EndsApart (mark text : List Char) : Prop := ∀ c ∈ text.getLast?, c ∉ mark

theorem endsApart_append_singleton (text : List Char) {c : Char} (apart : c ∉ mark) :
    EndsApart mark (text ++ [c]) := by
  simpa [EndsApart] using apart

theorem EndsApart.tail {c : Char} {rest : List Char} (apart : EndsApart mark (c :: rest)) :
    EndsApart mark rest := by
  intro last found
  apply apart
  cases rest with
  | nil => simp at found
  | cons d rest => simpa using found

-- An occurrence at the head of a text cannot reach past a last character that is not its own.
theorem prefix_append_iff_of_endsApart {text : List Char} (solid : text ≠ [])
    (apart : EndsApart mark text) (rest : List Char) : mark <+: text ++ rest ↔ mark <+: text := by
  constructor
  next =>
    intro found
    obtain inside | outside := List.prefix_or_prefix_of_prefix found (List.prefix_append text rest)
    next => exact inside
    next =>
      have last := List.getLast?_eq_some_getLast solid
      exact absurd (outside.subset (List.getLast_mem solid)) (apart _ last)
  next => exact fun inside => inside.trans (List.prefix_append text rest)

theorem infix_cons_iff_of_notMem {c : Char} (solid : mark ≠ []) (apart : c ∉ mark)
    (text : List Char) : mark <:+: c :: text ↔ mark <:+: text := by
  rw [List.infix_cons_iff, or_iff_right]
  intro found
  obtain ⟨d, more, rfl⟩ := List.exists_cons_of_ne_nil solid
  obtain ⟨rfl, -⟩ := List.cons_prefix_cons.1 found
  exact apart List.mem_cons_self

theorem infix_append_singleton_iff {c : Char} (solid : mark ≠ []) (apart : c ∉ mark)
    (text : List Char) : mark <:+: text ++ [c] ↔ mark <:+: text := by
  have solid' : mark.reverse ≠ [] := by simpa using solid
  have apart' : c ∉ mark.reverse := by simpa using apart
  have turned := infix_cons_iff_of_notMem solid' apart' text.reverse
  rw [List.reverse_infix] at turned
  rw [← List.reverse_infix]
  simpa using turned

-- What does not occur in the mark parts a text for it.
theorem infix_append_cons_iff {c : Char} (solid : mark ≠ []) (apart : c ∉ mark)
    (before after : List Char) :
    mark <:+: before ++ c :: after ↔ mark <:+: before ∨ mark <:+: after := by
  induction before with
  | nil => simp [infix_cons_iff_of_notMem solid apart, solid]
  | cons d rest ih =>
    have front : mark <+: d :: (rest ++ c :: after) ↔ mark <+: d :: rest := by
      have seam : mark <+: d :: rest ++ [c] ++ after ↔ mark <+: d :: rest ++ [c] :=
        prefix_append_iff_of_endsApart (by simp) (endsApart_append_singleton _ apart) after
      rw [List.append_assoc, List.prefix_concat_iff, or_iff_right] at seam
      next => exact seam
      next =>
        rintro rfl
        exact apart (by simp)
    rw [List.cons_append, List.infix_cons_iff, List.infix_cons_iff, front, ih, or_assoc]

theorem piecesFrom_length_append (passed rest : List Char) :
    piecesFrom mark passed.length (passed ++ rest) = piecesFrom mark 0 rest := by
  induction passed with
  | nil => rfl
  | cons c passed ih => simpa [piecesFrom] using ih

theorem piecesFrom_mark_append (solid : mark ≠ []) (rest : List Char) :
    piecesFrom mark 0 (mark ++ rest) = ([], pieces mark rest) := by
  obtain ⟨c, more, rfl⟩ := List.exists_cons_of_ne_nil solid
  have found : (c :: more).isPrefixOf (c :: (more ++ rest)) = true := by
    simp [List.isPrefixOf_iff_prefix]
  have passed : piecesFrom (c :: more) more.length (more ++ rest) = piecesFrom (c :: more) 0 rest :=
    piecesFrom_length_append more rest
  simp only [List.cons_append, piecesFrom, found, if_true, List.length_cons, Nat.add_sub_cancel,
    passed, pieces]

theorem piecesFrom_append_mark (solid : mark ≠ []) (pending : Nat) {before : List Char}
    (within : pending ≤ before.length) (apart : EndsApart mark before) (rest : List Char) :
    piecesFrom mark pending (before ++ (mark ++ rest)) =
      ((piecesFrom mark pending before).1,
        (piecesFrom mark pending before).2 ++ pieces mark rest) := by
  induction before generalizing pending with
  | nil =>
    obtain rfl : pending = 0 := Nat.le_zero.1 within
    simpa [piecesFrom] using piecesFrom_mark_append solid rest
  | cons c before ih =>
    cases pending with
    | succ pending => exact ih pending (Nat.le_of_succ_le_succ within) apart.tail
    | zero =>
      -- What starts in front of the seam also ends there, for it cannot contain the last character.
      have seam := prefix_append_iff_of_endsApart (List.cons_ne_nil c before) apart (mark ++ rest)
      by_cases found : mark <+: c :: before
      next =>
        have reach : mark.length - 1 ≤ before.length := by
          have := found.length_le
          simp only [List.length_cons] at this
          omega
        have whole := seam.2 found
        simp only [List.cons_append] at whole
        simp [piecesFrom, found, whole, ih _ reach apart.tail]
      next =>
        have whole := mt seam.1 found
        simp only [List.cons_append] at whole
        simp [piecesFrom, found, whole, ih 0 (Nat.zero_le _) apart.tail]

theorem pieces_append_mark (solid : mark ≠ []) {before : List Char}
    (apart : EndsApart mark before) (rest : List Char) :
    pieces mark (before ++ (mark ++ rest)) = pieces mark before ++ pieces mark rest := by
  simp [pieces, piecesFrom_append_mark solid 0 (Nat.zero_le _) apart]

theorem piecesFrom_of_not_occurs {text : List Char} (absent : ¬ mark <:+: text) :
    piecesFrom mark 0 text = (text, []) := by
  induction text with
  | nil => rfl
  | cons c rest ih =>
    rw [List.infix_cons_iff, not_or] at absent
    simp [piecesFrom, absent.1, ih absent.2]

theorem not_occurs_of_piecesFrom {text : List Char} (solid : mark ≠ [])
    (single : (piecesFrom mark 0 text).2 = []) : ¬ mark <:+: text := by
  induction text with
  | nil => simpa using solid
  | cons c rest ih =>
    by_cases found : mark <+: c :: rest
    next => simp [piecesFrom, found] at single
    next =>
      simp only [piecesFrom, List.isPrefixOf_iff_prefix, found, if_false] at single
      simp [List.infix_cons_iff, found, ih single]

theorem pieces_eq_singleton {text : List Char} (absent : ¬ mark <:+: text) :
    pieces mark text = [text] := by
  simp [pieces, piecesFrom_of_not_occurs absent]

theorem length_pieces_eq_one_iff (solid : mark ≠ []) {text : List Char} :
    (pieces mark text).length = 1 ↔ ¬ mark <:+: text := by
  constructor
  next =>
    intro single
    apply not_occurs_of_piecesFrom solid
    simpa [pieces] using single
  next =>
    intro absent
    simp [pieces_eq_singleton absent]

theorem piecesFrom_fst_prefix (text : List Char) : (piecesFrom mark 0 text).1 <+: text := by
  induction text with
  | nil => exact List.nil_prefix
  | cons c rest ih =>
    by_cases found : mark <+: c :: rest
    next => simp [piecesFrom, found]
    next => simpa [piecesFrom, found] using ih

theorem not_occurs_of_mem_piecesFrom (solid : mark ≠ []) (pending : Nat) (text : List Char) :
    ¬ mark <:+: (piecesFrom mark pending text).1 ∧
      ∀ piece ∈ (piecesFrom mark pending text).2, ¬ mark <:+: piece := by
  induction text generalizing pending with
  | nil => simp [piecesFrom, solid]
  | cons c rest ih =>
    cases pending with
    | succ pending => exact ih pending
    | zero =>
      by_cases found : mark <+: c :: rest
      next =>
        obtain ⟨first, others⟩ := ih (mark.length - 1)
        simpa [piecesFrom, found, solid] using ⟨first, others⟩
      next =>
        obtain ⟨first, others⟩ := ih 0
        have whole : c :: (piecesFrom mark 0 rest).1 <+: c :: rest :=
          List.cons_prefix_cons.2 ⟨rfl, piecesFrom_fst_prefix rest⟩
        have absent : ¬ mark <+: c :: (piecesFrom mark 0 rest).1 :=
          fun inside => found (inside.trans whole)
        simpa [piecesFrom, found, List.infix_cons_iff, absent] using ⟨first, others⟩

theorem not_occurs_of_mem_pieces (solid : mark ≠ []) {text piece : List Char}
    (member : piece ∈ pieces mark text) : ¬ mark <:+: piece := by
  obtain ⟨first, others⟩ := not_occurs_of_mem_piecesFrom solid 0 text
  rcases List.mem_cons.1 member with rfl | later
  next => exact first
  next => exact others piece later

theorem length_pieces_pos (mark text : List Char) : 0 < (pieces mark text).length := by
  simp [pieces]

end GoldenSuite.Text
