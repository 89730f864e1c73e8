import GoldenSuite.Regex.Parser
import Mathlib.Data.List.Infix

set_option autoImplicit false

namespace GoldenSuite.Regex

section Matching

variable {text : List Char}

theorem cons_prefix_drop_iff (c : Char) (chars : List Char) (place : Nat) :
    c :: chars <+: text.drop place ↔
      text[place]? = some c ∧ chars <+: text.drop (place + 1) := by
  by_cases within : place < text.length
  next =>
    rw [List.drop_eq_getElem_cons within, List.cons_prefix_cons, List.getElem?_eq_getElem within,
      Option.some_inj, eq_comm]
  next =>
    have past := List.getElem?_eq_none (Nat.le_of_not_lt within)
    simp [List.drop_eq_nil_of_le (Nat.le_of_not_lt within), past]

theorem getElem?_advance (isIn : Char → Bool) (marks : Marks) (place : Nat) :
    (advance text isIn marks)[place + 1]? = some true ↔
      marks[place]? = some true ∧ ∃ c, text[place]? = some c ∧ isIn c = true := by
  rw [advance, List.getElem?_cons_succ, List.getElem?_zipWith]
  cases text[place]? <;> cases marks[place]? <;> simp

-- A mark is left behind each occurrence that started at a mark.
theorem getElem?_ends_literal (chars : List Char) (marks : Marks) (place : Nat) :
    (ends text (literal chars) marks)[place]? = some true ↔
      ∃ start, place = start + chars.length ∧ marks[start]? = some true ∧
        chars <+: text.drop start := by
  rw [ends]
  induction chars generalizing marks with
  | nil => simp
  | cons c chars ih =>
    rw [List.foldl_cons, ih]
    constructor
    next =>
      rintro ⟨_ | start, rfl, marked, after⟩
      next => simp [advance] at marked
      next =>
        rw [getElem?_advance] at marked
        obtain ⟨before, d, found, same⟩ := marked
        obtain rfl : d = c := by simpa using same
        exact ⟨start, by simp only [List.length_cons]; omega, before,
          (cons_prefix_drop_iff d chars start).2 ⟨found, after⟩⟩
    next =>
      rintro ⟨start, rfl, marked, front⟩
      obtain ⟨found, after⟩ := (cons_prefix_drop_iff c chars start).1 front
      exact ⟨start + 1, by simp only [List.length_cons]; omega,
        (getElem?_advance _ marks start).2 ⟨marked, c, found, by simp⟩, after⟩

theorem isMatch_literal_iff (chars text : List Char) :
    isMatch (literal chars) text = true ↔ chars <:+: text := by
  have marked : isMatch (literal chars) text = true ↔
      ∃ start ≤ text.length, chars <+: text.drop start := by
    simp only [isMatch, List.any_eq_true, id_eq, exists_eq_right, List.mem_iff_getElem?,
      getElem?_ends_literal, List.getElem?_replicate]
    constructor
    next =>
      rintro ⟨_, start, -, within, front⟩
      split at within
      next among => exact ⟨start, Nat.le_of_lt_succ among, front⟩
      next => cases within
    next =>
      rintro ⟨start, among, front⟩
      exact ⟨_, start, rfl, if_pos (Nat.lt_succ_of_le among), front⟩
  rw [marked]
  constructor
  next =>
    rintro ⟨start, -, front⟩
    exact front.isInfix.trans (List.drop_suffix start text).isInfix
  next =>
    rintro ⟨before, after, rfl⟩
    exact ⟨before.length, by simp, by simp⟩

end Matching

section Reading

open Parse

def specials : List Char := ['(', ')', '[', '?', '*', '+', '\x7b', '.', '^', '$', '\\', '|']

def isEscapable (c : Char) : Bool := c.toNat < 0x80 && !c.isAlphanum && c ≠ '<' && c ≠ '>'

inductive Spells : List Char → List Char → Prop
  | nil : Spells [] []
  | plain {c : Char} {written mark : List Char} (plain : c ∉ specials)
      (rest : Spells written mark) : Spells (c :: written) (c :: mark)
  | escaped {c : Char} {written mark : List Char} (escapable : isEscapable c = true)
      (rest : Spells written mark) : Spells ('\\' :: c :: written) (c :: mark)

theorem spells_self {mark : List Char} (plain : mark.all (· ∉ specials) = true) :
    Spells mark mark := by
  induction mark with
  | nil => exact .nil
  | cons c mark ih =>
    rw [List.all_cons, Bool.and_eq_true, decide_eq_true_eq] at plain
    exact .plain plain.1 (ih plain.2)

theorem ofSet_single (c : Char) : ofSet (.single c) = literal [c] := by
  simp [ofSet, CharSet.onlyChar?, CharSet.single, CharSet.ofRange]

theorem bind_run {α β : Type} (first : Parse α) (next : α → Parse β) (cursor : Cursor) :
    (first >>= next) cursor = (first cursor).bind fun found => next found.1 found.2 := rfl

-- What the steps do where no flags are set.

theorem next_cons (c : Char) (rest : List Char) :
    next { rest := c :: rest } = some (c, { rest }) := rfl

theorem peek_run (rest : List Char) : peek { rest } = some (rest.head?, { rest }) := rfl

theorem flags_run (rest : List Char) : flags { rest } = some ({}, { rest }) := rfl

theorem space_run (rest : List Char) : space { rest } = some ((), { rest }) := rfl

theorem charSet_run (c : Char) (rest : List Char) :
    charSet c false { rest } = some (.single c, { rest }) := rfl

theorem escape_run {c : Char} (escapable : isEscapable c = true) (rest : List Char) :
    escape { rest := c :: rest } = some (.char c false, { rest }) := by
  simp only [isEscapable, Bool.and_eq_true, decide_eq_true_eq] at escapable
  simp only [escape, bind_run, next_cons, flags_run, Option.bind_some]
  split
  -- Letters and angle brackets have a meaning of their own, and are not escapable.
  all_goals first | (exfalso; revert escapable; decide) | skip
  rw [if_pos (by simpa using escapable.1.1)]
  rfl

variable (fuel : Nat) (done : List Piece) (rest : List Char)

theorem readSequence_nil : readSequence (fuel + 1) done {  rest := [] } =
    some (inSequence done, { rest := [] }) := by
  simp only [readSequence, bind_run, space_run, flags_run, peek_run, List.head?_nil,
    Option.bind_some]
  rfl

theorem readSequence_plain {c : Char} (plain : c ∉ specials) :
    readSequence (fuel + 1) done { rest := c :: rest } =
      readSequence fuel ({ regex := literal [c] } :: done) { rest } := by
  simp only [specials, List.mem_cons, List.not_mem_nil, or_false, not_or] at plain
  obtain ⟨_, _, _, _, _, _, _, _, _, _, _, _⟩ := plain
  simp only [readSequence, bind_run, space_run, flags_run, peek_run, next_cons, charSet_run,
    List.head?_cons, Option.bind_some, ofSet_single]

theorem readSequence_escaped {c : Char} (escapable : isEscapable c = true) :
    readSequence (fuel + 1) done { rest := '\\' :: c :: rest } =
      readSequence fuel ({ regex := literal [c] } :: done) { rest } := by
  simp [readSequence, bind_run, space_run, flags_run, peek_run, next_cons, charSet_run,
    escape_run escapable, ofSet_single]

theorem readSequence_spells {written mark : List Char} (spelled : Spells written mark)
    {fuel : Nat} (enough : written.length < fuel) (done : List Piece) :
    readSequence fuel done { rest := written } =
      some (inSequence ((mark.map fun c => { regex := literal [c] }).reverse ++ done),
        { rest := [] }) := by
  induction spelled generalizing fuel done with
  | nil =>
    obtain ⟨fuel, rfl⟩ := Nat.exists_eq_succ_of_ne_zero (Nat.ne_of_gt enough)
    exact readSequence_nil fuel done
  | plain plain rest ih =>
    obtain ⟨fuel, rfl⟩ := Nat.exists_eq_succ_of_ne_zero (Nat.ne_of_gt (Nat.zero_lt_of_lt enough))
    rw [readSequence_plain _ _ _ plain, ih (by simp only [List.length_cons] at enough; omega)]
    simp
  | escaped escapable rest ih =>
    obtain ⟨fuel, rfl⟩ := Nat.exists_eq_succ_of_ne_zero (Nat.ne_of_gt (Nat.zero_lt_of_lt enough))
    rw [readSequence_escaped _ _ _ escapable,
      ih (by simp only [List.length_cons] at enough; omega)]
    simp

theorem joinLiterals_cons_literal {parts rest : List Regex} {second : List Char}
    (later : joinLiterals parts = literal second :: rest) (first : List Char) :
    joinLiterals (literal first :: parts) = literal (first ++ second) :: rest := by
  simp only [joinLiterals, later]

theorem joinLiterals_chars {mark : List Char} (solid : mark ≠ []) :
    joinLiterals (mark.map fun c => literal [c]) = [literal mark] := by
  induction mark with
  | nil => exact absurd rfl solid
  | cons c mark ih =>
    rcases mark with _ | ⟨d, mark⟩
    next => rfl
    next => exact joinLiterals_cons_literal (ih (List.cons_ne_nil d mark)) [c]

theorem ofSequence_chars {mark : List Char} (solid : mark ≠ []) :
    ofSequence (mark.map fun c => literal [c]) = literal mark := by
  have parts : (mark.map fun c => literal [c]).flatMap partsOf = mark.map fun c => literal [c] := by
    rw [List.flatMap_map, List.map_eq_flatMap]
    rfl
  rw [ofSequence, parts, joinLiterals_chars solid]

theorem deepest_eq_zero {pieces : List Piece} (flat : ∀ piece ∈ pieces, piece.depth = 0) :
    deepest pieces = 0 := by
  rw [deepest]
  induction pieces with
  | nil => rfl
  | cons piece pieces ih =>
    obtain ⟨first, others⟩ := List.forall_mem_cons.1 flat
    rw [List.foldl_cons, first]
    exact ih others

theorem depth_inSequence_le {done : List Piece} (flat : ∀ piece ∈ done, piece.depth = 0) :
    (inSequence done).depth ≤ depthLimit := by
  have shallow : (inSequence done).depth ≤ 1 := by
    simp only [inSequence, deepest_eq_zero flat, depthOfItems]
    split <;> omega
  exact Nat.le_trans shallow (by decide)

theorem parse?_of_spells {written : String} {mark : List Char}
    (spelled : Spells written.toList mark) (solid : mark ≠ []) :
    parse? written = some (literal mark) := by
  have enough : written.toList.length < 3 * written.toList.length + 2 := by omega
  have option := readSequence_spells spelled enough []
  rw [List.append_nil] at option
  generalize pieces : (mark.map fun c => { regex := literal [c] : Piece }).reverse = done at option
  have flat : ∀ piece ∈ done, piece.depth = 0 := by
    intro piece among
    rw [← pieces, List.mem_reverse] at among
    obtain ⟨c, -, rfl⟩ := List.mem_map.1 among
    rfl
  have options : readChoice (3 * written.toList.length + 3) { rest := written.toList } =
      some ([inSequence done], { rest := [] }) := by
    simp only [readChoice, bind_run, option, Option.bind_some]
    rfl
  have regex : (inSequence done).regex = literal mark := by
    rw [inSequence, ← pieces, List.reverse_reverse, List.map_map]
    exact ofSequence_chars solid
  simp [parse?, StateT.run, options, inChoice, regex, depth_inSequence_le flat]

end Reading

end GoldenSuite.Regex
