import GoldenSuite.Json.Value
import Mathlib.Data.List.Basic

set_option autoImplicit false

namespace GoldenSuite.Json

namespace Numeral

theorem le_ofDigitChars (digits : List Char) (start : Nat) :
    start ≤ Nat.ofDigitChars 10 digits start := by
  induction digits generalizing start with
  | nil => exact Nat.le_of_eq Nat.ofDigitChars_nil.symm
  | cons digit rest ih =>
    rw [Nat.ofDigitChars_cons]
    have more := ih (10 * start + (digit.toNat - '0'.toNat))
    omega

theorem gather_of_le {limit start : Nat} {digits : List Char}
    (fits : Nat.ofDigitChars 10 digits start ≤ limit) :
    gather limit start digits = (Nat.ofDigitChars 10 digits start, []) := by
  induction digits generalizing start with
  | nil => rfl
  | cons digit rest ih =>
    rw [Nat.ofDigitChars_cons] at fits ⊢
    have next : start * 10 + digitValue digit = 10 * start + (digit.toNat - '0'.toNat) := by
      rw [digitValue, Nat.mul_comm]
    have below := Nat.le_trans (le_ofDigitChars rest _) fits
    rw [gather, next, if_pos below, ih fits]

def ofNat (n : Nat) : Numeral := ⟨false, Nat.toDigits 10 n, [], none⟩

theorem number?_ofNat {n : Nat} (fits : n < UInt64.size) :
    (ofNat n).number? = some (.natural n) := by
  have value : Nat.ofDigitChars 10 (Nat.toDigits 10 n) 0 = n := Nat.ofDigitChars_ten_toDigits
  have below : Nat.ofDigitChars 10 (Nat.toDigits 10 n) 0 ≤ wordLimit := by
    rw [value]
    exact Nat.le_sub_one_of_lt fits
  simp [number?, ofNat, gather_of_le below, value]

end Numeral

-- Only zero is written with a zero in front.
theorem head?_toDigits_ne_zero {n : Nat} (positive : 0 < n) :
    (Nat.toDigits 10 n).head? ≠ some '0' := by
  induction n using Nat.strongRecOn with
  | ind n ih =>
    by_cases small : n < 10
    next =>
      have digit : ∀ k < 10, 0 < k → [Nat.digitChar k].head? ≠ some '0' := by decide
      rw [Nat.toDigits_of_lt_base small]
      exact digit n small positive
    next =>
      rw [Nat.toDigits_of_base_le (by omega) (by omega),
        List.head?_append_of_ne_nil _ Nat.toDigits_ne_nil]
      exact ih (n / 10) (by omega) (by omega)

namespace Tree

def Ends (rest : List Char) : Prop := ∃ c more, rest = c :: more ∧ (c = ',' ∨ c = '\n')

def Opens (text : List Char) : Prop :=
  ∃ c more, text = c :: more ∧ isSpace c = false ∧ c ≠ ']' ∧ c ≠ '\x7d'

theorem Opens.append {text : List Char} (opens : Opens text) (more : List Char) :
    Opens (text ++ more) := by
  obtain ⟨c, rest, rfl, apart⟩ := opens
  exact ⟨c, rest ++ more, rfl, apart⟩

theorem Opens.skip_eq {text : List Char} (opens : Opens text) : skip text = text := by
  obtain ⟨c, rest, rfl, solid, -⟩ := opens
  simp [skip, solid]

theorem readValue_blank (fuel : Nat) (text : List Char) :
    readValue (fuel + 1) (' ' :: text) = readValue (fuel + 1) text := by
  have skipped : skip (' ' :: text) = skip text := rfl
  simp only [readValue, skipped]

theorem spanDigits_toDigits (n : Nat) {rest : List Char} (ends : Ends rest) :
    spanDigits (Nat.toDigits 10 n ++ rest) = (Nat.toDigits 10 n, rest) := by
  have allDigits : ∀ c ∈ Nat.toDigits 10 n, c.isDigit = true := fun c among =>
    Nat.isDigit_of_mem_toDigits (by omega) (by omega) among
  have stops : rest.takeWhile Char.isDigit = [] ∧ rest.dropWhile Char.isDigit = rest := by
    obtain ⟨c, more, rfl, rfl | rfl⟩ := ends <;> exact ⟨rfl, rfl⟩
  rw [spanDigits, List.takeWhile_append_of_pos allDigits, List.dropWhile_append_of_pos allDigits,
    stops.1, stops.2, List.append_nil]

theorem wholeDigits_toDigits (n : Nat) {rest : List Char} (ends : Ends rest) :
    wholeDigits (Nat.toDigits 10 n ++ rest) = .ok (Nat.toDigits 10 n, rest) := by
  have spans := spanDigits_toDigits n ends
  by_cases zero : n = 0
  next =>
    subst zero
    simp only [wholeDigits, digits, spans]
    rfl
  next =>
    have front := head?_toDigits_ne_zero (Nat.pos_of_ne_zero zero)
    obtain ⟨d, ds, written⟩ := List.exists_cons_of_ne_nil (Nat.toDigits_ne_nil (b := 10) (n := n))
    rw [written] at front spans ⊢
    have apart : d ≠ '0' := fun same => front (congrArg some same)
    simp only [wholeDigits, digits, spans, bind, Except.bind]
    split
    next same => cases same; exact absurd rfl apart
    next => rfl

theorem numeral_toDigits (n : Nat) {rest : List Char} (ends : Ends rest) :
    numeral false (Nat.toDigits 10 n ++ rest) = .ok (.ofNat n, rest) := by
  rw [numeral, wholeDigits_toDigits n ends]
  obtain ⟨c, more, rfl, rfl | rfl⟩ := ends <;> rfl

theorem ne_of_isDigit {d c : Char} (isDigit : d.isDigit = true) (other : c.isDigit = false) :
    d ≠ c := by
  rintro rfl
  rw [isDigit] at other
  cases other

theorem isSpace_of_isDigit {d : Char} (isDigit : d.isDigit = true) : isSpace d = false := by
  have apart {c : Char} (other : c.isDigit = false) : d ≠ c := ne_of_isDigit isDigit other
  simp [isSpace, apart (c := ' ') (by decide), apart (c := '\n') (by decide),
    apart (c := '\t') (by decide), apart (c := '\r') (by decide)]

theorem readValue_digit {d : Char} (isDigit : d.isDigit = true) (fuel : Nat) (rest : List Char) :
    readValue (fuel + 1) (d :: rest) = place (d :: rest) (readNumber false (d :: rest)) := by
  have apart (c : Char) (other : c.isDigit = false) : d ≠ c := ne_of_isDigit isDigit other
  simp [readValue, skip, isSpace_of_isDigit isDigit, isDigit, apart 'n' (by decide),
    apart 't' (by decide), apart 'f' (by decide), apart '"' (by decide), apart '[' (by decide),
    apart '\x7b' (by decide), apart '-' (by decide)]

-- The digits of a number, and the first of them.
theorem exists_digits (n : Nat) :
    ∃ d ds, (toString n).toList = d :: ds ∧ Nat.toDigits 10 n = d :: ds ∧ d.isDigit = true := by
  obtain ⟨d, ds, digits⟩ := List.exists_cons_of_ne_nil (Nat.toDigits_ne_nil (b := 10) (n := n))
  refine ⟨d, ds, ?_, digits, ?_⟩
  next => rw [Nat.toString_eq_repr, Nat.toList_repr, digits]
  next =>
    exact Nat.isDigit_of_mem_toDigits (b := 10) (n := n) (by omega) (by omega) (by simp [digits])

theorem readValue_natural (fuel n : Nat) {rest : List Char} (ends : Ends rest) :
    ∃ start, readValue (fuel + 1) ((toString n).toList ++ rest) =
      (.leaf (.number (.ofNat n)) start rest, some rest) := by
  obtain ⟨d, ds, written, digits, isDigit⟩ := exists_digits n
  have numeral := numeral_toDigits n ends
  rw [digits, List.cons_append] at numeral
  refine ⟨d :: (ds ++ rest), ?_⟩
  rw [written, List.cons_append, readValue_digit isDigit, readNumber, numeral]
  rfl

section Strings

open Value (escape)

theorem hexValue?_hexDigit {n : Nat} (small : n < 16) :
    hexValue? (Value.hexDigit n) = some n := by
  have digit : ∀ k < 16, hexValue? (Value.hexDigit k) = some k := by decide
  exact digit n small

-- A control character that is escaped as a code unit of two digits.
theorem hexUnit_control {c : Char} (control : c.toNat < 0x20) (rest : List Char) :
    hexUnit ('0' :: '0' :: Value.hexDigit (c.toNat / 16) :: Value.hexDigit (c.toNat % 16) :: rest) =
      .ok (c.toNat, rest) := by
  have wide : ∀ k < 16, (Value.hexDigit k).utf8Size = 1 := by decide
  have high := wide (c.toNat / 16) (by omega)
  have low := wide (c.toNat % 16) (by omega)
  have zero : '0'.utf8Size = 1 := by decide
  have digit : hexValue? '0' = some 0 := by decide
  have joined : ((0 * 16 + 0) * 16 + c.toNat / 16) * 16 + c.toNat % 16 = c.toNat := by omega
  simp [hexUnit, high, low, zero, digit, hexValue?_hexDigit (show c.toNat / 16 < 16 by omega),
    hexValue?_hexDigit (show c.toNat % 16 < 16 by omega)]
  omega

theorem readPieces_escape (c : Char) (done : List Piece) (fuel : Nat) (rest : List Char) :
    readPieces done (fuel + 1) (escape c ++ rest) = readPieces (.char c :: done) fuel rest := by
  unfold escape
  -- The characters with a letter or sign of their own.
  iterate 7
    split
    next same => subst same; rfl
  split
  next control =>
    have unpaired : (isHighSurrogate c.toNat || isLowSurrogate c.toNat) = false := by
      simp [isHighSurrogate, isLowSurrogate]
      omega
    simp [readPieces, hexUnit_control control, unpaired, Char.ofNat_toNat]
  next quote backslash _ _ _ _ _ printed =>
    rw [List.singleton_append, readPieces, if_neg printed]
    all_goals simp [quote, backslash]

theorem readPieces_flatMap_escape (text : List Char) (done : List Piece) {fuel : Nat}
    (enough : text.length < fuel) (rest : List Char) :
    readPieces done fuel (text.flatMap escape ++ '"' :: rest) =
      ((text.map Piece.char).reverse ++ done, .ok rest) := by
  induction text generalizing done fuel with
  | nil =>
    obtain ⟨fuel, rfl⟩ := Nat.exists_eq_add_of_lt enough
    rfl
  | cons c text ih =>
    obtain ⟨fuel, rfl⟩ := Nat.exists_eq_add_of_lt enough
    rw [List.length_cons] at enough ⊢
    rw [List.flatMap_cons, List.append_assoc, readPieces_escape, ih _ (by omega)]
    simp

theorem joinPieces_map_char (text done : List Char) :
    joinPieces done (text.map Piece.char) = .ok (done.reverse ++ text) := by
  induction text generalizing done with
  | nil => simp [joinPieces]
  | cons c text ih => simp [joinPieces, ih]

theorem escape_ne_nil (c : Char) : escape c ≠ [] := by
  unfold escape
  repeat' split
  all_goals exact List.cons_ne_nil _ _

theorem length_le_flatMap_escape (text : List Char) :
    text.length ≤ (text.flatMap escape).length := by
  induction text with
  | nil => exact Nat.zero_le _
  | cons c text ih =>
    have some := List.length_pos_iff.2 (escape_ne_nil c)
    rw [List.flatMap_cons, List.length_append, List.length_cons]
    omega

theorem readString_escape (text : String) (rest : List Char) :
    readString (text.toList.flatMap escape ++ '"' :: rest) = .ok (.ok text, rest) := by
  have enough := length_le_flatMap_escape text.toList
  rw [readString, readPieces_flatMap_escape _ _ (by rw [List.length_append]; omega)]
  simp [joinPieces_map_char, Except.map]

theorem toList_quote (text : String) :
    (Value.quote text).toList = '"' :: (text.toList.flatMap escape ++ ['"']) := by
  simp [Value.quote]

theorem readValue_quote (fuel : Nat) (text : String) (rest : List Char) :
    ∃ start, readValue (fuel + 1) ((Value.quote text).toList ++ rest) =
      (.leaf (.string (.ok text)) start rest, some rest) := by
  have read := readString_escape text rest
  refine ⟨'"' :: (text.toList.flatMap escape ++ '"' :: rest), ?_⟩
  simp only [toList_quote, List.cons_append, List.append_assoc, List.nil_append]
  simp [readValue, skip, isSpace, read, Except.map, place]

end Strings

section Lines

def lineStart (depth : Nat) : List Char := '\n' :: List.replicate (2 * depth) ' '

theorem skip_lineStart (depth : Nat) (text : List Char) :
    skip (lineStart depth ++ text) = skip text := by
  have blank : ∀ c ∈ lineStart depth, isSpace c = true := by
    simp [lineStart, isSpace]
  exact List.dropWhile_append_of_pos blank

def spread (depth : Nat) (closing : Char) : List (List Char) → List Char
  | [] => []
  | [part] => part ++ lineStart depth ++ [closing]
  | part :: parts => part ++ ',' :: lineStart (depth + 1) ++ spread depth closing parts

theorem toList_lines (depth : Nat) (closing : Char) (part : String) (parts : List String) :
    (String.intercalate "," ((part :: parts).map fun part =>
        "\n" ++ Value.indent (depth + 1) ++ part)).toList ++ lineStart depth ++ [closing] =
      lineStart (depth + 1) ++ spread depth closing ((part :: parts).map String.toList) := by
  induction parts generalizing part with
  | nil => simp [spread, lineStart, Value.indent]
  | cons next parts ih =>
    rw [List.map_cons, List.map_cons, String.intercalate_cons_cons, ← List.map_cons]
    simp only [String.toList_append, List.append_assoc] at ih ⊢
    rw [ih next]
    simp [spread, lineStart, Value.indent]

theorem toList_block (depth : Nat) (opening closing : Char) (part : String)
    (parts : List String) :
    (Value.block depth (.singleton opening) (.singleton closing) (part :: parts)).toList =
      opening :: lineStart (depth + 1) ++
        spread depth closing ((part :: parts).map String.toList) := by
  have lines := toList_lines depth closing part parts
  rw [List.cons_append, ← lines]
  simp [Value.block, lineStart, Value.indent]

theorem opens_spread {depth : Nat} {closing : Char} {part : List Char} (opens : Opens part)
    (parts : List (List Char)) : Opens (spread depth closing (part :: parts)) := by
  cases parts with
  | nil => exact (opens.append _).append _
  | cons next parts => exact (opens.append _).append _

end Lines

section Steps

variable {fuel : Nat} {text inner rest after left : List Char} {value : Tree}

theorem readItems_last (read : readValue fuel text = (value, some rest))
    (closed : skip rest = ']' :: after) :
    readItems (fuel + 1) text = (([value], none), some after) := by
  simp [readItems, read, closed]

theorem readItems_more {items : List Tree} (read : readValue fuel text = (value, some rest))
    (comma : skip rest = ',' :: after) (skipped : skip after = inner) (opens : Opens inner)
    (others : readItems fuel inner = ((items, none), some left)) :
    readItems (fuel + 1) text = ((value :: items, none), some left) := by
  obtain ⟨c, more, rfl, -, bracket, -⟩ := opens
  simp [readItems, read, comma, skipped, bracket, others]

theorem readMembers_last {name : String} {colon : List Char}
    (key : readString text = .ok (.ok name, ':' :: colon))
    (read : readValue fuel colon = (value, some rest)) (closed : skip rest = '\x7d' :: after) :
    readMembers (fuel + 1) ('"' :: text) =
      (([(⟨.ok name, ':' :: colon⟩, value)], none), some after) := by
  have stays : skip (':' :: colon) = ':' :: colon := rfl
  simp [readMembers, key, stays, read, closed]

theorem readMembers_more {name : String} {colon : List Char} {members : List (Key × Tree)}
    (key : readString text = .ok (.ok name, ':' :: colon))
    (read : readValue fuel colon = (value, some rest)) (comma : skip rest = ',' :: after)
    (skipped : skip after = inner) (opens : Opens inner)
    (others : readMembers fuel inner = ((members, none), some left)) :
    readMembers (fuel + 1) ('"' :: text) =
      (((⟨.ok name, ':' :: colon⟩, value) :: members, none), some left) := by
  obtain ⟨c, more, rfl, -, -, brace⟩ := opens
  have stays : skip (':' :: colon) = ':' :: colon := rfl
  simp [readMembers, key, stays, read, comma, skipped, brace, others]

theorem readValue_array {items : List Tree} (skipped : skip text = inner) (opens : Opens inner)
    (found : readItems fuel inner = ((items, none), some after)) :
    readValue (fuel + 1) ('[' :: text) = (.array ('[' :: text) items none, some after) := by
  obtain ⟨c, more, rfl, -, bracket, -⟩ := opens
  have stays : skip ('[' :: text) = '[' :: text := rfl
  simp [readValue, stays, skipped, bracket, found]

theorem readValue_object {members : List (Key × Tree)} (skipped : skip text = inner)
    (opens : Opens inner) (found : readMembers fuel inner = ((members, none), some after)) :
    readValue (fuel + 1) ('\x7b' :: text) =
      (.object ('\x7b' :: text) members none, some after) := by
  obtain ⟨c, more, rfl, -, -, brace⟩ := opens
  have stays : skip ('\x7b' :: text) = '\x7b' :: text := rfl
  simp [readValue, stays, skipped, brace, found]

end Steps

end Tree

namespace Value

open Json.Tree

mutual

def Fits : Value → Prop
  | .number (.natural n) => n < UInt64.size
  | .number _ => False
  | .array items => FitItems items
  | .object members => FitMembers members
  | _ => True

def FitItems : List Value → Prop
  | [] => True
  | item :: items => Fits item ∧ FitItems items

def FitMembers : List (String × Value) → Prop
  | [] => True
  | (_, value) :: members => Fits value ∧ FitMembers members

end

mutual

/-- The value with the members of its objects in the order of their keys. -/
def sorted : Value → Value
  | .array items => .array (sortedItems items)
  | .object members => .object (sortedMembers [] members)
  | value => value

def sortedItems : List Value → List Value
  | [] => []
  | item :: items => sorted item :: sortedItems items

def sortedMembers (done : List (String × Value)) :
    List (String × Value) → List (String × Value)
  | [] => done
  | (key, value) :: members => sortedMembers (insertMember key (sorted value) done) members

end

section Written

theorem opens_block (depth : Nat) {opening : Char} (bracket : opening = '[' ∨ opening = '\x7b')
    (closing : String) (parts : List String) :
    Opens (block depth (.singleton opening) closing parts).toList := by
  have front (more : String) : Opens (String.singleton opening ++ more).toList := by
    rcases bracket with rfl | rfl
    next => exact ⟨'[', more.toList, by simp, by decide⟩
    next => exact ⟨'\x7b', more.toList, by simp, by decide⟩
  unfold block
  split
  next => exact front closing
  next => simpa only [String.append_assoc] using front _

theorem opens_quote (text : String) : Opens (quote text).toList :=
  ⟨'"', _, toList_quote text, by decide⟩

theorem opens_pretty {value : Value} (fits : value.Fits) (depth : Nat) :
    Opens (pretty depth value).toList := by
  cases value with
  | null => exact ⟨'n', ['u', 'l', 'l'], by simp [pretty, compact], by decide⟩
  | bool value =>
    cases value with
    | false => exact ⟨'f', ['a', 'l', 's', 'e'], by simp [pretty, compact], by decide⟩
    | true => exact ⟨'t', ['r', 'u', 'e'], by simp [pretty, compact], by decide⟩
  | string text => exact opens_quote text
  | array items => exact opens_block depth (.inl rfl) _ _
  | object members => exact opens_block depth (.inr rfl) _ _
  | number number =>
    cases number with
    | negative | floating => cases fits
    | natural n =>
      obtain ⟨d, ds, written, -, isDigit⟩ := exists_digits n
      exact ⟨d, ds, written, isSpace_of_isDigit isDigit, ne_of_isDigit isDigit (by decide),
        ne_of_isDigit isDigit (by decide)⟩

def itemLines (depth : Nat) (items : List Value) : List Char :=
  spread depth ']' ((prettyItems (depth + 1) items).map String.toList)

def memberLines (depth : Nat) (members : List (String × Value)) : List Char :=
  spread depth '\x7d' ((prettyMembers (depth + 1) members).map String.toList)

theorem toList_pretty_array (depth : Nat) (first : Value) (others : List Value) :
    (pretty depth (.array (first :: others))).toList =
      '[' :: lineStart (depth + 1) ++ itemLines depth (first :: others) :=
  toList_block depth '[' ']' (pretty (depth + 1) first) (prettyItems (depth + 1) others)

theorem toList_pretty_object (depth : Nat) (first : String × Value)
    (others : List (String × Value)) :
    (pretty depth (.object (first :: others))).toList =
      '\x7b' :: lineStart (depth + 1) ++ memberLines depth (first :: others) :=
  toList_block depth '\x7b' '\x7d' _ (prettyMembers (depth + 1) others)

theorem opens_itemLines {first : Value} (fits : first.Fits) (depth : Nat) (others : List Value) :
    Opens (itemLines depth (first :: others)) :=
  opens_spread (opens_pretty fits (depth + 1)) _

theorem opens_memberLines (depth : Nat) (first : String × Value)
    (others : List (String × Value)) : Opens (memberLines depth (first :: others)) := by
  refine opens_spread ?_ _
  rw [String.toList_append, String.toList_append, List.append_assoc]
  exact (opens_quote first.1).append _

theorem itemLines_singleton (depth : Nat) (item : Value) :
    itemLines depth [item] = (pretty (depth + 1) item).toList ++ (lineStart depth ++ [']']) := by
  simp [itemLines, prettyItems, spread]

theorem itemLines_cons_cons (depth : Nat) (item next : Value) (items : List Value) :
    itemLines depth (item :: next :: items) = (pretty (depth + 1) item).toList ++
      ',' :: (lineStart (depth + 1) ++ itemLines depth (next :: items)) := by
  simp [itemLines, prettyItems, spread]

theorem memberLines_singleton (depth : Nat) (key : String) (value : Value) :
    memberLines depth [(key, value)] = '"' :: (key.toList.flatMap escape ++
      '"' :: ':' :: ' ' ::
        ((pretty (depth + 1) value).toList ++ (lineStart depth ++ ['\x7d']))) := by
  simp [memberLines, prettyMembers, spread, toList_quote]

theorem memberLines_cons_cons (depth : Nat) (key : String) (value : Value)
    (next : String × Value) (members : List (String × Value)) :
    memberLines depth ((key, value) :: next :: members) = '"' :: (key.toList.flatMap escape ++
      '"' :: ':' :: ' ' :: ((pretty (depth + 1) value).toList ++
        ',' :: (lineStart (depth + 1) ++ memberLines depth (next :: members)))) := by
  obtain ⟨name, held⟩ := next
  simp [memberLines, prettyMembers, spread, toList_quote]

end Written

mutual

theorem readValue_pretty : ∀ (value : Value) (depth fuel : Nat) (rest : List Char),
    value.Fits → Ends rest → 2 * (pretty depth value).toList.length ≤ fuel + 1 →
      ∃ tree, readValue (fuel + 1) ((pretty depth value).toList ++ rest) = (tree, some rest) ∧
        ofTree tree = .ok value.sorted
  | .null => fun _ _ rest _ _ _ =>
    ⟨.leaf .null ('n' :: 'u' :: 'l' :: 'l' :: rest) rest, by simp [pretty, compact]; rfl, rfl⟩
  | .bool true => fun _ _ rest _ _ _ =>
    ⟨.leaf (.bool true) ('t' :: 'r' :: 'u' :: 'e' :: rest) rest,
      by simp [pretty, compact]; rfl, rfl⟩
  | .bool false => fun _ _ rest _ _ _ =>
    ⟨.leaf (.bool false) ('f' :: 'a' :: 'l' :: 's' :: 'e' :: rest) rest,
      by simp [pretty, compact]; rfl, rfl⟩
  | .string text => by
    intro depth fuel rest _ _ _
    obtain ⟨start, read⟩ := readValue_quote fuel text rest
    exact ⟨_, read, rfl⟩
  | .number (.natural n) => by
    intro depth fuel rest fits ends _
    obtain ⟨start, read⟩ := readValue_natural fuel n ends
    refine ⟨_, read, ?_⟩
    rw [ofTree, ofLeaf, Numeral.number?_ofNat fits]
    rfl
  | .number (.negative _) => fun _ _ _ fits => False.elim fits
  | .number (.floating _ _) => fun _ _ _ fits => False.elim fits
  | .array [] => fun _ _ rest _ _ _ =>
    ⟨.array ('[' :: ']' :: rest) [] none, by simp [pretty, prettyItems, block]; rfl, rfl⟩
  | .object [] => fun _ _ rest _ _ _ =>
    ⟨.object ('\x7b' :: '\x7d' :: rest) [] none, by simp [pretty, prettyMembers, block]; rfl,
      by simp [ofTree, ofMembers, sorted, sortedMembers, ended]; rfl⟩
  | .array (first :: others) => by
    intro depth fuel rest fits _ enough
    rw [toList_pretty_array, List.cons_append] at enough ⊢
    rw [List.length_cons, List.length_append] at enough
    obtain ⟨trees, read, values⟩ := readItems_pretty (first :: others) depth fuel rest fits
      (List.cons_ne_nil _ _) (by omega)
    have opens : Opens (itemLines depth (first :: others) ++ rest) :=
      (opens_itemLines fits.1 depth others).append rest
    rw [List.cons_append, List.append_assoc]
    refine ⟨_, readValue_array ((skip_lineStart _ _).trans opens.skip_eq) opens read, ?_⟩
    rw [ofTree, values]
    rfl
  | .object (first :: others) => by
    intro depth fuel rest fits _ enough
    rw [toList_pretty_object, List.cons_append] at enough ⊢
    rw [List.length_cons, List.length_append] at enough
    obtain ⟨trees, read, values⟩ := readMembers_pretty (first :: others) depth fuel rest fits
      (List.cons_ne_nil _ _) (by omega)
    have opens : Opens (memberLines depth (first :: others) ++ rest) :=
      (opens_memberLines depth first others).append rest
    rw [List.cons_append, List.append_assoc]
    refine ⟨_, readValue_object ((skip_lineStart _ _).trans opens.skip_eq) opens read, ?_⟩
    rw [ofTree, values]
    rfl

theorem readItems_pretty : ∀ (items : List Value) (depth fuel : Nat) (rest : List Char),
    FitItems items → items ≠ [] → 2 * (itemLines depth items).length ≤ fuel →
      ∃ trees, readItems fuel (itemLines depth items ++ rest) = ((trees, none), some rest) ∧
        ofItems trees = .ok (sortedItems items)
  | [] => fun _ _ _ _ solid => absurd rfl solid
  | [item] => by
    intro depth fuel rest fits _ enough
    rw [itemLines_singleton] at enough ⊢
    simp only [List.length_append, List.length_singleton] at enough
    obtain ⟨fuel, rfl⟩ : ∃ more, fuel = more + 2 := ⟨fuel - 2, by omega⟩
    rw [List.append_assoc]
    obtain ⟨tree, read, value⟩ := readValue_pretty item (depth + 1) fuel
      (lineStart depth ++ [']'] ++ rest) fits.1 ⟨'\n', _, rfl, .inr rfl⟩ (by omega)
    refine ⟨[tree], readItems_last read ?_, ?_⟩
    next => rw [List.append_assoc, skip_lineStart]; rfl
    next => rw [ofItems, value, sortedItems]; rfl
  | item :: next :: items => by
    intro depth fuel rest fits _ enough
    rw [itemLines_cons_cons] at enough ⊢
    simp only [List.length_append, List.length_cons] at enough
    obtain ⟨fuel, rfl⟩ : ∃ more, fuel = more + 2 := ⟨fuel - 2, by omega⟩
    simp only [List.append_assoc, List.cons_append]
    obtain ⟨tree, read, value⟩ := readValue_pretty item (depth + 1) fuel
      (',' :: (lineStart (depth + 1) ++ (itemLines depth (next :: items) ++ rest))) fits.1
      ⟨',', _, rfl, .inl rfl⟩ (by omega)
    obtain ⟨trees, others, values⟩ := readItems_pretty (next :: items) depth (fuel + 1) rest fits.2
      (List.cons_ne_nil _ _) (by omega)
    have opens : Opens (itemLines depth (next :: items) ++ rest) :=
      (opens_itemLines fits.2.1 depth items).append rest
    refine ⟨tree :: trees, readItems_more read rfl
      ((skip_lineStart _ _).trans opens.skip_eq) opens others, ?_⟩
    rw [ofItems, value, values, sortedItems]
    rfl

theorem readMembers_pretty : ∀ (members : List (String × Value)) (depth fuel : Nat)
    (rest : List Char), FitMembers members → members ≠ [] →
      2 * (memberLines depth members).length ≤ fuel →
        ∃ trees, readMembers fuel (memberLines depth members ++ rest) =
          ((trees, none), some rest) ∧
            ∀ done, ofMembers done trees = .ok (sortedMembers done members)
  | [] => fun _ _ _ _ solid => absurd rfl solid
  | [(key, held)] => by
    intro depth fuel rest fits _ enough
    rw [memberLines_singleton] at enough ⊢
    simp only [List.length_append, List.length_cons] at enough
    obtain ⟨fuel, rfl⟩ : ∃ more, fuel = more + 2 := ⟨fuel - 2, by omega⟩
    simp only [List.append_assoc, List.cons_append]
    obtain ⟨tree, read, value⟩ := readValue_pretty held (depth + 1) fuel
      (lineStart depth ++ ('\x7d' :: ([] ++ rest))) fits.1 ⟨'\n', _, rfl, .inr rfl⟩ (by omega)
    rw [← readValue_blank] at read
    refine ⟨[(⟨.ok key, _⟩, tree)], readMembers_last (readString_escape key _) read ?_, ?_⟩
    next => rw [skip_lineStart]; rfl
    next => intro done; rw [ofMembers, value]; rfl
  | (key, held) :: next :: members => by
    intro depth fuel rest fits _ enough
    rw [memberLines_cons_cons] at enough ⊢
    simp only [List.length_append, List.length_cons] at enough
    obtain ⟨fuel, rfl⟩ : ∃ more, fuel = more + 2 := ⟨fuel - 2, by omega⟩
    simp only [List.append_assoc, List.cons_append]
    obtain ⟨tree, read, value⟩ := readValue_pretty held (depth + 1) fuel
      (',' :: (lineStart (depth + 1) ++ (memberLines depth (next :: members) ++ rest))) fits.1
      ⟨',', _, rfl, .inl rfl⟩ (by omega)
    obtain ⟨trees, others, values⟩ := readMembers_pretty (next :: members) depth (fuel + 1) rest
      fits.2 (List.cons_ne_nil _ _) (by omega)
    have opens : Opens (memberLines depth (next :: members) ++ rest) :=
      (opens_memberLines depth next members).append rest
    rw [← readValue_blank] at read
    refine ⟨(⟨.ok key, _⟩, tree) :: trees, readMembers_more (readString_escape key _) read rfl
      ((skip_lineStart _ _).trans opens.skip_eq) opens others, ?_⟩
    intro done
    rw [ofMembers, value]
    exact values _

end

/-- A value that is written over lines is read back, its members in the order of their keys. -/
theorem read_pretty {value : Value} (fits : value.Fits) :
    read (pretty 0 value ++ "\n") = .ok value.sorted := by
  have chars : (pretty 0 value ++ "\n").toList = (pretty 0 value).toList ++ ['\n'] :=
    String.toList_append
  obtain ⟨tree, found, held⟩ := readValue_pretty value 0
    (2 * ((pretty 0 value).toList ++ ['\n']).length + 1) ['\n'] fits ⟨'\n', [], rfl, .inr rfl⟩
    (by rw [List.length_append]; omega)
  have whole : Tree.read (pretty 0 value ++ "\n") = (tree, none) := by
    simp only [Tree.read, chars, found]
    rfl
  rw [read, whole]
  dsimp only
  rw [held]
  rfl

end Value

end GoldenSuite.Json
