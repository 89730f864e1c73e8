import GoldenSuite.Proofs.Symbols
import GoldenSuite.Proofs.Text.Lines

set_option autoImplicit false

namespace GoldenSuite

namespace Text

def fields (text : List Char) : List (List Char) := (text.splitOnP isBlank).filter (· ≠ [])

theorem fields_nil : fields [] = [] := by
  simp [fields]

theorem fields_append_blank {c : Char} (blank : isBlank c = true) (before after : List Char) :
    fields (before ++ c :: after) = fields before ++ fields after := by
  rw [fields, List.splitOnP_append_cons before after blank, List.filter_append]
  rfl

theorem fields_cons_blank {c : Char} (blank : isBlank c = true) (rest : List Char) :
    fields (c :: rest) = fields rest := by
  simpa [fields_nil] using fields_append_blank blank [] rest

theorem fields_concat_blank {c : Char} (blank : isBlank c = true) (text : List Char) :
    fields (text ++ [c]) = fields text := by
  simpa [fields_nil] using fields_append_blank blank text []

theorem fields_of_solid {field : List Char} (inhabited : field ≠ [])
    (solid : ∀ c ∈ field, isBlank c = false) : fields field = [field] := by
  rw [fields, List.splitOnP_eq_singleton fun c among => by simpa using solid c among]
  simp [inhabited]

theorem splitOnP_cons_solid {c : Char} (solid : isBlank c = false) {rest field : List Char}
    {others : List (List Char)} (split : rest.splitOnP isBlank = field :: others) :
    (c :: rest).splitOnP isBlank = (c :: field) :: others := by
  rw [List.splitOnP_cons_eq_if_modifyHead, if_neg (by simp [solid]), split]
  rfl

-- The characters of a field come one after the other.
theorem exists_fields_cons_cons {c d : Char} (solid : isBlank c = false) (next : isBlank d = false)
    (rest : List Char) : ∃ field others, fields (d :: rest) = (d :: field) :: others ∧
      fields (c :: d :: rest) = (c :: d :: field) :: others := by
  obtain ⟨field, others, split⟩ := List.exists_cons_of_ne_nil (List.splitOnP_ne_nil isBlank rest)
  have one := splitOnP_cons_solid next split
  refine ⟨field, others.filter (· ≠ []), ?_, ?_⟩
  next => rw [fields, one, List.filter_cons_of_pos (by simp)]
  next => rw [fields, splitOnP_cons_solid solid one, List.filter_cons_of_pos (by simp)]

theorem words_eq_fields (text : List Char) : words text = fields text := by
  induction text with
  | nil => exact fields_nil.symm
  | cons c rest ih =>
    rw [words_cons]
    by_cases blank : isBlank c = true
    next => rw [if_pos blank, ih, fields_cons_blank blank]
    next =>
      have solid : isBlank c = false := Bool.not_eq_true _ ▸ blank
      have alone : fields [c] = [[c]] := fields_of_solid (List.cons_ne_nil _ _) (by simpa using solid)
      rw [if_neg blank, ih]
      rcases rest with _ | ⟨d, more⟩
      next => simp [fields_nil, alone]
      next =>
        by_cases gap : isBlank d = true
        next =>
          have parted : fields ([c] ++ d :: more) = [[c]] ++ fields more := by
            rw [fields_append_blank gap, alone]
          rw [List.singleton_append, List.singleton_append] at parted
          rw [fields_cons_blank gap, parted]
          cases fields more <;> simp [gap]
        next =>
          obtain ⟨field, others, first, longer⟩ :=
            exists_fields_cons_cons solid (Bool.not_eq_true _ ▸ gap) more
          simp [first, longer, gap]

theorem solid_of_mem_fields {text field : List Char} (among : field ∈ fields text) :
    field ≠ [] ∧ ∀ c ∈ field, isBlank c = false := by
  obtain ⟨piece, inhabited⟩ := List.mem_filter.1 among
  refine ⟨by simpa using inhabited, ?_⟩
  clear inhabited among
  induction text generalizing field with
  | nil => simp_all
  | cons c rest ih =>
    by_cases blank : isBlank c = true
    next =>
      rw [List.splitOnP_cons_eq_if_modifyHead, if_pos blank] at piece
      rcases List.mem_cons.1 piece with rfl | later
      next => simp
      next => exact ih later
    next =>
      have solid : isBlank c = false := Bool.not_eq_true _ ▸ blank
      obtain ⟨first, others, split⟩ :=
        List.exists_cons_of_ne_nil (List.splitOnP_ne_nil isBlank rest)
      rw [splitOnP_cons_solid solid split] at piece
      rcases List.mem_cons.1 piece with rfl | later
      next => exact List.forall_mem_cons.2 ⟨solid, ih (split ▸ List.mem_cons_self)⟩
      next => exact ih (split ▸ List.mem_cons_of_mem _ later)

theorem fields_dropLineEnd (line : List Char) : fields (dropLineEnd line) = fields line := by
  have blankFeed : isBlank '\n' = true := by decide
  have blankReturn : isBlank '\r' = true := by decide
  unfold dropLineEnd
  split
  next body turned =>
    obtain rfl : line = body.reverse ++ ['\r'] ++ ['\n'] := by
      simpa using congrArg List.reverse turned
    rw [fields_concat_blank blankFeed, fields_concat_blank blankReturn]
  next body _ turned =>
    obtain rfl : line = body.reverse ++ ['\n'] := by simpa using congrArg List.reverse turned
    rw [fields_concat_blank blankFeed]
  next => rfl

theorem lines_append_feed {body : List Char} (bare : '\n' ∉ body) (rest : List Char) :
    lines (body ++ '\n' :: rest) = dropLineEnd (body ++ ['\n']) :: lines rest := by
  rw [lines, linesWithEnds_append_feed bare]
  rfl

theorem dropLineEnd_append_feed {body : List Char} (ended : body.getLast? ≠ some '\r') :
    dropLineEnd (body ++ ['\n']) = body := by
  rcases List.eq_nil_or_concat body with rfl | ⟨front, last, rfl⟩
  next => rfl
  next =>
    have other : last ≠ '\r' := by simpa using ended
    simp [dropLineEnd, other]

end Text

namespace Symbols

def IsKept (line : List Char) : Prop :=
  Text.fields line ≠ [] ∧ (Text.fields line)[1]? ≠ some readOnlyType

instance (line : List Char) : Decidable (IsKept line) := inferInstanceAs (Decidable (_ ∧ _))

def shortened (line : List Char) : List Char := [' '].intercalate ((Text.fields line).take 2)

def kept (raw : String) : List (List Char) :=
  ((Text.lines raw.toList).filter fun line => IsKept line).map shortened

def written (lines : List (List Char)) : List Char := lines.flatMap (· ++ ['\n'])

section Lines

theorem entry?_eq (line : List Char) :
    entry? line = if IsKept line then some (shortened line) else none := by
  unfold entry?
  rw [Text.words_eq_fields]
  rcases split : Text.fields line with _ | ⟨name, _ | ⟨type, more⟩⟩
  next => simp [IsKept, split]
  next => simp [IsKept, shortened, split, List.intercalate]
  next =>
    by_cases readOnly : type = readOnlyType
    next => simp [IsKept, split, readOnly]
    next => simp [IsKept, shortened, split, readOnly, List.intercalate]

theorem filterMap_entry? (lines : List (List Char)) :
    lines.filterMap entry? = (lines.filter fun line => IsKept line).map shortened := by
  induction lines with
  | nil => rfl
  | cons line lines ih =>
    have first := entry?_eq line
    by_cases keep : IsKept line
    next =>
      rw [if_pos keep] at first
      simp [List.filterMap_cons_some first, keep, ih]
    next =>
      rw [if_neg keep] at first
      simp [List.filterMap_cons_none first, keep, ih]

theorem toList_filter (raw : String) : (filter raw).toList = written (kept raw) := by
  rw [filter, filterMap_entry?, String.toList_ofList, kept, written]

theorem fields_shortened (line : List Char) :
    Text.fields (shortened line) = (Text.fields line).take 2 := by
  have solid : ∀ field ∈ Text.fields line, _ := fun field => Text.solid_of_mem_fields
  rw [shortened]
  generalize Text.fields line = fields at solid ⊢
  rcases fields with _ | ⟨name, _ | ⟨type, more⟩⟩
  next => exact Text.fields_nil
  next =>
    obtain ⟨inhabited, clear⟩ := solid name (by simp)
    simpa [List.intercalate] using Text.fields_of_solid inhabited clear
  next =>
    obtain ⟨inhabited, clear⟩ := solid name (by simp)
    obtain ⟨inhabited', clear'⟩ := solid type (by simp)
    have parted := Text.fields_append_blank (c := ' ') (by decide) name type
    rw [Text.fields_of_solid inhabited clear, Text.fields_of_solid inhabited' clear'] at parted
    simpa [List.intercalate] using parted

theorem isKept_shortened {line : List Char} (keep : IsKept line) : IsKept (shortened line) := by
  rw [IsKept, fields_shortened]
  exact ⟨by simpa using keep.1, by simpa [List.getElem?_take] using keep.2⟩

theorem shortened_shortened (line : List Char) : shortened (shortened line) = shortened line := by
  rw [shortened, fields_shortened, List.take_take, Nat.min_self, shortened]

-- A line that was shortened starts and ends with a field, and has no blank but the one between.
theorem solid_shortened (line : List Char) :
    (∀ c ∈ (shortened line).head?, Text.isBlank c = false) ∧
      (∀ c ∈ (shortened line).getLast?, Text.isBlank c = false) ∧
      ∀ c ∈ shortened line, c = ' ' ∨ Text.isBlank c = false := by
  have solid : ∀ field ∈ Text.fields line, _ := fun field => Text.solid_of_mem_fields
  rw [shortened]
  generalize Text.fields line = fields at solid ⊢
  rcases fields with _ | ⟨name, _ | ⟨type, more⟩⟩
  next => simp [List.intercalate]
  next =>
    obtain ⟨-, clear⟩ := solid name (by simp)
    have whole : [' '].intercalate ([name].take 2) = name := by simp [List.intercalate]
    rw [whole]
    exact ⟨fun c first => clear c (List.mem_of_mem_head? first),
      fun c last => clear c (List.mem_of_getLast? last), fun c among => .inr (clear c among)⟩
  next =>
    obtain ⟨inhabited, clear⟩ := solid name (by simp)
    obtain ⟨inhabited', clear'⟩ := solid type (by simp)
    have whole : [' '].intercalate ((name :: type :: more).take 2) = name ++ ' ' :: type := by
      simp [List.intercalate]
    rw [whole, List.head?_append_of_ne_nil _ inhabited, List.getLast?_append_cons,
      List.getLast?_cons_of_ne_nil inhabited']
    refine ⟨fun c first => clear c (List.mem_of_mem_head? first),
      fun c last => clear' c (List.mem_of_getLast? last), fun c among => ?_⟩
    simp only [List.mem_append, List.mem_cons] at among
    rcases among with front | rfl | back
    next => exact .inr (clear c front)
    next => exact .inl rfl
    next => exact .inr (clear' c back)

theorem trim_shortened (line : List Char) : Text.trim (shortened line) = shortened line := by
  obtain ⟨first, last, -⟩ := solid_shortened line
  rw [Text.trim, Text.trimStart_eq_self first, Text.trimEnd_eq_self last]

theorem feed_notMem_shortened (line : List Char) : '\n' ∉ shortened line := by
  obtain ⟨-, -, between⟩ := solid_shortened line
  exact fun among => absurd (between _ among) (by decide)

theorem getLast?_shortened (line : List Char) : (shortened line).getLast? ≠ some '\r' := by
  obtain ⟨-, last, -⟩ := solid_shortened line
  exact fun ended => absurd (last _ ended) (by decide)

end Lines

section Listings

theorem lines_written {lines : List (List Char)} (bare : ∀ line ∈ lines, '\n' ∉ line)
    (ended : ∀ line ∈ lines, line.getLast? ≠ some '\r') : Text.lines (written lines) = lines := by
  induction lines with
  | nil => rfl
  | cons line lines ih =>
    obtain ⟨bareLine, bareLines⟩ := List.forall_mem_cons.1 bare
    obtain ⟨endedLine, endedLines⟩ := List.forall_mem_cons.1 ended
    have split : written (line :: lines) = line ++ '\n' :: written lines := by simp [written]
    rw [split, Text.lines_append_feed bareLine, Text.dropLineEnd_append_feed endedLine,
      ih bareLines endedLines]

theorem exists_of_mem_kept {raw : String} {line : List Char} (among : line ∈ kept raw) :
    ∃ original, IsKept original ∧ shortened original = line := by
  obtain ⟨original, passed, rfl⟩ := List.mem_map.1 among
  exact ⟨original, of_decide_eq_true (List.mem_filter.1 passed).2, rfl⟩

theorem lines_filter (raw : String) : Text.lines (filter raw).toList = kept raw := by
  rw [toList_filter]
  refine lines_written (fun line among => ?_) fun line among => ?_
  all_goals obtain ⟨original, -, rfl⟩ := exists_of_mem_kept among
  next => exact feed_notMem_shortened original
  next => exact getLast?_shortened original

-- What was kept once is kept as it is.
theorem kept_filter (raw : String) : kept (filter raw) = kept raw := by
  have passed : ∀ line ∈ kept raw, decide (IsKept line) = true ∧ shortened line = line := by
    intro line among
    obtain ⟨original, keep, rfl⟩ := exists_of_mem_kept among
    exact ⟨decide_eq_true (isKept_shortened keep), shortened_shortened original⟩
  rw [kept, lines_filter, List.filter_eq_self.2 fun line among => (passed line among).1]
  exact (List.map_congr_left fun line among => (passed line among).2).trans (List.map_id' _)

theorem entry?_congr {line other : List Char} (same : Text.fields line = Text.fields other) :
    entry? line = entry? other := by
  simp only [Text.words_eq_fields, same, entry?]

-- It does not matter whether a carriage return stands before a line feed.
theorem kept_eq_splitOn (raw : String) :
    kept raw = ((raw.toList.splitOn '\n').filter fun line => IsKept line).map shortened := by
  rw [kept, ← filterMap_entry?, ← filterMap_entry?]
  induction raw.toList using Text.linesInduction with
  | single body bare =>
    rw [List.splitOn_eq_singleton bare]
    by_cases empty : body = []
    next => simp [empty, Text.lines, Text.linesWithEnds, entry?_eq, IsKept, Text.fields_nil]
    next =>
      rw [Text.lines, Text.linesWithEnds_of_bare bare empty, List.map_singleton,
        List.filterMap_cons, List.filterMap_cons, entry?_congr (Text.fields_dropLineEnd body)]
  | line body rest bare ih =>
    have same : Text.fields (Text.dropLineEnd (body ++ ['\n'])) = Text.fields body := by
      rw [Text.fields_dropLineEnd, Text.fields_concat_blank (by decide)]
    rw [List.splitOn_append_cons_self, List.splitOn_eq_singleton bare, List.singleton_append,
      Text.lines_append_feed bare, List.filterMap_cons, List.filterMap_cons, entry?_congr same, ih]

theorem kept_append (first second : String) :
    kept (first ++ "\n" ++ second) = kept first ++ kept second := by
  simp [kept_eq_splitOn, List.splitOn_append_cons_self]

end Listings

/-- Filtering keeps the lines on which something stands that is not read-only data, in their order,
each with its first two fields, a blank between them and a line feed behind. These are the lines
that it reads the second time, so it then changes nothing; and as it goes line by line, it does not
matter whether listings are put together before or after. -/
theorem filter_shortens_lines :
    (∀ raw, (filter raw).toList = written (kept raw) ∧ Text.lines (filter raw).toList = kept raw ∧
      kept raw = ((raw.toList.splitOn '\n').filter fun line => IsKept line).map shortened) ∧
      (∀ raw, ∀ line ∈ kept raw, IsKept line ∧ shortened line = line ∧ Text.trim line = line) ∧
      (∀ raw, filter (filter raw) = filter raw) ∧
      ∀ first second, filter (first ++ "\n" ++ second) = filter first ++ filter second := by
  refine ⟨fun raw => ⟨toList_filter raw, lines_filter raw, kept_eq_splitOn raw⟩, ?_, ?_, ?_⟩
  next =>
    intro raw line among
    obtain ⟨original, keep, rfl⟩ := exists_of_mem_kept among
    exact ⟨isKept_shortened keep, shortened_shortened original, trim_shortened original⟩
  next => exact fun raw => String.toList_inj.1 (by rw [toList_filter, kept_filter, toList_filter])
  next =>
    intro first second
    apply String.toList_inj.1
    rw [toList_filter, kept_append, String.toList_append, toList_filter, toList_filter, written,
      List.flatMap_append]
    rfl

section Samples

-- A carriage return within a line, a blank line, read-only data, and a line of one field at the end.
def raggedRaw : String := " main T 0\r\nf\rg x\n\n.rodata r 8\nputs"

theorem filter_shortens_ragged :
    "f g".toList ∈ kept raggedRaw ∧ IsKept "f g".toList ∧ Text.trim "f g".toList = "f g".toList ∧
      filter raggedRaw = "main T\nf g\nputs\n" ∧
      filter (filter raggedRaw) = filter raggedRaw ∧
      filter (raggedRaw ++ "\n" ++ raggedRaw) = filter raggedRaw ++ filter raggedRaw := by
  obtain ⟨-, solid, again, parts⟩ := filter_shortens_lines
  have among : "f g".toList ∈ kept raggedRaw := by decide
  obtain ⟨keep, -, trimmed⟩ := solid raggedRaw _ among
  exact ⟨among, keep, trimmed, by decide, again raggedRaw, parts raggedRaw raggedRaw⟩

end Samples

end Symbols

end GoldenSuite
