import GoldenSuite.Fixture.Basic
import GoldenSuite.Proofs.Text.Pieces
import GoldenSuite.Proofs.Text.Trimming

set_option autoImplicit false

namespace GoldenSuite

def Text.leftTrimmed (text : String) : String := String.ofList (Text.trimStart text.toList)

namespace Fixture

def HoldsDelimiter (text : String) : Prop := delimiter <:+: text.toList

instance (text : String) : Decidable (HoldsDelimiter text) :=
  decidable_of_iff (Text.occurs delimiter text.toList = true) Text.occurs_iff

-- The source section of a rendered fixture: one blank line in front and one behind.
def frame (source : List Char) : List Char := '\n' :: Text.trim source ++ ['\n', '\n']

def framed (source : String) : String := String.ofList (frame source.toList)

theorem delimiter_ne_nil : delimiter ≠ [] := by decide

theorem delimiter_front : ∀ c ∈ delimiter.head?, Text.isBlank c = false := by
  rintro _ ⟨rfl⟩
  decide

theorem trim_delimiter : Text.trim delimiter = delimiter := by decide

theorem newline_notMem_delimiter : '\n' ∉ delimiter := by decide

theorem frame_eq_append_newline (source : List Char) :
    frame source = '\n' :: Text.trim source ++ ['\n'] ++ ['\n'] := by
  simp [frame]

theorem endsApart_frame (source : List Char) : Text.EndsApart delimiter (frame source) := by
  rw [frame_eq_append_newline]
  exact Text.endsApart_append_singleton _ newline_notMem_delimiter

@[simp] theorem trim_frame (source : List Char) :
    Text.trim (frame source) = Text.trim source := by
  have blank : Text.isBlank '\n' = true := by decide
  rw [frame_eq_append_newline, Text.trim_append_of_blank blank, Text.trim_append_of_blank blank,
    Text.trim_cons_of_blank blank, Text.trim_trim]

theorem delimiter_infix_frame_iff (source : List Char) :
    delimiter <:+: frame source ↔ delimiter <:+: source := by
  have solid := delimiter_ne_nil
  have apart := newline_notMem_delimiter
  rw [frame_eq_append_newline, Text.infix_append_singleton_iff solid apart,
    Text.infix_append_singleton_iff solid apart, Text.infix_cons_iff_of_notMem solid apart,
    Text.infix_trim_iff solid trim_delimiter]

-- The source is always a section of its own, for it is followed by a line feed.
theorem sections_render_two (source artifact : String) :
    sections (render source artifact none).toList =
      sections (frame source.toList) ++ sections ('\n' :: '\n' :: artifact.toList) := by
  have split := Text.pieces_append_mark delimiter_ne_nil (endsApart_frame source.toList)
    ('\n' :: '\n' :: artifact.toList)
  simpa [sections, renderChars, frame] using split

theorem sections_render_three (source artifact listing : String) :
    sections (render source artifact (some listing)).toList =
      sections (frame source.toList) ++ (sections ('\n' :: '\n' :: artifact.toList ++ ['\n'])
        ++ sections ('\n' :: '\n' :: listing.toList)) := by
  have apart : Text.EndsApart delimiter ('\n' :: '\n' :: artifact.toList ++ ['\n']) :=
    Text.endsApart_append_singleton _ newline_notMem_delimiter
  have second :=
    Text.pieces_append_mark delimiter_ne_nil apart ('\n' :: '\n' :: listing.toList)
  have first := Text.pieces_append_mark delimiter_ne_nil (endsApart_frame source.toList)
    ('\n' :: '\n' :: artifact.toList ++ ['\n'] ++ (delimiter ++ '\n' :: '\n' :: listing.toList))
  simp only [sections, renderChars, frame, toList_render] at first second ⊢
  rw [← second, ← first]
  simp

theorem parse_of_sections_two {text : String} {source artifact : List Char}
    (split : sections text.toList = [source, artifact]) :
    parse text =
      .ok ⟨String.ofList source, String.ofList (Text.trimStart artifact), none⟩ := by
  simp only [parse, split]

theorem parse_of_sections_three {text : String} {source artifact listing : List Char}
    (split : sections text.toList = [source, artifact, listing]) :
    parse text =
      .ok ⟨String.ofList source,
        String.ofList (Text.dropSuffix ['\n'] (Text.trimStart artifact)),
        some (String.ofList (Text.trimStart listing))⟩ := by
  simp only [parse, split]

theorem parse_eq_ok {text : String} {fixture : Fixture} (parsed : parse text = .ok fixture) :
    (∃ source artifact, sections text.toList = [source, artifact] ∧
        fixture = ⟨String.ofList source, String.ofList (Text.trimStart artifact), none⟩) ∨
      ∃ source artifact listing, sections text.toList = [source, artifact, listing] ∧
        fixture = ⟨String.ofList source,
          String.ofList (Text.dropSuffix ['\n'] (Text.trimStart artifact)),
          some (String.ofList (Text.trimStart listing))⟩ := by
  unfold parse at parsed
  split at parsed
  next source artifact split => exact .inl ⟨source, artifact, split, (Except.ok.inj parsed).symm⟩
  next source artifact listing split =>
    exact .inr ⟨source, artifact, listing, split, (Except.ok.inj parsed).symm⟩
  all_goals cases parsed

theorem not_holdsDelimiter_of_parse {text : String} {fixture : Fixture}
    (parsed : parse text = .ok fixture) :
    ¬ HoldsDelimiter fixture.source ∧ ∀ listing ∈ fixture.symbols, ¬ HoldsDelimiter listing := by
  have absent (part : List Char) (member : part ∈ sections text.toList) :
      ¬ delimiter <:+: part :=
    Text.not_occurs_of_mem_pieces delimiter_ne_nil member
  obtain ⟨source, artifact, split, rfl⟩ | ⟨source, artifact, listing, split, rfl⟩ :=
    parse_eq_ok parsed
  next => simpa [HoldsDelimiter] using absent source (by simp [split])
  next =>
    have source := absent source (by simp [split])
    have listing := absent listing (by simp [split])
    rw [← Text.infix_trimStart_iff delimiter_ne_nil delimiter_front] at listing
    simpa [HoldsDelimiter] using ⟨source, listing⟩

theorem leftTrimmed_symbols_of_parse {text : String} {fixture : Fixture}
    (parsed : parse text = .ok fixture) :
    fixture.symbols.map Text.leftTrimmed = fixture.symbols := by
  obtain ⟨_, _, _, rfl⟩ | ⟨_, _, listing, _, rfl⟩ := parse_eq_ok parsed
  next => rfl
  next => simp [Text.leftTrimmed, Text.trimStart_trimStart]

theorem length_sections_of_parse {text : String} {fixture : Fixture}
    (parsed : parse text = .ok fixture) :
    (sections text.toList).length = if fixture.symbols.isSome then 3 else 2 := by
  obtain ⟨_, _, split, rfl⟩ | ⟨_, _, _, split, rfl⟩ := parse_eq_ok parsed <;> simp [split]

theorem length_sections_eq_one_iff (text : List Char) :
    (sections text).length = 1 ↔ ¬ delimiter <:+: text :=
  Text.length_pieces_eq_one_iff delimiter_ne_nil

theorem length_sections_pos (text : List Char) : 0 < (sections text).length :=
  Text.length_pieces_pos delimiter text

theorem sections_of_not_occurs {text : List Char} (absent : ¬ delimiter <:+: text) :
    sections text = [text] :=
  Text.pieces_eq_singleton absent

-- The section of an artifact as it is rendered, which puts a blank line in front.
theorem delimiter_infix_lead_iff (text : List Char) :
    delimiter <:+: '\n' :: '\n' :: text ↔ delimiter <:+: text := by
  have apart := newline_notMem_delimiter
  rw [Text.infix_cons_iff_of_notMem delimiter_ne_nil apart,
    Text.infix_cons_iff_of_notMem delimiter_ne_nil apart]

theorem delimiter_infix_lead_append_iff (text : List Char) :
    delimiter <:+: '\n' :: '\n' :: text ++ ['\n'] ↔ delimiter <:+: text := by
  rw [Text.infix_append_singleton_iff delimiter_ne_nil newline_notMem_delimiter,
    delimiter_infix_lead_iff]

theorem trimStart_lead (text : List Char) :
    Text.trimStart ('\n' :: '\n' :: text) = Text.trimStart text :=
  Text.trimStart_append_of_blank ['\n', '\n'] (by decide) text

theorem dropSuffix_trimStart_lead (text : List Char) :
    Text.dropSuffix ['\n'] (Text.trimStart ('\n' :: '\n' :: text ++ ['\n'])) =
      Text.trimStart text := by
  have lead := trimStart_lead (text ++ ['\n'])
  simp only [List.cons_append] at lead ⊢
  rw [lead, Text.dropSuffix_trimStart_append (by decide)]

theorem parse_render {source artifact : String} {symbols : Option String}
    (sourceClear : ¬ HoldsDelimiter source) (artifactClear : ¬ HoldsDelimiter artifact)
    (symbolsClear : ∀ listing ∈ symbols, ¬ HoldsDelimiter listing) :
    parse (render source artifact symbols) =
      .ok ⟨framed source, Text.leftTrimmed artifact, symbols.map Text.leftTrimmed⟩ := by
  have first := sections_of_not_occurs (mt (delimiter_infix_frame_iff source.toList).1 sourceClear)
  cases symbols with
  | none =>
    have second := sections_of_not_occurs
      (mt (delimiter_infix_lead_iff artifact.toList).1 artifactClear)
    have split := sections_render_two source artifact
    rw [first, second] at split
    rw [parse_of_sections_two split, trimStart_lead]
    rfl
  | some listing =>
    have second := sections_of_not_occurs
      (mt (delimiter_infix_lead_append_iff artifact.toList).1 artifactClear)
    have third := sections_of_not_occurs
      (mt (delimiter_infix_lead_iff listing.toList).1 (symbolsClear listing rfl))
    have split := sections_render_three source artifact listing
    rw [first, second, third] at split
    rw [parse_of_sections_three split, dropSuffix_trimStart_lead, trimStart_lead]
    rfl

theorem length_sections_frame_eq_one_iff (source : String) :
    (sections (frame source.toList)).length = 1 ↔ ¬ HoldsDelimiter source := by
  rw [length_sections_eq_one_iff, delimiter_infix_frame_iff, HoldsDelimiter]

theorem length_sections_lead_eq_one_iff (text : String) :
    (sections ('\n' :: '\n' :: text.toList)).length = 1 ↔ ¬ HoldsDelimiter text := by
  rw [length_sections_eq_one_iff, delimiter_infix_lead_iff, HoldsDelimiter]

theorem length_sections_lead_append_eq_one_iff (text : String) :
    (sections ('\n' :: '\n' :: text.toList ++ ['\n'])).length = 1 ↔ ¬ HoldsDelimiter text := by
  rw [length_sections_eq_one_iff, delimiter_infix_lead_append_iff, HoldsDelimiter]

theorem not_holdsDelimiter_of_parse_render {source artifact : String} {symbols : Option String}
    {fixture : Fixture} (parsed : parse (render source artifact symbols) = .ok fixture)
    (sameShape : fixture.symbols.isSome = symbols.isSome) :
    ¬ HoldsDelimiter source ∧ ¬ HoldsDelimiter artifact ∧
      ∀ listing ∈ symbols, ¬ HoldsDelimiter listing := by
  -- There is no room for a delimiter inside a part: it would make one section more.
  have count := length_sections_of_parse parsed
  have first := length_sections_pos (frame source.toList)
  rw [sameShape] at count
  cases symbols with
  | none =>
    have second := length_sections_pos ('\n' :: '\n' :: artifact.toList)
    rw [sections_render_two, List.length_append] at count
    simp only [Option.isSome_none, Bool.false_eq_true, if_false] at count
    refine ⟨(length_sections_frame_eq_one_iff source).1 ?_,
      (length_sections_lead_eq_one_iff artifact).1 ?_, by simp⟩
    next => omega
    next => omega
  | some listing =>
    have second := length_sections_pos ('\n' :: '\n' :: artifact.toList ++ ['\n'])
    have third := length_sections_pos ('\n' :: '\n' :: listing.toList)
    rw [sections_render_three, List.length_append, List.length_append] at count
    simp only [Option.isSome_some, if_true] at count
    refine ⟨(length_sections_frame_eq_one_iff source).1 ?_,
      (length_sections_lead_append_eq_one_iff artifact).1 ?_, ?_⟩
    next => omega
    next => omega
    next =>
      rintro _ ⟨rfl⟩
      apply (length_sections_lead_eq_one_iff listing).1
      omega

/-- Reading undoes rendering, up to blanks at the seams, exactly when no part holds a delimiter. -/
theorem parse_render_eq_ok_iff (source artifact : String) (symbols : Option String) :
    parse (render source artifact symbols) =
        .ok ⟨framed source, Text.leftTrimmed artifact, symbols.map Text.leftTrimmed⟩ ↔
      ¬ HoldsDelimiter source ∧ ¬ HoldsDelimiter artifact ∧
        ∀ listing ∈ symbols, ¬ HoldsDelimiter listing := by
  constructor
  next =>
    intro parsed
    exact not_holdsDelimiter_of_parse_render parsed (by simp)
  next =>
    rintro ⟨sourceClear, artifactClear, symbolsClear⟩
    exact parse_render sourceClear artifactClear symbolsClear

end Fixture

end GoldenSuite
