import GoldenSuite.Proofs.Fixture.RoundTrip

set_option autoImplicit false

namespace GoldenSuite.Fixture

variable {text : String} {fixture : Fixture}

-- The line feed that a second delimiter takes away is at the end, so the artifact stays trimmed.
theorem artifact_of_parse (parsed : parse text = .ok fixture) :
    ¬ HoldsDelimiter fixture.artifact ∧
      Text.leftTrimmed fixture.artifact = fixture.artifact := by
  obtain ⟨part, among, front⟩ : ∃ part ∈ sections text.toList,
      fixture.artifact.toList <+: Text.trimStart part := by
    obtain ⟨source, artifact, split, rfl⟩ | ⟨source, artifact, listing, split, rfl⟩ :=
      parse_eq_ok parsed
    next => exact ⟨artifact, by simp [split], by simp⟩
    next => exact ⟨artifact, by simp [split], by simpa using Text.dropSuffix_prefix _ _⟩
  have clear : ¬ delimiter <:+: Text.trimStart part :=
    mt (Text.infix_trimStart_iff delimiter_ne_nil delimiter_front).1
      (Text.not_occurs_of_mem_pieces delimiter_ne_nil among)
  refine ⟨fun holds => clear (holds.trans front.isInfix), ?_⟩
  rw [Text.leftTrimmed, Text.trimStart_of_prefix front, String.ofList_toList]

def canonical (fixture : Fixture) : Fixture := { fixture with source := framed fixture.source }

theorem serialize_canonical (fixture : Fixture) :
    fixture.canonical.serialize = fixture.serialize := by
  simp [serialize, canonical, render, renderChars, framed]

theorem parse_serialize (parsed : parse text = .ok fixture) :
    parse fixture.serialize = .ok fixture.canonical := by
  obtain ⟨sourceClear, symbolsClear⟩ := not_holdsDelimiter_of_parse parsed
  obtain ⟨artifactClear, artifactTrimmed⟩ := artifact_of_parse parsed
  have symbolsTrimmed := leftTrimmed_symbols_of_parse parsed
  rw [serialize, parse_render sourceClear artifactClear symbolsClear, artifactTrimmed,
    symbolsTrimmed, canonical]

/-- Nothing in the parts of a fixture gets lost between rendering and reading. -/
structure Lossless (source artifact : String) (symbols : Option String) : Prop where
  source_clear : ¬ HoldsDelimiter source
  artifact_clear : ¬ HoldsDelimiter artifact
  symbols_clear : ∀ listing ∈ symbols, ¬ HoldsDelimiter listing
  artifact_trimmed : Text.leftTrimmed artifact = artifact
  symbols_trimmed : ∀ listing ∈ symbols, Text.leftTrimmed listing = listing

theorem lossless_of_parse (parsed : parse text = .ok fixture) :
    Lossless fixture.source fixture.artifact fixture.symbols where
  source_clear := (not_holdsDelimiter_of_parse parsed).1
  artifact_clear := (artifact_of_parse parsed).1
  symbols_clear := (not_holdsDelimiter_of_parse parsed).2
  artifact_trimmed := (artifact_of_parse parsed).2
  symbols_trimmed listing present := by
    have trimmed := leftTrimmed_symbols_of_parse parsed
    rw [Option.mem_def.1 present] at trimmed
    exact Option.some.inj trimmed

theorem Lossless.parse_render {source artifact : String} {symbols : Option String}
    (lossless : Lossless source artifact symbols) :
    parse (render source artifact symbols) = .ok ⟨framed source, artifact, symbols⟩ := by
  have trimmed : symbols.map Text.leftTrimmed = symbols := by
    cases symbols with
    | none => rfl
    | some listing => exact congrArg some (lossless.symbols_trimmed listing rfl)
  rw [Fixture.parse_render lossless.source_clear lossless.artifact_clear lossless.symbols_clear,
    lossless.artifact_trimmed, trimmed]

/-- What is rendered of a fixture that was read is read as the same fixture, but for the frame of
its source, and rendered as the same text; and it is the text that was read exactly when that is a
rendering of parts of which nothing gets lost. -/
theorem serialize_stable (parsed : parse text = .ok fixture) :
    parse fixture.serialize = .ok ⟨framed fixture.source, fixture.artifact, fixture.symbols⟩ ∧
      (∀ again, parse fixture.serialize = .ok again → again.serialize = fixture.serialize) ∧
      (fixture.serialize = text ↔ ∃ source artifact symbols,
        Lossless source artifact symbols ∧ text = render source artifact symbols) := by
  refine ⟨parse_serialize parsed, fun again reparsed => ?_, ?_, ?_⟩
  next =>
    obtain rfl := Except.ok.inj ((parse_serialize parsed).symm.trans reparsed)
    exact serialize_canonical fixture
  next => exact fun same => ⟨_, _, _, lossless_of_parse parsed, same.symm⟩
  next =>
    rintro ⟨source, artifact, symbols, lossless, rfl⟩
    obtain rfl := Except.ok.inj (lossless.parse_render.symm.trans parsed)
    exact serialize_canonical ⟨source, artifact, symbols⟩

section Samples

-- No line feed stands in front of the second delimiter, and all that stands behind it is blank.
def raggedText : String := "int main() {}\r\n\n========\r\n\t\n x\n========\n \n"

def raggedFixture : Fixture := ⟨"int main() {}\r\n\n", "x", some ""⟩

theorem serialize_stable_ragged :
    parse raggedText = .ok raggedFixture ∧
      parse raggedFixture.serialize = .ok ⟨"\nint main() {}\n\n", "x", some ""⟩ ∧
      raggedFixture.serialize ≠ raggedText := by
  have parsed : parse raggedText = .ok raggedFixture := by rfl
  exact ⟨parsed, (serialize_stable parsed).1, by decide⟩

end Samples

end GoldenSuite.Fixture
