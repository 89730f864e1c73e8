import GoldenSuite.Proofs.Files.Store
import GoldenSuite.Proofs.Fixture.RoundTrip
import GoldenSuite.Proofs.Trial.Stages

set_option autoImplicit false

namespace GoldenSuite

/-- The stored fixture is the one before it, brought up to date. -/
structure Fixture.Refreshes (fixture : Fixture) (isAccepted : Bool) (output : String)
    (listing : Option String) (stored : Fixture) : Prop where
  source_eq : Text.trim stored.source.toList = Text.trim fixture.source.toList
  artifact_eq : stored.artifact = Text.leftTrimmed output
  symbols_eq : stored.symbols =
    if isAccepted then (listing.map Text.leftTrimmed).or fixture.symbols else none

namespace Trial

variable {φ : Type} [FileSystem φ]

-- What is loaded after an update is what was rendered, read back.
theorem Rewritten.load_eq_ok_iff [ReadsBack φ] {test : TestCase} {fixture : Fixture}
    {isAccepted : Bool} {listing : Option String} {before after : Scene φ}
    (rewritten : Rewritten test fixture isAccepted listing before after) :
    ∃ output, FileSystem.read before.files (actual test isAccepted) = .ok output ∧
      ∀ stored, Fixture.load after.files test.fixture = .ok stored ↔
        Fixture.parse (Fixture.render fixture.source output
          (keptSymbols fixture isAccepted listing)) = .ok stored := by
  obtain ⟨output, read, written, -⟩ := rewritten
  have back := ReadsBack.read_of_write written
  refine ⟨output, read, fun stored => ?_⟩
  simp [Fixture.load_eq_ok_iff, back]

theorem map_leftTrimmed_keptSymbols {original : String} {fixture : Fixture}
    (parsed : Fixture.parse original = .ok fixture) (isAccepted : Bool)
    (listing : Option String) :
    (keptSymbols fixture isAccepted listing).map Text.leftTrimmed =
      if isAccepted then (listing.map Text.leftTrimmed).or fixture.symbols else none := by
  have trimmed := Fixture.leftTrimmed_symbols_of_parse parsed
  cases isAccepted with
  | false => rfl
  | true => cases listing <;> simp [keptSymbols, trimmed]

-- The symbols that a fixture had hold no delimiter, so only those just listed may.
theorem keptSymbols_clear_iff {original : String} {fixture : Fixture}
    (parsed : Fixture.parse original = .ok fixture) (isAccepted : Bool)
    (listing : Option String) :
    (∀ kept ∈ keptSymbols fixture isAccepted listing, ¬ Fixture.HoldsDelimiter kept) ↔
      (isAccepted = true → ∀ fresh ∈ listing, ¬ Fixture.HoldsDelimiter fresh) := by
  obtain ⟨-, clear⟩ := Fixture.not_holdsDelimiter_of_parse parsed
  cases isAccepted with
  | false => simp [keptSymbols]
  | true =>
    cases listing with
    | none => simpa [keptSymbols] using clear
    | some fresh => simp [keptSymbols]

-- A fixture that is written where nothing in it holds a delimiter is loaded as it was meant.
theorem load_of_rendered [ReadsBack φ] {before after : φ} {path : Path} {original text : String}
    {fixture : Fixture} {isAccepted : Bool} {listing : Option String}
    (parsed : Fixture.parse original = .ok fixture) (textClear : ¬ Fixture.HoldsDelimiter text)
    (listingClear : isAccepted = true → ∀ fresh ∈ listing, ¬ Fixture.HoldsDelimiter fresh)
    (written : FileSystem.write before path (Fixture.render fixture.source text
      (keptSymbols fixture isAccepted listing)).toUTF8 = (.ok (), after)) :
    Fixture.load after path = .ok ⟨Fixture.framed fixture.source, Text.leftTrimmed text,
      (keptSymbols fixture isAccepted listing).map Text.leftTrimmed⟩ := by
  obtain ⟨sourceClear, -⟩ := Fixture.not_holdsDelimiter_of_parse parsed
  have symbolsClear := (keptSymbols_clear_iff parsed isAccepted listing).2 listingClear
  exact Fixture.load_eq_ok_iff.2 ⟨_, ReadsBack.read_of_write written,
    Fixture.parse_render sourceClear textClear symbolsClear⟩

-- The fixture that an update leaves where nothing that was written holds a delimiter.
theorem Rewritten.loads [ReadsBack φ] {test : TestCase} {original : String} {fixture : Fixture}
    {isAccepted : Bool} {listing : Option String} {before after : Scene φ}
    (parsed : Fixture.parse original = .ok fixture)
    (rewritten : Rewritten test fixture isAccepted listing before after)
    (outputClear : ∀ output, FileSystem.read before.files (actual test isAccepted) = .ok output →
      ¬ Fixture.HoldsDelimiter output)
    (listingClear : isAccepted = true → ∀ fresh ∈ listing, ¬ Fixture.HoldsDelimiter fresh) :
    ∃ output, FileSystem.read before.files (actual test isAccepted) = .ok output ∧
      Fixture.load after.files test.fixture =
        .ok ⟨Fixture.framed fixture.source, Text.leftTrimmed output,
          if isAccepted then (listing.map Text.leftTrimmed).or fixture.symbols else none⟩ := by
  obtain ⟨output, read, written, -⟩ := rewritten
  refine ⟨output, read, ?_⟩
  rw [← map_leftTrimmed_keptSymbols parsed]
  exact load_of_rendered parsed (outputClear output read) listingClear written

/-- A successful update is read back as it was meant exactly when neither the actual output nor the
symbols just listed hold a delimiter. -/
theorem updateGolden_refreshes_iff [ReadsBack φ] (test : TestCase) {original : String}
    {fixture : Fixture} (parsed : Fixture.parse original = .ok fixture) (isAccepted : Bool)
    (listing : Option String) {world left : World φ}
    (updated : attempt (updateGolden test fixture isAccepted listing) world = (.ok (), left)) :
    ∃ output, FileSystem.read world.files (actual test isAccepted) = .ok output ∧
      ((∃ stored, Fixture.load left.files test.fixture = .ok stored ∧
          fixture.Refreshes isAccepted output listing stored) ↔
        ¬ Fixture.HoldsDelimiter output ∧
          (isAccepted = true → ∀ fresh ∈ listing, ¬ Fixture.HoldsDelimiter fresh)) := by
  have rewritten : Rewritten test fixture isAccepted listing world.scene left.scene :=
    (Meets.updateGolden test fixture isAccepted listing world () left.scene).1
      ⟨left, updated, rfl⟩
  obtain ⟨output, read, loads⟩ := rewritten.load_eq_ok_iff
  obtain ⟨sourceClear, -⟩ := Fixture.not_holdsDelimiter_of_parse parsed
  have symbolsKept := map_leftTrimmed_keptSymbols parsed isAccepted listing
  refine ⟨output, read, ?_⟩
  rw [← keptSymbols_clear_iff parsed]
  constructor
  next =>
    rintro ⟨stored, loaded, refreshes⟩
    have reparsed := (loads stored).1 loaded
    have sameShape : stored.symbols.isSome =
        (keptSymbols fixture isAccepted listing).isSome := by
      rw [refreshes.symbols_eq, ← symbolsKept, Option.isSome_map]
    exact (Fixture.not_holdsDelimiter_of_parse_render reparsed sameShape).2
  next =>
    rintro ⟨outputClear, symbolsClear⟩
    have reparsed := Fixture.parse_render sourceClear outputClear symbolsClear
    exact ⟨_, (loads _).2 reparsed, by simp [Fixture.framed], rfl, symbolsKept⟩

section Samples

def sampleTest : TestCase := TestCase.of ⟨"a.test"⟩ {}

def sampleFixture : Fixture := ⟨"\nint main() {}\n\n", "old\n", none⟩

def sampleWorld (path : Path) (text : String) : World Store where
  files := Store.empty.insert path text.toUTF8
  log := ⟨.normal, []⟩

def acceptedUpdate : Except Failure Unit × World Store :=
  attempt (updateGolden sampleTest sampleFixture true (some "main T\n"))
    (sampleWorld sampleTest.artifact "new\n")

def rejectedUpdate : Except Failure Unit × World Store :=
  attempt (updateGolden sampleTest sampleFixture false none)
    (sampleWorld sampleTest.negative "error:\n========\ngot\n")

theorem parse_sampleFixture :
    Fixture.parse "\nint main() {}\n\n========\n\nold\n" = .ok sampleFixture := by
  rfl

theorem acceptedUpdate_refreshes :
    acceptedUpdate.1 = .ok () ∧
      ∃ stored, Fixture.load acceptedUpdate.2.files sampleTest.fixture = .ok stored ∧
        sampleFixture.Refreshes true "new\n" (some "main T\n") stored := by
  have updated : acceptedUpdate = (.ok (), acceptedUpdate.2) := by rfl
  obtain ⟨output, read, refreshes⟩ :=
    updateGolden_refreshes_iff sampleTest parse_sampleFixture true (some "main T\n") updated
  have found : FileSystem.read (sampleWorld sampleTest.artifact "new\n").files
      sampleTest.artifact = .ok "new\n" := by rfl
  obtain rfl : "new\n" = output := Except.ok.inj (found.symm.trans read)
  exact ⟨by rfl, refreshes.2 (by decide)⟩

-- The fixture of a rejected program has gained a symbols section.
theorem rejectedUpdate_gains_symbols :
    ((sampleTest.fixture :: sampleTest.generated).map Path.components).Nodup ∧
      Fixture.parse "\nint main() {}\n\n========\n\nold\n" = .ok sampleFixture ∧
      rejectedUpdate.1 = .ok () ∧
      Fixture.load rejectedUpdate.2.files sampleTest.fixture =
        .ok ⟨"\nint main() {}\n\n", "error:", some "got\n"⟩ ∧
      ¬ ∃ stored, Fixture.load rejectedUpdate.2.files sampleTest.fixture = .ok stored ∧
        sampleFixture.Refreshes false "error:\n========\ngot\n" none stored := by
  have gained : Fixture.load rejectedUpdate.2.files sampleTest.fixture =
      .ok ⟨"\nint main() {}\n\n", "error:", some "got\n"⟩ := by rfl
  refine ⟨by decide +kernel, parse_sampleFixture, by rfl, gained, ?_⟩
  rintro ⟨stored, loaded, refreshes⟩
  cases gained.symm.trans loaded
  simpa using refreshes.symbols_eq

end Samples

end Trial

end GoldenSuite
