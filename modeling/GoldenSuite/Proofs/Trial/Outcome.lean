import GoldenSuite.Proofs.Trial.Stages

set_option autoImplicit false

namespace GoldenSuite.Trial

variable {φ : Type} [FileSystem φ]

/-- The fixture is read, the stages up to the comparison of the artifact are got through, and the
tool that compares it exits with this status. -/
def Compared (setup : Setup φ) (options : RunOptions) (test : TestCase) (fixture : Fixture)
    (isAccepted : Bool) (code : Int) (before after : Scene φ) : Prop :=
  Fixture.load before.files test.fixture = .ok fixture ∧
    ∃ ready, Prepared setup options test fixture isAccepted before ready ∧
      Scene.Exits setup.tools (diffInvocation setup.config test.expected (actual test isAccepted))
        code ready after

-- There are no symbols to compare, or those of the object file are the expected ones.
def SymbolsSettled (setup : Setup φ) (test : TestCase) (fixture : Fixture) (before : Scene φ) :
    Prop :=
  fixture.symbols = none ∨ ∃ expected listing after, fixture.symbols = some expected ∧
    Listed setup test listing before after ∧ Symbols.counted expected = Symbols.counted listing

def SymbolsDiffer (setup : Setup φ) (test : TestCase) (fixture : Fixture) (listing : String)
    (before after : Scene φ) : Prop :=
  ∃ expected, fixture.symbols = some expected ∧ Listed setup test listing before after ∧
    Symbols.counted expected ≠ Symbols.counted listing

variable (setup : Setup φ) (options : RunOptions) (test : TestCase)

theorem exists_driven_ok_iff (before : Scene φ) :
    (∃ after, Driven setup options test before .ok after) ↔
      ∃ fixture isAccepted compared,
        Compared setup options test fixture isAccepted 0 before compared ∧
          (isAccepted = true → SymbolsSettled setup test fixture compared) := by
  constructor
  next =>
    rintro ⟨after, fixture, isAccepted, ready, loaded, prepared, compared⟩
    cases compared with
    | rejected verdict same =>
      exact ⟨fixture, isAccepted, after, ⟨loaded, ready, prepared, same⟩, by simp [verdict]⟩
    | accepted verdict same symbols =>
      refine ⟨fixture, isAccepted, _, ⟨loaded, ready, prepared, same⟩, fun _ => ?_⟩
      cases symbols with
      | absent none => exact .inl none
      | same present listed equal => exact .inr ⟨_, _, _, present, listed, equal⟩
  next =>
    rintro ⟨fixture, isAccepted, compared, ⟨loaded, ready, prepared, same⟩, settled⟩
    cases isAccepted with
    | false => exact ⟨compared, fixture, false, ready, loaded, prepared, .rejected rfl same⟩
    | true =>
      obtain none | ⟨expected, listing, after, present, listed, equal⟩ := settled rfl
      next =>
        exact ⟨compared, fixture, true, ready, loaded, prepared, .accepted rfl same (.absent none)⟩
      next =>
        exact ⟨after, fixture, true, ready, loaded, prepared,
          .accepted rfl same (.same present listed equal)⟩

/-- What a run went by when it came to the update that it reports: the fixture that was loaded, the
verdict, and the listing that was made if the symbols are updated. -/
def ComesToUpdate (fixture : Fixture) (isAccepted : Bool) (listing : Option String)
    (before moment : Scene φ) : Update → Prop
  | .artifact => listing = none ∧ Compared setup options test fixture isAccepted 1 before moment
  | .symbols => isAccepted = true ∧ ∃ compared fresh, listing = some fresh ∧
      Compared setup options test fixture true 0 before compared ∧
        SymbolsDiffer setup test fixture fresh compared moment

theorem driven_updated_iff (before after : Scene φ) (update : Update) :
    Driven setup options test before (.updated update) after ↔
      options.update = true ∧ ∃ fixture isAccepted listing moment,
        ComesToUpdate setup options test fixture isAccepted listing before moment update ∧
          Rewritten test fixture isAccepted listing moment after := by
  constructor
  next =>
    rintro ⟨fixture, isAccepted, ready, loaded, prepared, compared⟩
    cases compared with
    | accepted verdict same symbols =>
      obtain rfl := verdict
      cases symbols with
      | updated present listed different asked rewritten =>
        exact ⟨asked, fixture, true, some _, _, ⟨rfl, _, _, rfl, ⟨loaded, ready, prepared, same⟩,
          _, present, listed, different⟩, rewritten⟩
    | updated different asked rewritten =>
      exact ⟨asked, fixture, isAccepted, none, _, ⟨rfl, loaded, ready, prepared, different⟩,
        rewritten⟩
  next =>
    rintro ⟨asked, fixture, isAccepted, listing, moment, came, rewritten⟩
    cases update with
    | artifact =>
      obtain ⟨rfl, loaded, ready, prepared, different⟩ := came
      exact ⟨fixture, isAccepted, ready, loaded, prepared, .updated different asked rewritten⟩
    | symbols =>
      obtain ⟨rfl, compared, fresh, rfl, ⟨loaded, ready, prepared, same⟩, _, present, listed,
        different⟩ := came
      exact ⟨fixture, true, ready, loaded, prepared,
        .accepted rfl same (.updated present listed different asked rewritten)⟩

theorem execute_eq (world : World φ) :
    Action.execute setup options test world =
      let run := attempt (drive setup options test) world
      (run.1, (Action.conclude options test run.1 run.2).2) := rfl

theorem execute_of_driven {world after : World φ} {pass : Pass}
    (driven : attempt (drive setup options test) world = (.ok pass, after)) :
    Action.execute setup options test world =
      (.ok pass, (Action.conclude options test (.ok pass) after).2) := by
  simp only [execute_eq, driven]

theorem exists_ended_of_execute {world left : World φ} {outcome : Outcome}
    (executed : Action.execute setup options test world = (outcome, left)) :
    ∃ ended, attempt (drive setup options test) world = (outcome, ended) ∧
      left = (Action.conclude options test outcome ended).2 := by
  rw [execute_eq] at executed
  obtain ⟨rfl, rfl⟩ := Prod.mk.inj executed
  exact ⟨_, rfl, rfl⟩

theorem execute_eq_ok_iff (world : World φ) (pass : Pass) :
    (Action.execute setup options test world).1 = .ok pass ↔
      ∃ after, Driven setup options test world.scene pass after :=
  (Meets.drive setup options test).outcome_eq_ok_iff world pass

-- A test that is not asked to update its fixture reports no update.
theorem execute_ne_updated {options : RunOptions} (plain : options.update = false)
    (world : World φ) (update : Update) :
    (Action.execute setup options test world).1 ≠ .ok (.updated update) := by
  intro updated
  obtain ⟨after, driven⟩ := (execute_eq_ok_iff setup options test world _).1 updated
  obtain ⟨asked, -⟩ := (driven_updated_iff setup options test _ _ _).1 driven
  rw [plain] at asked
  cases asked

end GoldenSuite.Trial
