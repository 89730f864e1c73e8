import GoldenSuite.Proofs.Suite.Reporting

set_option autoImplicit false

namespace GoldenSuite

variable {φ : Type}

/-- The errors that are not due to what was done to the files: wrong arguments, a selection that
cannot be run, and a pattern that is none. -/
inductive CommandError.Early (pattern : String) : CommandError → Prop
  | usage (error : UsageError) : Early pattern (.usage error)
  | noTests : Early pattern .noTests
  | collision (collisions : List Selection.Collision) : Early pattern (.collision collisions)
  | pattern {flaw : GlobError} (invalid : Glob.parse pattern = .error flaw) (error : FileError) :
      Early pattern (.files error)

section Checks

variable {ε δ α β : Type}

theorem Except.exists_of_bind {first : Except ε α} {next : α → Except ε β} {answer : β}
    (came : first >>= next = .ok answer) :
    ∃ between, first = .ok between ∧ next between = .ok answer := by
  cases first with
  | error error => cases came
  | ok between => exact ⟨between, rfl, came⟩

theorem Except.of_mapError {checked : Except ε α} {rename : ε → δ} {answer : α}
    (came : checked.mapError rename = .ok answer) : checked = .ok answer := by
  cases checked with
  | error error => cases came
  | ok found => exact congrArg Except.ok (Except.ok.inj came)

end Checks

theorem CommandLine.exists_choice_of_validate {line : CommandLine}
    (valid : line.validate = .ok ()) : ∃ choice, line.choice = .ok choice := by
  unfold validate at valid
  split at valid
  next => cases valid
  next =>
    split at valid
    next => cases valid
    next =>
      obtain ⟨choice, chosen, -⟩ := Except.exists_of_bind valid
      exact ⟨choice, chosen⟩

theorem Config.exists_volatile_of_validate {config : Config} (valid : config.validate = .ok ()) :
    ∃ volatile, config.volatileFilter = .ok volatile := by
  unfold validate at valid
  split at valid
  next => cases valid
  next =>
    split at valid
    next => cases valid
    next =>
      obtain ⟨volatile, read, -⟩ := Except.exists_of_bind valid
      exact ⟨volatile, read⟩

namespace Command

variable [FileSystem φ]

theorem config_spec {line : CommandLine} {files : φ} {config : Config}
    (accepted : Command.config line files = .ok config) :
    line.validate = .ok () ∧ config.validate = .ok () := by
  obtain ⟨⟨⟩, valid, accepted⟩ := Except.exists_of_bind accepted
  obtain ⟨base, -, accepted⟩ := Except.exists_of_bind accepted
  obtain ⟨⟨⟩, checked, accepted⟩ := Except.exists_of_bind accepted
  obtain rfl := Except.ok.inj accepted
  exact ⟨Except.of_mapError valid, Except.of_mapError checked⟩

variable {setup : Setup φ} {line : CommandLine} {time : Int} {world left : World φ}

-- A selection that is refused is so for one of these reasons.
theorem select_refused {filters : List String} {error : CommandError}
    (refused : attempt (select setup.config line.root filters) world = (.error error, left)) :
    error = .noTests ∨ (∃ cause, error = .files cause) ∨
      ∃ collisions, error = .collision collisions := by
  rw [attempt_select] at refused
  split at refused
  next cause _ =>
    obtain ⟨same, -⟩ := Prod.mk.inj refused
    exact .inr (.inl ⟨cause, (Except.error.inj same).symm⟩)
  next =>
    dsimp only at refused
    split at refused
    next =>
      obtain ⟨same, -⟩ := Prod.mk.inj refused
      exact .inl (Except.error.inj same).symm
    next =>
      split at refused
      next =>
        obtain ⟨same, -⟩ := Prod.mk.inj refused
        cases same
      next =>
        obtain ⟨same, -⟩ := Prod.mk.inj refused
        exact .inr (.inr ⟨_, (Except.error.inj same).symm⟩)

-- The arguments and the configuration are not to blame any more once a command is carried out.
theorem execute_not_blamed {choice : Choice} (chosen : line.choice = .ok choice)
    {error : CommandError}
    (failed : attempt (execute setup line time) world = (.error error, left)) :
    (∀ misuse, error ≠ .usage misuse) ∧ ∀ flaw, error ≠ .config flaw := by
  have ways := execute_cases failed
  generalize answer : Except.error error = outcome at ways
  cases ways with
  | misused unchosen =>
    rw [chosen] at unchosen
    cases unchosen
  | unselected _ refused =>
    obtain rfl := Except.error.inj answer
    rcases select_refused refused with rfl | ⟨cause, rfl⟩ | ⟨collisions, rfl⟩
    all_goals exact ⟨by simp, by simp⟩
  | @cleaned choice fixtures noted left removed _ selected mode clean =>
    cases removed with
    | ok count => cases answer
    | error cause =>
      obtain rfl := Except.error.inj answer
      exact ⟨by simp, by simp⟩
  | @reported choice fixtures noted ran report filed files _ selected mode run document =>
    cases filed with
    | ok _ => cases answer
    | error cause =>
      obtain rfl := Except.error.inj answer
      exact ⟨by simp, by simp⟩

-- Nothing is selected by a pattern that is none.
theorem parse_of_selected {filters : List String} {fixtures : List Path} {noted : World φ}
    (selected : attempt (select setup.config line.root filters) world = (.ok fixtures, noted)) :
    ∃ glob, Glob.parse setup.config.fixturePattern = .ok glob := by
  obtain ⟨all, found, -⟩ := (select_spec selected).2 fixtures rfl
  unfold Selection.discover at found
  cases parsed : Glob.parse setup.config.fixturePattern with
  | error flaw =>
    rw [parsed] at found
    cases found
  | ok glob => exact ⟨glob, rfl⟩

-- An early error leaves everything as it was, and nothing has been shown.
theorem execute_early {error : CommandError}
    (failed : attempt (execute setup line time) world = (.error error, left))
    (early : error.Early setup.config.fixturePattern) :
    left.scene = world.scene ∧ left.shown = world.shown := by
  have ways := execute_cases failed
  -- After a selection only files can be to blame, and then the pattern was one.
  have late {filters : List String} {fixtures : List Path} {noted : World φ} {cause : FileError}
      (selected : attempt (select setup.config line.root filters) world = (.ok fixtures, noted))
      (blamed : error = .files cause) : False := by
    obtain ⟨glob, parsed⟩ := parse_of_selected selected
    subst blamed
    cases early with
    | pattern invalid =>
      rw [parsed] at invalid
      cases invalid
  generalize answer : Except.error error = outcome at ways
  cases ways with
  | misused unchosen => exact ⟨rfl, rfl⟩
  | unselected chosen refused =>
    exact ⟨(select_spec refused).1, shown_select refused⟩
  | @cleaned choice fixtures noted left removed _ selected mode clean =>
    cases removed with
    | ok count => cases answer
    | error cause => exact (late selected (Except.error.inj answer)).elim
  | @reported choice fixtures noted ran report filed files _ selected mode run document =>
    cases filed with
    | ok _ => cases answer
    | error cause => exact (late selected (Except.error.inj answer)).elim

/-- With a configuration that is accepted the tools can be set up and the fixtures chosen, and
neither the arguments nor the configuration are to blame for what follows. Whatever else is wrong
with the arguments, the pattern or the selection is found before any tool is called, any file is
changed and anything is shown. -/
theorem refusals_come_first (line : CommandLine) (tools : Tools φ) :
    (∀ (files : φ) config, Command.config line files = .ok config →
      ∃ volatile choice, Setup.of config tools = .ok ⟨config, volatile, tools⟩ ∧
        line.choice = .ok choice ∧
        ∀ time world error left,
          attempt (execute ⟨config, volatile, tools⟩ line time) world = (.error error, left) →
            (∀ misuse, error ≠ .usage misuse) ∧ ∀ flaw, error ≠ .config flaw) ∧
    ∀ (setup : Setup φ) time world error left,
      attempt (execute setup line time) world = (.error error, left) →
        error.Early setup.config.fixturePattern →
          left.files = world.files ∧ left.calls = world.calls ∧ left.shown = world.shown := by
  constructor
  next =>
    intro files config accepted
    obtain ⟨valid, checked⟩ := config_spec accepted
    obtain ⟨choice, chosen⟩ := CommandLine.exists_choice_of_validate valid
    obtain ⟨volatile, read⟩ := Config.exists_volatile_of_validate checked
    have setUp : Setup.of config tools = .ok ⟨config, volatile, tools⟩ := by
      rw [Setup.of, read]
      rfl
    exact ⟨volatile, choice, setUp, chosen,
      fun time world error left failed => execute_not_blamed chosen failed⟩
  next =>
    intro setup time world error left failed early
    obtain ⟨scene, shown⟩ := execute_early failed early
    exact ⟨congrArg Scene.files scene, congrArg Scene.calls scene, shown⟩

section Samples

def vainLine : CommandLine := { root := ⟨""⟩, words := ["nothing"] }

theorem config_vainLine : Command.config vainLine mixedWorld.files = .ok {} := by
  have valid : vainLine.validate = .ok () := rfl
  have based : baseConfig vainLine mixedWorld.files = .ok {} := rfl
  have overridden : vainLine.override {} = {} := rfl
  have checked : Config.validate {} = .ok () := validate_eq_ok (by decide +kernel)
  unfold Command.config
  rw [valid, based]
  simp only [Except.mapError, bind, Except.bind, overridden, checked]
  rfl

-- A filter that picks nothing is refused, though the configuration is accepted.
theorem refusals_come_first_vain :
    let tools := Suite.idleTools Store
    ∃ volatile left, Setup.of {} tools = .ok ⟨{}, volatile, tools⟩ ∧
      attempt (execute ⟨{}, volatile, tools⟩ vainLine 0) mixedWorld = (.error .noTests, left) ∧
      left.files = mixedWorld.files ∧ left.calls = [] ∧ left.shown = [] := by
  intro tools
  obtain ⟨accepts, early⟩ := refusals_come_first vainLine tools
  obtain ⟨volatile, choice, setUp, chosen, -⟩ := accepts _ _ config_vainLine
  have found : Selection.discover mixedWorld.files vainLine.root "*.test" = .ok mixedFixtures :=
    discover_mixedWorld
  have words : vainLine.choice = .ok ⟨none, ["nothing"]⟩ := by rfl
  have nothing : Selection.select mixedFixtures ["nothing"] = [] := by decide +kernel
  have refused : attempt (select {} vainLine.root ["nothing"]) mixedWorld =
      (.error .noTests, mixedWorld) := by
    rw [attempt_select, found]
    dsimp only
    rw [nothing]
    rfl
  have failed : attempt (execute ⟨{}, volatile, tools⟩ vainLine 0) mixedWorld =
      (.error .noTests, mixedWorld) := by
    refine attempt_execute_of_refused words ?_ 0
    exact refused
  obtain ⟨files, calls, shown⟩ := early _ _ _ _ _ failed .noTests
  exact ⟨volatile, _, setUp, failed, files, calls, shown⟩

end Samples

end Command

end GoldenSuite
