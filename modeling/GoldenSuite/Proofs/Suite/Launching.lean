import GoldenSuite.Proofs.Suite.Refusals
import GoldenSuite.Proofs.Trial.Order

set_option autoImplicit false

namespace GoldenSuite

def Invocation.Nameless (call : Invocation) : Prop := Text.allBlank call.program = true

structure Config.Named (config : Config) : Prop where
  compiler : Text.allBlank config.compiler = false
  diff : Text.allBlank config.diff = false
  assembler : Text.allBlank config.assembler = false
  disassembler : Text.allBlank config.disassembler = false
  symbolDump : Text.allBlank config.symbolDump = false

theorem Config.named_of_validate {config : Config} (valid : config.validate = .ok ()) :
    config.Named := by
  unfold validate at valid
  split at valid
  next => cases valid
  next allNamed =>
    obtain ⟨compiler, diff, assembler, disassembler, symbolDump, -⟩ := by
      simpa [namedTools] using List.find?_eq_none.1 allNamed
    exact ⟨compiler, diff, assembler, disassembler, symbolDump⟩

theorem Setup.exists_of_validate {φ : Type} {config : Config} (valid : config.validate = .ok ())
    (tools : Tools φ) : ∃ volatile, Setup.of config tools = .ok ⟨config, volatile, tools⟩ := by
  obtain ⟨volatile, read⟩ := Config.exists_volatile_of_validate valid
  rw [Setup.of, read]
  exact ⟨volatile, rfl⟩

-- The hyphen in front of a version is no blank.
theorem VersionPair.toolName_named {base : String} (named : Text.allBlank base = false)
    (version : String) : Text.allBlank (toolName base version) = false := by
  unfold toolName
  split
  next => exact named
  next =>
    have hyphen : Text.isBlank '-' = false := by decide
    simp [Text.allBlank, hyphen]

namespace Trial

variable {φ : Type} [FileSystem φ] {setup : Setup φ} {options : RunOptions} {test : TestCase}
  {fixture : Fixture}

-- Whatever can be called after the formatter is named.
theorem Site.named_of_validate {config : Config} (valid : config.validate = .ok ()) {site : Site}
    (after : site.later < 8) (test : TestCase) (directives : Directives) :
    ¬ (site.invocation config test directives).Nameless := by
  have named : config.Named := Config.named_of_validate valid
  rw [Invocation.Nameless, Bool.not_eq_true]
  cases site with
  | formatter program => exact absurd after (Nat.lt_irrefl 8)
  | formatDiff => exact named.diff
  | compiler => exact named.compiler
  | assembler versions isArtifact =>
    exact VersionPair.toolName_named named.assembler versions.source
  | disassembler versions isArtifact =>
    exact VersionPair.toolName_named named.disassembler versions.target
  | diff isAccepted => exact named.diff
  | symbols expected => exact named.symbolDump

theorem nameless_firstSite_iff {config : Config} (valid : config.validate = .ok ()) :
    ((firstSite config fixture).invocation config test
      (Directives.ofSource fixture.source)).Nameless ↔
        ∃ program, formatter? config (Directives.ofSource fixture.source) = some program ∧
          Text.allBlank program = true := by
  unfold firstSite
  split
  next off =>
    have compiles : ¬ (Site.compiler.invocation config test
        (Directives.ofSource fixture.source)).Nameless :=
      Site.named_of_validate valid (by decide) test _
    simp [off, compiles]
  next program checks =>
    rw [checks]
    simp [Site.invocation, Invocation.Nameless]

variable (setup options test fixture) in
theorem transcriptFrom_cons (site : Site) (world : World φ) :
    ∃ later, transcriptFrom setup options test fixture site world =
      exchange setup test fixture site world.scene :: later := by
  rw [transcriptFrom]
  exact ⟨_, rfl⟩

-- No call comes before the formatter's, and all calls after it are named.
theorem walk_named (valid : setup.config.validate = .ok ()) (site : Site) (world : World φ) :
    ∀ call ∈ (transcriptFrom setup options test fixture site world).tail,
      ¬ call.invocation.Nameless := by
  have invoked : ∀ call ∈ transcriptFrom setup options test fixture site world, _ :=
    walk_invocations site world
  have descends : (transcriptFrom setup options test fixture site world).Pairwise _ :=
    (walk_descends site world).1
  obtain ⟨later, made⟩ := transcriptFrom_cons setup options test fixture site world
  rw [made] at invoked descends ⊢
  intro call among
  have below : call.site.later < site.later := (List.pairwise_cons.1 descends).1 call among
  have most : site.later ≤ 8 := by cases site <;> simp [Site.later] <;> split <;> decide
  rw [invoked call (List.mem_cons_of_mem _ among)]
  exact Site.named_of_validate valid (Nat.lt_of_lt_of_le below most) test _

theorem walk_nameless_iff (valid : setup.config.validate = .ok ()) (site : Site)
    (world : World φ) :
    (∃ call ∈ transcriptFrom setup options test fixture site world, call.invocation.Nameless) ↔
      (site.invocation setup.config test (Directives.ofSource fixture.source)).Nameless := by
  have others : ∀ call ∈ (transcriptFrom setup options test fixture site world).tail, _ :=
    walk_named valid site world
  obtain ⟨later, made⟩ := transcriptFrom_cons setup options test fixture site world
  rw [made] at others ⊢
  constructor
  next =>
    rintro ⟨call, among, nameless⟩
    rcases List.mem_cons.1 among with rfl | after
    next => exact nameless
    next => exact absurd nameless (others call after)
  next => exact fun nameless => ⟨_, List.mem_cons_self, nameless⟩

theorem start_of_load {world : World φ}
    (loaded : Fixture.load world.files test.fixture = .ok fixture) :
    (attempt (start setup test) world).1 =
      match (test.materialize fixture world.files).1 with
      | .ok () => .ok (fixture, firstSite setup.config fixture)
      | .error error => .error (.io error) := by
  rw [start, attempt_bind, attempt_load, loaded]
  dsimp only
  rw [attempt_bind, attempt_onFiles]
  rcases test.materialize fixture world.files with ⟨error | ⟨⟩, files⟩
  next => rfl
  next =>
    unfold firstSite
    cases formatter? setup.config (Directives.ofSource fixture.source) <;> rfl

/-- A nameless formatter that is to check the format of a fixture, which is there and can be written
out. -/
def ChecksNamelessly (config : Config) (test : TestCase) (files : φ) : Prop :=
  ∃ fixture program, Fixture.load files test.fixture = .ok fixture ∧
    (test.materialize fixture files).1 = .ok () ∧
    formatter? config (Directives.ofSource fixture.source) = some program ∧
    Text.allBlank program = true

theorem transcript_nameless_iff (valid : setup.config.validate = .ok ()) (world : World φ) :
    (∃ call ∈ transcript setup options test world, call.invocation.Nameless) ↔
      ChecksNamelessly setup.config test world.files := by
  unfold transcript ChecksNamelessly
  cases loaded : Fixture.load world.files test.fixture with
  | error error => simp [start_of_error loaded]
  | ok fixture =>
    have begun : (attempt (start setup test) world).1 = _ := start_of_load loaded
    rcases started : attempt (start setup test) world with ⟨failure | ⟨found, site⟩, left⟩
    next =>
      cases wrote : (test.materialize fixture world.files).1 with
      | error error => simp [wrote]
      | ok written =>
        rw [started, wrote] at begun
        cases begun
    next =>
      cases wrote : (test.materialize fixture world.files).1 with
      | error error =>
        rw [started, wrote] at begun
        cases begun
      | ok written =>
        rw [started, wrote] at begun
        cases begun
        simp [walk_nameless_iff valid, nameless_firstSite_iff valid, wrote]

theorem transcript_named (valid : setup.config.validate = .ok ()) (world : World φ) :
    ∀ call ∈ (transcript setup options test world).tail, ¬ call.invocation.Nameless := by
  unfold transcript
  split
  next => exact walk_named valid _ _
  next => simp

end Trial

namespace Command

open Trial (ChecksNamelessly)

variable {φ : Type} [FileSystem φ] {line : CommandLine} {files : φ} {config : Config}

theorem exists_base_of_config (accepted : Command.config line files = .ok config) :
    ∃ base, baseConfig line files = .ok base ∧ config = line.override base := by
  obtain ⟨⟨⟩, -, accepted⟩ := Except.exists_of_bind accepted
  obtain ⟨base, based, accepted⟩ := Except.exists_of_bind accepted
  obtain ⟨⟨⟩, -, accepted⟩ := Except.exists_of_bind accepted
  exact ⟨base, Except.of_mapError based, (Except.ok.inj accepted).symm⟩

-- An empty formatter on the command line turns the check off, whatever is configured.
theorem formatter_cases (accepted : Command.config line files = .ok config) {program : String}
    (given : config.formatter = some program) :
    line.formatter = some program ∧ program ≠ "" ∨
      line.formatter = none ∧
        ∃ base, baseConfig line files = .ok base ∧ base.formatter = some program := by
  obtain ⟨base, based, rfl⟩ := exists_base_of_config accepted
  simp only [CommandLine.override] at given
  cases named : line.formatter with
  | none =>
    rw [named] at given
    exact .inr ⟨rfl, base, based, given⟩
  | some formatter =>
    rw [named] at given
    by_cases empty : formatter = ""
    next => simp [empty] at given
    next =>
      obtain rfl : formatter = program := by simpa [empty] using given
      exact .inl ⟨rfl, empty⟩

/-- With a configuration that is accepted the tools can be set up, and of the calls of a test none
but the first one can be nameless. That one is exactly if a nameless formatter is to check the
format, which was given by the command line or by the configuration under it. -/
theorem launches_nameless_iff (accepted : Command.config line files = .ok config)
    (tools : Tools φ) :
    (∃ volatile, Setup.of config tools = .ok ⟨config, volatile, tools⟩ ∧
      ∀ options test (world : World φ), ∃ calls,
        (Trial.attempt (Trial.drive ⟨config, volatile, tools⟩ options test) world).2.calls =
          world.calls ++ calls ∧
        (∀ call ∈ calls.tail, ¬ call.Nameless) ∧
        ((∃ call ∈ calls, call.Nameless) ↔ ChecksNamelessly config test world.files)) ∧
    ∀ program, config.formatter = some program →
      line.formatter = some program ∧ program ≠ "" ∨
        line.formatter = none ∧
          ∃ base, baseConfig line files = .ok base ∧ base.formatter = some program := by
  obtain ⟨-, checked⟩ := config_spec accepted
  obtain ⟨volatile, setUp⟩ := Setup.exists_of_validate checked tools
  refine ⟨⟨volatile, setUp, fun options test world => ?_⟩,
    fun program given => formatter_cases accepted given⟩
  let setup : Setup φ := ⟨config, volatile, tools⟩
  have valid : setup.config.validate = .ok () := checked
  refine ⟨(Trial.transcript setup options test world).map Trial.Exchange.invocation,
    Trial.calls_drive world, ?_, ?_⟩
  next =>
    rw [← List.map_tail, List.forall_mem_map]
    exact Trial.transcript_named valid world
  next =>
    have told : (∃ call ∈ Trial.transcript setup options test world, call.invocation.Nameless) ↔
        ChecksNamelessly config test world.files := Trial.transcript_nameless_iff valid world
    rw [← told]
    simp only [List.mem_map, exists_exists_and_eq_and]

section Samples

open Trial (staleWorld sampleTest load_staleWorld)

theorem config_of_valid {base : Config} (valid : line.validate = .ok ())
    (based : baseConfig line files = .ok base) (checked : (line.override base).validate = .ok ()) :
    Command.config line files = .ok (line.override base) := by
  unfold Command.config
  rw [valid, based]
  simp only [Except.mapError, bind, Except.bind, checked]
  rfl

theorem launches_nameless_iff_default :
    Command.config vainLine mixedWorld.files = .ok {} ∧
      ∃ volatile, Setup.of {} (Suite.idleTools Store) = .ok ⟨{}, volatile, Suite.idleTools Store⟩ ∧
        ∃ calls, (Trial.attempt (Trial.drive ⟨{}, volatile, Suite.idleTools Store⟩ {} sampleTest)
            staleWorld).2.calls = staleWorld.calls ++ calls ∧
          ∀ call ∈ calls, ¬ call.Nameless := by
  obtain ⟨⟨volatile, setUp, launches⟩, -⟩ :=
    launches_nameless_iff config_vainLine (Suite.idleTools Store)
  obtain ⟨calls, made, -, nameless⟩ := launches {} sampleTest staleWorld
  have named : ¬ ChecksNamelessly {} sampleTest staleWorld.files := by
    rintro ⟨fixture, program, -, -, checks, blank⟩
    unfold Trial.formatter? at checks
    split at checks
    next => cases checks
    next =>
      obtain rfl := Option.some.inj checks
      revert blank
      decide
  exact ⟨config_vainLine, volatile, setUp, calls, made, fun call among nameless' =>
    named (nameless.1 ⟨call, among, nameless'⟩)⟩

def blankLine : CommandLine := { formatter := some " " }

def blankConfig : Config := blankLine.override {}

-- A formatter of one blank is accepted and launched.
theorem blankLine_launches_nameless :
    Command.config blankLine staleWorld.files = .ok blankConfig ∧
      ∃ volatile, Setup.of blankConfig (Suite.idleTools Store) =
          .ok ⟨blankConfig, volatile, Suite.idleTools Store⟩ ∧
        (Trial.attempt (Trial.drive ⟨blankConfig, volatile, Suite.idleTools Store⟩ {} sampleTest)
          staleWorld).2.calls = [⟨" ", ["a.syp"]⟩] ∧
        (Invocation.mk " " ["a.syp"]).Nameless := by
  have based : baseConfig blankLine staleWorld.files = .ok {} := rfl
  have checked : blankConfig.validate = .ok () := validate_eq_ok (by decide +kernel)
  have accepted : Command.config blankLine staleWorld.files = .ok blankConfig :=
    config_of_valid rfl based checked
  obtain ⟨volatile, setUp⟩ := Setup.exists_of_validate checked (Suite.idleTools Store)
  exact ⟨accepted, volatile, setUp, rfl, rfl⟩

end Samples

end Command

end GoldenSuite
