import Mathlib.Data.List.Basic
import GoldenSuite.Proofs.Suite.Executing
import GoldenSuite.Proofs.Suite.Keeping

set_option autoImplicit false

namespace GoldenSuite

namespace Command

section Reports

variable {φ : Type} [FileSystem φ]

def report? (setup : Setup φ) (line : CommandLine) (world : World φ) : Option Report :=
  match line.choice with
  | .error _ => none
  | .ok choice =>
      match attempt (select setup.config line.root choice.filters) world with
      | (.error _, _) => none
      | (.ok fixtures, noted) =>
          if line.mode = .clean then none
          else some (reportOf setup line choice fixtures noted).1

theorem execute_spec {setup : Setup φ} {line : CommandLine} (undocumented : line.report = none)
    (time : Int) (world : World φ) :
    let left := (attempt (execute setup line time) world)
    (left.2.scene = world.scene ∧ report? setup line world = none) ∨
      ∃ choice fixtures noted, line.choice = .ok choice ∧
        attempt (select setup.config line.root choice.filters) world = (.ok fixtures, noted) ∧
        ((line.mode = .clean ∧ report? setup line world = none ∧
            left.2.files = (Suite.clean setup.config line.root fixtures noted).2.files) ∨
          (line.mode ≠ .clean ∧
            let reported := reportOf setup line choice fixtures noted
            report? setup line world = some reported.1 ∧
              left = (.ok reported.1.succeeded, reported.2))) := by
  intro left
  unfold report?
  cases chosen : line.choice with
  | error error =>
    have given : left = _ := attempt_execute_of_misused chosen time
    exact .inl ⟨by rw [given], rfl⟩
  | ok choice =>
    rcases selected : attempt (select setup.config line.root choice.filters) world with
      ⟨error | fixtures, noted⟩
    next =>
      have given : left = _ := attempt_execute_of_refused chosen selected time
      exact .inl ⟨by rw [given]; exact (select_spec selected).1, by simp only [selected]⟩
    next =>
      have run : left = _ := attempt_execute_of_selected chosen selected time
      refine .inr ⟨choice, fixtures, noted, rfl, selected, ?_⟩
      by_cases clean : line.mode = .clean
      next =>
        rw [if_pos clean] at run
        exact .inl ⟨clean, by simp only [selected, if_pos clean], by rw [run]⟩
      next =>
        rw [if_neg clean] at run
        dsimp only at run
        rw [writeReport, undocumented] at run
        exact .inr ⟨clean, by simp only [selected, if_neg clean], run⟩

end Reports

end Command

namespace Session

structure Request where
  config : Config
  volatile : VolatileFilter
  line : CommandLine
  time : Int

structure Request.Plain (request : Request) : Prop where
  endings : request.config.endings = {}
  pattern : request.config.fixturePattern = "*.test"
  undocumented : request.line.report = none

structure Step where
  request : Request
  before : World Store
  report : Option Report
  after : World Store

def Request.perform (request : Request) (tools : Tools Store) (world : World Store) : Step :=
  let setup : Setup Store := ⟨request.config, request.volatile, tools⟩
  { request := request
    before := world
    report := Command.report? setup request.line world
    after := (Command.attempt (Command.execute setup request.line request.time) world).2 }

/-- The steps of a session. A command that is given up does not end it. -/
def steps (tools : Tools Store) : List Request → World Store → List Step
  | [], _ => []
  | request :: requests, world =>
      let step := request.perform tools world
      step :: steps tools requests step.after

/-- The session asks its tools in these situations only: other tools that answer alike in them make
the same session. -/
def AsksOnly (tools : Tools Store) (asked : Situations) (requests : List Request)
    (world : World Store) : Prop :=
  ∀ other : Tools Store,
    (∀ history invocation files, asked history invocation files →
      other history invocation files = tools history invocation files) →
    steps other requests world = steps tools requests world

theorem asksOnly_all (tools : Tools Store) (requests : List Request) (world : World Store) :
    AsksOnly tools (fun _ _ _ => True) requests world := by
  intro other same
  have same : other = tools := by
    funext history invocation files
    exact same history invocation files trivial
  rw [same]

open Classical in
noncomputable def guarded (tools : Tools Store) (asked : Situations) : Tools Store :=
  fun history invocation files =>
    if asked history invocation files then tools history invocation files
    else Suite.idleTools Store history invocation files

theorem guarded_harmless {tools : Tools Store} {asked : Situations}
    (harmless : Harmless tools asked) : Harmless (guarded tools asked) fun _ _ _ => True where
  spares {history invocation files} _ path named := by
    unfold guarded
    split
    next call => exact harmless.spares call path named
    next => rfl
  clear {history invocation files} _ clear := by
    unfold guarded
    split
    next call => exact harmless.clear call clear
    next => exact clear
  answers {history invocation files} _ output answer := by
    unfold guarded at answer
    split at answer
    next call => exact harmless.answers call answer
    next => cases answer

def Step.results (step : Step) : List TestResult := (step.report.map Report.results).getD []

section Safe

variable {tools : Tools Store} {request : Request} {requests : List Request} {world : World Store}

theorem reportOf_keeping {setup : Setup Store} {line : CommandLine} {choice : Choice}
    {fixtures : List Path} (harmless : Harmless setup.tools fun _ _ _ => True)
    (endings : setup.config.endings = {})
    (named : ∀ fixture ∈ fixtures, (line.root.join fixture).IsFixture)
    (clear : world.files.Clear) :
    let reported := Command.reportOf setup line choice fixtures world
    Suite.Keeping line.root reported.1.results world.files reported.2.files := by
  unfold Command.reportOf
  split
  next => exact Suite.dump_keeping endings named clear
  next => exact Suite.run_keeping harmless endings named _ clear

theorem perform_keeping (harmless : Harmless tools fun _ _ _ => True) (plain : request.Plain)
    (clear : world.files.Clear) :
    let step := request.perform tools world
    Suite.Keeping request.line.root step.results world.files step.after.files := by
  intro step
  have parsed : Glob.parse request.config.fixturePattern = .ok (.ending ".test") :=
    plain.pattern ▸ parse_defaultPattern
  rcases Command.execute_spec plain.undocumented request.time world with
    ⟨unchanged, none⟩ | ⟨choice, fixtures, noted, -, selected, done⟩
  next =>
    have files : step.after.files = world.files := congrArg Scene.files unchanged
    have clear' : step.after.files.Clear := files ▸ clear
    exact .of_find?_eq _ _ clear' fun path _ => by rw [files]
  next =>
    obtain ⟨unchanged, chosen⟩ := Command.select_spec selected
    obtain ⟨all, found, rfl, -⟩ := chosen fixtures rfl
    have files : noted.files = world.files := congrArg Scene.files unchanged
    have named (fixture : Path) (taken : fixture ∈ Selection.select all choice.filters) :
        (request.line.root.join fixture).IsFixture :=
      Selection.nameMatches_of_discover parsed found (Selection.select_subset all _ taken)
    rcases done with ⟨-, unreported, left⟩ | ⟨-, reported, left⟩
    next =>
      have report : step.report = none := unreported
      have cleaned : step.after.files = _ := left
      rw [Step.results, report, cleaned, ← files]
      exact Suite.clean_keeping plain.endings named (files ▸ clear)
    next =>
      have report : step.report = some _ := reported
      have after : step.after = _ := congrArg Prod.snd left
      rw [Step.results, report, after, ← files]
      exact reportOf_keeping harmless plain.endings named (files ▸ clear)

theorem steps_keeping (harmless : Harmless tools fun _ _ _ => True)
    (plain : ∀ request ∈ requests, request.Plain) (clear : world.files.Clear) :
    ∀ step ∈ steps tools requests world,
      Suite.Keeping step.request.line.root step.results step.before.files step.after.files ∧
        ∀ path : Path, path.IsFixture → Fixture.Preserved world.files step.after.files path := by
  induction requests generalizing world with
  | nil => exact fun step among => absurd among List.not_mem_nil
  | cons request rest ih =>
    obtain ⟨first, others⟩ := List.forall_mem_cons.1 plain
    have kept := perform_keeping harmless first clear
    intro step among
    rcases List.mem_cons.1 among with rfl | later
    next => exact ⟨kept, kept.preserved⟩
    next =>
      obtain ⟨keeping, preserved⟩ := ih others kept.clear step later
      exact ⟨keeping, fun path isFixture =>
        (kept.preserved path isFixture).trans (preserved path isFixture)⟩

theorem exists_report_of_lists {step : Step} {root path : Path}
    (lists : Suite.Lists root step.results path) :
    ∃ report ∈ step.report, Suite.Lists root report.results path := by
  unfold Step.results at lists
  cases reported : step.report with
  | none =>
    obtain ⟨result, among, -⟩ := lists
    simp [reported] at among
  | some report =>
    rw [reported] at lists
    exact ⟨report, rfl, lists⟩

/-- Whatever commands are given, and in whatever order, a fixture that is there stays there. One
that could not be loaded stays as it is; one that could still can, with the same source. And a
command changes a fixture only where it reports an update of it. -/
theorem steps_keep_fixtures {asked : Situations} (plain : ∀ request ∈ requests, request.Plain)
    (asks : AsksOnly tools asked requests world) (harmless : Harmless tools asked)
    (clear : world.files.Clear) {path : Path} (isFixture : path.IsFixture) :
    ∀ step ∈ steps tools requests world,
      Fixture.Preserved world.files step.after.files path ∧
        (step.after.files.find? path ≠ step.before.files.find? path →
          ∃ report ∈ step.report, Suite.Lists step.request.line.root report.results path) := by
  -- Nothing is asked outside these situations, so the tools may as well be harmless everywhere.
  have same : steps (guarded tools asked) requests world = steps tools requests world :=
    asks _ fun history invocation files call => if_pos call
  intro step among
  obtain ⟨keeping, preserved⟩ :=
    steps_keeping (guarded_harmless harmless) plain clear step (same ▸ among)
  exact ⟨preserved path isFixture,
    fun changed => exists_report_of_lists (keeping.listed path isFixture changed)⟩

end Safe

section Samples

open Trial

def sampleRequest (line : CommandLine) : Request :=
  ⟨differingSetup.config, differingSetup.volatile, line, 0⟩

-- All modes, one after the other.
def sampleRequests : List Request :=
  [sampleRequest { root := ⟨""⟩, update := true }, sampleRequest { root := ⟨""⟩, keep := true },
    sampleRequest { root := ⟨""⟩, dump := true }, sampleRequest { root := ⟨""⟩, clean := true }]

theorem sampleRequests_plain : ∀ request ∈ sampleRequests, request.Plain := by
  simp only [sampleRequests, List.forall_mem_cons]
  exact ⟨⟨rfl, rfl, rfl⟩, ⟨rfl, rfl, rfl⟩, ⟨rfl, rfl, rfl⟩, ⟨rfl, rfl, rfl⟩, by simp⟩

theorem sampleFixture_isFixture : sampleTest.fixture.IsFixture := by
  have named : sampleTest.fixture.nameMatches (.ending ".test") = true := by decide +kernel
  exact named

theorem differingSetup_harmless : Harmless differingSetup.tools fun _ _ _ => True where
  spares {history invocation files} _ path isFixture := by
    simp only [differingSetup]
    split
    next =>
      have apart : path.components ∉ sampleTest.generated.map Path.components :=
        TestCase.notMem_generated_of defaultPattern_skips sampleFixture_isFixture isFixture
      have elsewhere : path.components ≠ sampleTest.artifact.components := fun same =>
        apart (same ▸ List.mem_map_of_mem (by simp [TestCase.generated]))
      rw [Store.find?_insert, if_neg elsewhere]
    next => rfl
  clear {history invocation files} _ clear := by
    simp only [differingSetup]
    split
    next => exact clear.insert_text (by decide)
    next => exact clear
  answers {history invocation files} _ output answer := by
    simp only [differingSetup] at answer
    split at answer
    all_goals
      cases answer
      decide

theorem staleWorld_clear : staleWorld.files.Clear := by
  have empty : Store.empty.Clear := fun path _ text held => by cases held
  exact empty.insert fun output => absurd output sampleFixture_isFixture.not_isOutput

-- The first command rewrites the fixture.
theorem steps_keep_fixtures_stale :
    let old := some "\nint main() {}\n\n========\n\nold\n\n========\n\nstale T\n".toUTF8
    let new := some "\nint main() {}\n\n========\n\nnew\n\n========\n\nstale T\n".toUTF8
    (steps differingSetup.tools sampleRequests staleWorld).map (fun step =>
      (step.before.files.find? sampleTest.fixture, step.after.files.find? sampleTest.fixture)) =
        [(old, new), (new, new), (new, new), (new, new)] ∧
    ∀ step ∈ steps differingSetup.tools sampleRequests staleWorld,
      Fixture.Preserved staleWorld.files step.after.files sampleTest.fixture ∧
        (step.after.files.find? sampleTest.fixture ≠ step.before.files.find? sampleTest.fixture →
          ∃ report ∈ step.report,
            Suite.Lists step.request.line.root report.results sampleTest.fixture) :=
  ⟨by decide +kernel, steps_keep_fixtures sampleRequests_plain (asksOnly_all _ _ _)
    differingSetup_harmless staleWorld_clear sampleFixture_isFixture⟩

end Samples

end Session

end GoldenSuite
