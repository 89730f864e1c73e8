import GoldenSuite.Console
import GoldenSuite.Proofs.Report
import GoldenSuite.Proofs.Suite.Executing
import GoldenSuite.Proofs.Suite.Siblings
import GoldenSuite.Proofs.Trial.Quiet

set_option autoImplicit false

namespace GoldenSuite

variable {φ : Type}

namespace Suite

variable {config : Config} {root : Path} {width : Nat} {tryCase : TestCase → Action φ Outcome}

/-- The results of trying some fixtures. Each outcome is what the test comes to in the world that
the tests before it have left. -/
inductive Tried (config : Config) (root : Path) (width : Nat)
    (tryCase : TestCase → Action φ Outcome) :
    List Path → World φ → List TestResult → World φ → Prop
  | nil {world : World φ} : Tried config root width tryCase [] world [] world
  | cons {fixture : Path} {fixtures : List Path} {world left last : World φ} {outcome : Outcome}
      {results : List TestResult} (tried : tryCase (caseOf config root fixture) world =
        (outcome, left))
      (others : Tried config root width tryCase fixtures
        (Action.note .normal (TestResult.statusLine ⟨fixture, outcome⟩ width) left).2
        results last) :
      Tried config root width tryCase (fixture :: fixtures) world (⟨fixture, outcome⟩ :: results)
        last

theorem tried_results (fixtures : List Path) (world : World φ) :
    Tried config root width tryCase fixtures world
      (results config root width tryCase fixtures world).1
      (results config root width tryCase fixtures world).2 := by
  induction fixtures generalizing world with
  | nil => exact .nil
  | cons fixture rest ih => exact .cons rfl (ih _)

variable {fixtures : List Path} {world last : World φ} {results : List TestResult}

theorem Tried.fixtures_eq (tried : Tried config root width tryCase fixtures world results last) :
    results.map TestResult.fixture = fixtures := by
  induction tried with
  | nil => rfl
  | cons tried others ih => exact congrArg (List.cons _) ih

-- The status lines are all that is shown, if the tests show nothing.
theorem Tried.shown (tried : Tried config root width tryCase fixtures world results last)
    (silent : ∀ test, Silent (tryCase test)) :
    last.shown = world.shown ++ results.map (·.statusLine width) := by
  induction tried with
  | nil => simp
  | @cons fixture fixtures world left last outcome results tried others ih =>
    have before : left.shown = world.shown := by
      have tests := silent (caseOf config root fixture) world
      rwa [tried] at tests
    have noted : (Action.note .normal (TestResult.statusLine ⟨fixture, outcome⟩ width) left).2.shown
        = left.shown ++ [TestResult.statusLine ⟨fixture, outcome⟩ width] :=
      Log.shown_add_normal left.log _
    rw [ih, noted, before]
    simp

end Suite

namespace Command

variable [FileSystem φ] {setup : Setup φ} {line : CommandLine} {time : Int}

theorem shown_select {config : Config} {root : Path} {filters : List String} {world left : World φ}
    {answer : Except CommandError (List Path)}
    (selected : attempt (select config root filters) world = (answer, left)) :
    left.shown = world.shown := by
  have noted (text : String) : (Action.note .verbose text world).2.shown = world.shown :=
    Silent.note (by decide) text world
  rw [attempt_select] at selected
  split at selected
  next =>
    cases selected
    rfl
  next all found =>
    dsimp only at selected
    split at selected
    next =>
      cases selected
      exact noted _
    next =>
      split at selected
      next =>
        cases selected
        exact noted _
      next =>
        cases selected
        exact noted _

-- What is done with each test.
def tryCase (setup : Setup φ) (line : CommandLine) (choice : Choice) (test : TestCase) :
    Action φ Outcome :=
  if line.mode = .dump then ExceptT.run (Trial.dump test)
  else Action.execute setup (runOptions line choice) test

def verb (line : CommandLine) : String := if line.mode = .dump then "dumped" else "passed"

theorem reportOf_eq (setup : Setup φ) (line : CommandLine) (choice : Choice)
    (fixtures : List Path) :
    reportOf setup line choice fixtures =
      Suite.each setup.config line.root fixtures (verb line) (tryCase setup line choice) := by
  unfold reportOf verb tryCase
  split
  next => rfl
  next => rfl

theorem silent_tryCase (setup : Setup φ) (line : CommandLine) (choice : Choice) (test : TestCase) :
    Silent (tryCase setup line choice test) := by
  unfold tryCase
  split
  next =>
    have own : Trial.Own (Suite.idleSetup φ) test (Trial.dump test) := .dump
    exact Silent.ofOwn own
  next => exact Silent.execute setup _ test

theorem shown_reportOf {choice : Choice} {fixtures : List Path} {noted ran : World φ}
    {report : Report} (run : reportOf setup line choice fixtures noted = (report, ran)) :
    ∃ last, Suite.Tried setup.config line.root (Suite.columnWidth fixtures)
        (tryCase setup line choice) fixtures noted report.results last ∧
      ran.scene = last.scene ∧ ran.shown = noted.shown ++
        report.results.map (·.statusLine (Suite.columnWidth fixtures)) ++
          [report.summary (verb line)] := by
  rw [reportOf_eq] at run
  obtain ⟨rfl, rfl⟩ := Prod.mk.inj run
  have tried : Suite.Tried setup.config line.root (Suite.columnWidth fixtures)
      (tryCase setup line choice) fixtures noted _ _ := Suite.tried_results fixtures noted
  refine ⟨_, tried, rfl, ?_⟩
  rw [← tried.shown (silent_tryCase setup line choice)]
  exact Log.shown_add_normal _ _

/-- A run, an update or a dump that comes to its end has one result for every selected fixture, in
order. It shows a status line for each and then the summary, with all tags one below another. The
summary, the document, if one is asked for, and the exit code say the same of the results. -/
theorem execute_reports {world left : World φ} {passed : Bool} (reporting : line.mode ≠ .clean)
    (executed : attempt (execute setup line time) world = (.ok passed, left)) :
    ∃ choice all report noted last,
      line.choice = .ok choice ∧
      Selection.discover world.files line.root setup.config.fixturePattern = .ok all ∧
      let fixtures := Selection.select all choice.filters
      let width := Suite.columnWidth fixtures
      noted.scene = world.scene ∧
      Suite.Tried setup.config line.root width (tryCase setup line choice) fixtures noted
        report.results last ∧
      report.results.map TestResult.fixture = fixtures ∧
      left.shown = world.shown ++ report.results.map (·.statusLine width) ++
        [report.summary (verb line)] ∧
      (∀ result ∈ report.results, result.TaggedAt width (result.statusLine width)) ∧
      ((∀ fixture ∈ fixtures, fixture.chars.length ≤ width) ∧
        ∃ fixture ∈ fixtures, fixture.chars.length = width) ∧
      report.Told (verb line) line.mode.name (Timestamp.text time) ∧
      Filed line time report last.files (.ok ()) left.files ∧
      (Console.ended (.ok passed)).1 =
        if report.results.all (·.outcome.isOk) then 0 else 1 := by
  have ways := execute_cases executed
  generalize answer : Except.ok passed = outcome at ways
  cases ways with
  | misused unchosen => cases answer
  | unselected chosen refused => cases answer
  | cleaned chosen selected mode clean => exact absurd mode reporting
  | @reported choice fixtures noted ran report filed files chosen selected mode run document =>
    cases filed with
    | error error => cases answer
    | ok _ =>
      obtain rfl : passed = report.succeeded := Except.ok.inj answer
      obtain ⟨same, discovers⟩ := select_spec selected
      obtain ⟨all, found, rfl, solid, -⟩ := discovers fixtures rfl
      obtain ⟨last, tried, scene, shown⟩ := shown_reportOf run
      have listed := tried.fixtures_eq
      obtain ⟨covers, attained⟩ := Suite.columnWidth_spec solid
      have files : ran.files = last.files := congrArg Scene.files scene
      refine ⟨choice, all, report, noted, last, chosen, found, same, tried, listed, ?_, ?_,
        ⟨covers, attained⟩, report.told _ _ _, files ▸ document, ?_⟩
      next => rw [← shown_select selected]; exact shown
      next =>
        intro result among
        refine TestResult.taggedAt_statusLine (covers result.fixture ?_)
        rw [← listed]
        exact List.mem_map_of_mem among
      next => rw [← report.succeeded_eq]; rfl

section Samples

-- A fixture without an artifact, and one that can be written out.
def mixedWorld : World Store where
  files := (Store.empty.insert ⟨"ab.test"⟩ "\nint g;\n".toUTF8).insert ⟨"é.test"⟩
    "\nint f;\n\n========\n\nold\n".toUTF8
  log := ⟨.normal, []⟩

def mixedFixtures : List Path := [⟨"ab.test"⟩, ⟨"é.test"⟩]

def mixedLine : CommandLine := { root := ⟨""⟩, dump := true, report := some ⟨"report.json"⟩ }

theorem discover_mixedWorld :
    Selection.discover mixedWorld.files mixedLine.root (Suite.idleSetup Store).config.fixturePattern
      = .ok mixedFixtures := by
  have kept : (mixedWorld.files.entries.map (·.1)).filter (fun path =>
      (Store.isWholeTree ⟨""⟩ || path.startsWith ⟨""⟩) && path.nameMatches (.ending ".test")) =
        mixedFixtures := by
    decide +kernel
  exact Selection.discover_of_sorted parse_defaultPattern kept (by decide +kernel)
    (by decide +kernel)

theorem select_mixedWorld :
    attempt (select (Suite.idleSetup Store).config mixedLine.root []) mixedWorld =
      (.ok mixedFixtures, mixedWorld) := by
  have clear : Selection.collisions (Selection.select mixedFixtures []) = [] := by decide +kernel
  rw [attempt_select, discover_mixedWorld]
  dsimp only
  rw [clear]
  rfl

def dumpMixed : Except CommandError Bool × World Store :=
  attempt (execute (Suite.idleSetup Store) mixedLine 0) mixedWorld

def mixedPage : String :=
  "\x7b\n  \"generated_at\": \"1970-01-01T00:00:00Z\",\n  \"command\": \"dump\",\n" ++
  "  \"total\": 2,\n  \"passed\": 1,\n  \"failed\": 1,\n  \"results\": [\n" ++
  "    \x7b\n      \"fixture\": \"ab.test\",\n      \"tag\": \"[missing section]\",\n" ++
  "      \"passed\": false\n    \x7d,\n" ++
  "    \x7b\n      \"fixture\": \"é.test\",\n      \"tag\": \"[dump]\",\n" ++
  "      \"passed\": true\n    \x7d\n  ]\n\x7d\n"

-- A dump of two fixtures, of which one fails, with a document.
theorem execute_reports_mixed :
    dumpMixed.1 = .ok false ∧
      dumpMixed.2.shown =
        ["ab.test = [missing section]", "é.test  = [dump]", "1 / 2 tests dumped"] ∧
      (Console.ended dumpMixed.1).1 = 1 ∧
      dumpMixed.2.files.find? ⟨"report.json"⟩ = some mixedPage.toUTF8 ∧
      ∃ report : Report, report.results.map TestResult.fixture = mixedFixtures ∧
        (report.document "dump" "1970-01-01T00:00:00Z").pretty 0 ++ "\n" = mixedPage ∧
        report.Told "dumped" "dump" "1970-01-01T00:00:00Z" := by
  have chosen : mixedLine.choice = .ok ⟨none, []⟩ := rfl
  have steps := attempt_execute_of_selected chosen select_mixedWorld 0
  have came : dumpMixed.1.toOption = some false ∧ dumpMixed.2.shown =
      ["ab.test = [missing section]", "é.test  = [dump]", "1 / 2 tests dumped"] ∧
      (dumpMixed.2.files.find? ⟨"report.json"⟩).map (·.data.toList) =
        some mixedPage.toUTF8.data.toList := by
    rw [dumpMixed, steps]
    decide +kernel
  have ended : dumpMixed.1 = .ok false := by
    rcases answer : dumpMixed.1 with error | passed
    next => simp [answer, Except.toOption] at came
    next => simpa [answer, Except.toOption] using came.1
  have executed : attempt (execute (Suite.idleSetup Store) mixedLine 0) mixedWorld =
      (.ok false, dumpMixed.2) := Prod.ext ended rfl
  obtain ⟨choice, all, report, noted, last, chosen', found, -, -, listed, -, -, -, told, filed, -⟩ :=
    execute_reports (by decide) executed
  obtain rfl := Except.ok.inj (chosen.symm.trans chosen')
  obtain rfl := Except.ok.inj (discover_mixedWorld.symm.trans found)
  have held : dumpMixed.2.files.find? ⟨"report.json"⟩ =
      some ((report.document "dump" "1970-01-01T00:00:00Z").pretty 0 ++ "\n").toUTF8 := by
    generalize dumpMixed.2.files = files at filed ⊢
    cases filed with
    | unasked none => cases none
    | @written path _ _ asked wrote =>
      obtain rfl : ⟨"report.json"⟩ = path := Option.some.inj asked
      obtain ⟨-, rfl⟩ := Store.write_eq_ok_iff.1 wrote
      rw [Store.find?_insert, if_pos rfl]
      rfl
  have octets := came.2.2
  rw [held, Option.map_some, Option.some.injEq, Array.toList_inj] at octets
  have page := String.toByteArray_inj.1 (ByteArray.ext octets)
  refine ⟨ended, came.2.1, by rw [ended]; rfl, ?_, report, listed, page, told⟩
  rw [held, page]

end Samples

end Command

end GoldenSuite
