import GoldenSuite.Trial.Artifact
import GoldenSuite.Trial.Format
import GoldenSuite.Trial.Verdict

/-!
Trying one fixture: format check, compiler, comparison of the artifact, comparison of the symbols. A
mismatch fails the test or, where that is asked for, updates the fixture. The generated files of a
passing test are removed, those of a failing one are left to be looked at.
-/

set_option autoImplicit false

namespace GoldenSuite

structure RunOptions where
  update : Bool := false
  versions : Option VersionPair := none
  keep : Bool := false
  deriving DecidableEq, Repr, Inhabited

namespace Trial

variable {φ : Type} [FileSystem φ]

def load (path : Path) : Trial φ Fixture := do
  let files := (← get).files
  match Fixture.load files path with
  | .ok fixture => return fixture
  | .error error => throw (.ofLoadError error)

def symbolsInvocation (config : Config) (test : TestCase) : Invocation :=
  ⟨config.symbolDump, config.symbolDumpArgs ++ [test.object.text]⟩

def dumpSymbols (setup : Setup φ) (test : TestCase) : Trial φ String := do
  let output ← exec setup .symbols (symbolsInvocation setup.config test)
  if output.success then return Symbols.filter output.stdout
  else
    writeLog test output.combined
    throw .noSymbols

/-- Puts the actual output into a fixture. The fixture of an accepted program has the symbols
just listed, or else those it had; that of a rejected program has none. -/
def updateGolden (test : TestCase) (fixture : Fixture) (isAccepted : Bool)
    (listing : Option String) : Trial φ Unit := do
  let actual ← read (if isAccepted then test.artifact else test.negative)
  let symbols := if isAccepted then listing.or fixture.symbols else none
  write test.fixture (Fixture.render fixture.source actual symbols)
  note .verbose s!"rewrote {test.fixture.text}"

def compareSymbols (setup : Setup φ) (options : RunOptions) (test : TestCase)
    (fixture : Fixture) : Trial φ Pass := do
  match fixture.symbols with
  | none => return .ok
  | some expected =>
      note .verbose s!"{test.fixture.text}: symbols"
      let actual ← dumpSymbols setup test
      match Symbols.compare expected actual with
      | .agree => return .ok
      | .differ diff =>
          if options.update then
            updateGolden test fixture true (some actual)
            return .updated .symbols
          else
            writeLog test diff
            throw .symbolMismatch

def compareActual (setup : Setup φ) (options : RunOptions) (test : TestCase)
    (fixture : Fixture) (isAccepted : Bool) : Trial φ Pass := do
  let actual := if isAccepted then test.artifact else test.negative
  match ← diffFiles setup .diff test.expected actual with
  | .agree =>
      if isAccepted then compareSymbols setup options test fixture else return .ok
  | .differ diff =>
      if options.update then
        updateGolden test fixture isAccepted none
        return .updated .artifact
      else
        writeLog test diff
        throw .artifactMismatch

def drive (setup : Setup φ) (options : RunOptions) (test : TestCase) : Trial φ Pass := do
  let fixture ← load test.fixture
  onFiles (test.materialize fixture)
  let directives := Directives.ofSource fixture.source
  note .verbose s!"{test.fixture.text}: format check"
  let _ ← checkFormat setup test directives
  note .verbose s!"{test.fixture.text}: compile"
  let verdict ← compile setup test directives
  if verdict.isAccepted then
    note .verbose s!"{test.fixture.text}: normalize"
    normalize setup test options.versions
  compareActual setup options test fixture verdict.isAccepted

def dump (test : TestCase) : Trial φ Pass := do
  let fixture ← load test.fixture
  onFiles (test.materialize fixture)
  return .dumped

end Trial

namespace Action

variable {φ : Type} [FileSystem φ]

def cleanUp (test : TestCase) : Action φ Unit := do
  match ← onFiles test.clean with
  | .ok _ => return
  | .error error => note .verbose s!"{test.fixture.text}: cleanup failed: {error.message}"

def conclude (options : RunOptions) (test : TestCase) : Outcome → Action φ Unit
  | .ok _ => if options.keep then return else cleanUp test
  | .error (.tool stage detail) => do
      note .verbose s!"{test.fixture.text}: {stage.name} tool failed"
      writeLog test detail
  | .error _ => return

def execute (setup : Setup φ) (options : RunOptions) (test : TestCase) : Action φ Outcome := do
  let outcome ← ExceptT.run (Trial.drive setup options test)
  conclude options test outcome
  return outcome

end Action

end GoldenSuite
