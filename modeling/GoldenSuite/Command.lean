import GoldenSuite.CommandLine
import GoldenSuite.Selection
import GoldenSuite.Suite
import GoldenSuite.Timestamp

set_option autoImplicit false

namespace GoldenSuite

-- A report of texts, numbers and truth values can always be encoded, so that is no case of its own.
inductive CommandError where
  | usage (error : UsageError)
  | config (error : ConfigError)
  | files (error : FileError)
  | collision (collisions : List Selection.Collision)
  | noTests
  deriving DecidableEq, Repr

namespace CommandError

def collisionText (collision : Selection.Collision) : String :=
  s!"{collision.first.text} and {collision.second.text}"

def message : CommandError → String
  | usage error => s!"invalid argument: {error.message}"
  | config error => s!"config error: {error.message}"
  | files error => s!"filesystem error: {error.message}"
  | collision collisions =>
      "fixtures share generated file names: "
        ++ String.intercalate ", " (collisions.map collisionText)
  | noTests => "No tests found"

def exitCode : CommandError → Nat
  | noTests => 1
  | usage _ | collision _ => 2
  | config _ => 3
  | files _ => 4

end CommandError

namespace Command

variable {φ : Type} [FileSystem φ]

def exitCode (allPassed : Bool) : Nat := if allPassed then 0 else 1

def baseConfig (line : CommandLine) (files : φ) : Except ConfigError Config :=
  match line.config with
  | none => .ok {}
  | some path => Config.load files path

def config (line : CommandLine) (files : φ) : Except CommandError Config := do
  line.validate.mapError .usage
  let base ← (baseConfig line files).mapError .config
  let config := line.override base
  config.validate.mapError .config
  return config

abbrev Attempt (φ : Type) := ExceptT CommandError (StateM (World φ))

def note (level : Verbosity) (text : String) : Attempt φ Unit :=
  ExceptT.lift (Action.note level text)

def choiceOf (line : CommandLine) : Attempt φ Choice :=
  ExceptT.mk (pure (line.choice.mapError .usage))

def select (config : Config) (root : Path) (filters : List String) : Attempt φ (List Path) := do
  let files := (← get).files
  match Selection.discover files root config.fixturePattern with
  | .error error => throw (.files error)
  | .ok all =>
      let selected := Selection.select all filters
      note .verbose
        s!"selected {selected.length} of {all.length} fixtures under {root.text}"
      if selected.isEmpty then throw .noTests
      let collisions := Selection.collisions selected
      if collisions.isEmpty then return selected else throw (.collision collisions)

def writeReport (line : CommandLine) (time : Int) (report : Report) : Attempt φ Unit := do
  match line.report with
  | none => return
  | some path =>
      let text := report.text line.mode.name (Timestamp.text time)
      match ← ExceptT.lift (Action.onFiles (FileSystem.write · path text.toUTF8)) with
      | .ok () => return
      | .error error => throw (.files error)

def runOptions (line : CommandLine) (choice : Choice) : RunOptions :=
  { update := line.mode = .update, versions := choice.versions, keep := line.keep }

def reportOf (setup : Setup φ) (line : CommandLine) (choice : Choice) (fixtures : List Path) :
    Action φ Report :=
  if line.mode = .dump then Suite.dump setup.config line.root fixtures
  else Suite.run setup (runOptions line choice) line.root fixtures

def execute (setup : Setup φ) (line : CommandLine) (time : Int) : Attempt φ Bool := do
  let choice ← choiceOf line
  let fixtures ← select setup.config line.root choice.filters
  if line.mode = .clean then
    match ← ExceptT.lift (Suite.clean setup.config line.root fixtures) with
    | .ok _ => return true
    | .error error => throw (.files error)
  else
    let report ← ExceptT.lift (reportOf setup line choice fixtures)
    writeReport line time report
    return report.succeeded

def start (line : CommandLine) (tools : Config → Tools φ) (time : Int) : Attempt φ Bool := do
  let config ← ExceptT.mk (pure (config line (← get).files))
  let setup ← ExceptT.mk (pure ((Setup.of config (tools config)).mapError .config))
  execute setup line time

end Command

end GoldenSuite
