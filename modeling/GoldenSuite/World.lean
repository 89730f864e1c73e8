import GoldenSuite.Config
import GoldenSuite.Log
import GoldenSuite.Outcome
import GoldenSuite.Process

/-!
What a run acts upon, and its elementary actions. A run reads and changes files, calls tools, and
keeps a log; an action that can fail is a trial and ends the test that it belongs to.
-/

set_option autoImplicit false

namespace GoldenSuite

/-- How tools answer: by the calls made before, the call itself and the files. A tool may change
files, even when it fails to start. -/
abbrev Tools (φ : Type) := List Invocation → Invocation → φ → Except LaunchError Output × φ

structure Setup (φ : Type) where
  config : Config
  volatile : VolatileFilter
  tools : Tools φ

def Setup.of {φ : Type} (config : Config) (tools : Tools φ) : Except ConfigError (Setup φ) := do
  return ⟨config, ← config.volatileFilter, tools⟩

structure World (φ : Type) where
  files : φ
  calls : List Invocation := []
  log : Log

abbrev Action (φ : Type) := StateM (World φ)

abbrev Trial (φ : Type) := ExceptT Failure (StateM (World φ))

variable {φ : Type}

namespace Action

def note (level : Verbosity) (text : String) : Action φ Unit :=
  modify fun world => { world with log := world.log.add level text }

def onFiles {α : Type} (change : φ → α × φ) : Action φ α := fun world =>
  let (answer, files) := change world.files
  (answer, { world with files })

def call (tools : Tools φ) (invocation : Invocation) :
    Action φ (Except LaunchError Output) := fun world =>
  let (answer, files) := tools world.calls invocation world.files
  (answer, { world with files, calls := world.calls ++ [invocation] })

/-- Writes the log of a failed test. A log that cannot be written changes nothing else. -/
def writeLog [FileSystem φ] (test : TestCase) (text : String) : Action φ Unit := do
  match ← onFiles (FileSystem.write · test.errorLog text.toUTF8) with
  | .ok () => return
  | .error error => note .verbose s!"could not write {test.errorLog.text}: {error.message}"

end Action

namespace Trial

def note (level : Verbosity) (text : String) : Trial φ Unit :=
  ExceptT.lift (Action.note level text)

def writeLog [FileSystem φ] (test : TestCase) (text : String) : Trial φ Unit :=
  ExceptT.lift (Action.writeLog test text)

def onFiles {α : Type} (change : φ → Except FileError α × φ) : Trial φ α := do
  match ← ExceptT.lift (Action.onFiles change) with
  | .ok answer => return answer
  | .error error => throw (.io error)

def read [FileSystem φ] (path : Path) : Trial φ String :=
  onFiles fun files => (FileSystem.read files path, files)

def write [FileSystem φ] (path : Path) (text : String) : Trial φ Unit :=
  onFiles (FileSystem.write · path text.toUTF8)

def holds [FileSystem φ] (path : Path) : Trial φ Bool := do
  return FileSystem.holds (← get).files path

def complaint (invocation : Invocation) (output : Output) : String :=
  s!"{invocation.line} ({output.exit.describe})\n{output.combined}"

/-- Runs a tool. How it ended is for the caller to judge, unless it did not start or ran too
long. -/
def exec (setup : Setup φ) (stage : Stage) (invocation : Invocation) : Trial φ Output := do
  note .debug s!"$ {invocation.line}"
  match ← ExceptT.lift (Action.call setup.tools invocation) with
  | .error error => throw (.tool stage error.message)
  | .ok output =>
      if output.timedOut then throw (.timeout stage)
      note .debug s!"  {invocation.program} -> {output.exit.describe}"
      return output

def execChecked (setup : Setup φ) (stage : Stage) (invocation : Invocation) :
    Trial φ Output := do
  let output ← exec setup stage invocation
  if output.success then return output
  else throw (.tool stage (complaint invocation output))

end Trial

end GoldenSuite
