import GoldenSuite.Report
import GoldenSuite.Trial.Case

set_option autoImplicit false

namespace GoldenSuite.Suite

variable {φ : Type} [FileSystem φ]

def columnWidth (fixtures : List Path) : Nat :=
  fixtures.foldl (fun width fixture => max width fixture.chars.length) 0

def caseOf (config : Config) (root fixture : Path) : TestCase :=
  TestCase.of (root.join fixture) config.endings

def results (config : Config) (root : Path) (width : Nat) (tryCase : TestCase → Action φ Outcome) :
    List Path → Action φ (List TestResult)
  | [] => return []
  | fixture :: fixtures => do
      let result : TestResult := ⟨fixture, ← tryCase (caseOf config root fixture)⟩
      Action.note .normal (result.statusLine width)
      return result :: (← results config root width tryCase fixtures)

def each (config : Config) (root : Path) (fixtures : List Path) (verb : String)
    (tryCase : TestCase → Action φ Outcome) : Action φ Report := do
  let report : Report := ⟨← results config root (columnWidth fixtures) tryCase fixtures⟩
  Action.note .normal (report.summary verb)
  return report

def run (setup : Setup φ) (options : RunOptions) (root : Path) (fixtures : List Path) :
    Action φ Report :=
  each setup.config root fixtures "passed" (Action.execute setup options)

def dump (config : Config) (root : Path) (fixtures : List Path) : Action φ Report :=
  each config root fixtures "dumped" fun test => ExceptT.run (Trial.dump test)

def removeGenerated (config : Config) (root : Path) :
    List Path → φ → Except FileError Nat × φ
  | [], files => (.ok 0, files)
  | fixture :: fixtures, files =>
      match (caseOf config root fixture).clean files with
      | (.ok removed, files) =>
          match removeGenerated config root fixtures files with
          | (.ok more, files) => (.ok (removed + more), files)
          | failed => failed
      | failed => failed

/-- Removes the generated files of every fixture and counts them. An error ends the removal. -/
def clean (config : Config) (root : Path) (fixtures : List Path) :
    Action φ (Except FileError Nat) := do
  let removed ← Action.onFiles (removeGenerated config root fixtures)
  match removed with
  | .ok count => Action.note .verbose s!"removed {count} generated files"
  | .error _ => return removed
  return removed

end GoldenSuite.Suite
