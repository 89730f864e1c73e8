import GoldenSuite.Fixture.Directives
import GoldenSuite.Trial.Difference

set_option autoImplicit false

namespace GoldenSuite

inductive FormatCheck where
  | skipped
  | declined
  | stable
  deriving DecidableEq, Repr

namespace Trial

variable {φ : Type} [FileSystem φ]

def formatter? (config : Config) (directives : Directives) : Option String :=
  if directives.skipFormat then none else config.formatter

def checkFormat (setup : Setup φ) (test : TestCase) (directives : Directives) :
    Trial φ FormatCheck := do
  match formatter? setup.config directives with
  | none => return .skipped
  | some formatter =>
      let output ← exec setup .format ⟨formatter, [test.source.text]⟩
      if output.crashed then
        writeLog test output.combined
        throw (.crash .format)
      if !output.success then return .declined
      write test.formatted output.stdout
      match ← diffFiles setup .format test.source test.formatted with
      | .agree => return .stable
      | .differ diff =>
          writeLog test diff
          throw .formatMismatch

end Trial

end GoldenSuite
