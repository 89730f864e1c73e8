import GoldenSuite.Fixture.Basic
import GoldenSuite.Files.FileSystem

set_option autoImplicit false

namespace GoldenSuite

structure SiblingEndings where
  -- The source section, written out for the compiler.
  source : String := ".syp"
  -- The expected artifact, written out for comparison.
  expected : String := ".exp"
  -- What the compiler makes of an accepted program.
  artifact : String := ".ll"
  -- The object file whose symbols are listed.
  object : String := ".o"
  -- What the tools said about a failed test.
  errorLog : String := ".err"
  -- The diagnostics of a rejected program.
  negative : String := ".neg"
  -- What the formatter made of the source.
  formatted : String := ".syp.txt"
  -- Passed from assembler to disassembler.
  bitcode : String := ".bc"
  deriving DecidableEq, Repr, Inhabited

structure TestCase where
  fixture : Path
  base : Path
  source : Path
  expected : Path
  artifact : Path
  object : Path
  errorLog : Path
  negative : Path
  formatted : Path
  bitcode : Path
  deriving DecidableEq, Repr

namespace TestCase

def of (fixture : Path) (endings : SiblingEndings) : TestCase :=
  let base := fixture.base
  { fixture := fixture
    base := base
    source := base.withSuffix endings.source
    expected := base.withSuffix endings.expected
    artifact := base.withSuffix endings.artifact
    object := base.withSuffix endings.object
    errorLog := base.withSuffix endings.errorLog
    negative := base.withSuffix endings.negative
    formatted := base.withSuffix endings.formatted
    bitcode := base.withSuffix endings.bitcode }

def generated (test : TestCase) : List Path :=
  [test.source, test.formatted, test.artifact, test.expected, test.errorLog, test.negative,
    test.bitcode, test.object]

variable {φ : Type} [FileSystem φ]

def materialize (test : TestCase) (fixture : Fixture) (files : φ) : Except FileError Unit × φ :=
  match FileSystem.write files test.source fixture.source.toUTF8 with
  | (.ok (), files) => FileSystem.write files test.expected fixture.artifact.toUTF8
  | failed => failed

/-- Removes the files at some paths and counts them. Files that are not there are passed over; any
other error ends the removal. -/
def removeAll : List Path → φ → Except FileError Nat × φ
  | [], files => (.ok 0, files)
  | path :: paths, files =>
      match FileSystem.remove files path with
      | (.ok (), files) =>
          match removeAll paths files with
          | (.ok count, files) => (.ok (count + 1), files)
          | failed => failed
      | (.error error, files) =>
          if error.isNotFound then removeAll paths files else (.error error, files)

def clean (test : TestCase) (files : φ) : Except FileError Nat × φ := removeAll test.generated files

end TestCase

inductive LoadError where
  | unreadable (path : Path) (cause : FileError)
  | malformed (path : Path) (cause : SectionError)
  deriving DecidableEq, Repr

def LoadError.message : LoadError → String
  | .unreadable path cause => s!"failed to read fixture {path.text}: {cause.message}"
  | .malformed path cause => s!"malformed fixture {path.text}: {cause.message}"

def Fixture.load {φ : Type} [FileSystem φ] (files : φ) (path : Path) : Except LoadError Fixture :=
  match FileSystem.read files path with
  | .error cause => .error (.unreadable path cause)
  | .ok text =>
      match Fixture.parse text with
      | .error cause => .error (.malformed path cause)
      | .ok fixture => .ok fixture

end GoldenSuite
