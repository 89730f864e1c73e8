import GoldenSuite.Fixture.TestCase

set_option autoImplicit false

namespace GoldenSuite

inductive Stage where
  | format
  | compile
  | assemble
  | disassemble
  | diff
  | symbols
  deriving DecidableEq, Repr

def Stage.name : Stage → String
  | format => "format"
  | compile => "compile"
  | assemble => "assemble"
  | disassemble => "disassemble"
  | diff => "diff"
  | symbols => "symbols"

inductive Failure where
  | missingSection
  | extraSection
  -- The compiler or the formatter was ended by a signal.
  | crash (stage : Stage)
  | formatMismatch
  | artifactMismatch
  -- The program was accepted, but there is no artifact of this ending.
  | noArtifact (ending : String)
  | noSymbols
  | symbolMismatch
  -- A tool could not be run, or reported an error of its own.
  | tool (stage : Stage) (detail : String)
  | timeout (stage : Stage)
  | io (error : FileError)
  deriving DecidableEq, Repr

namespace Failure

def tag : Failure → String
  | missingSection => "[missing section]"
  | extraSection => "[extra section]"
  | crash stage => s!"[crash {stage.name}]"
  | formatMismatch => "[fail format]"
  | artifactMismatch => "[fail compile]"
  | noArtifact ending => s!"[no {ending} file]"
  | noSymbols => "[no symbols]"
  | symbolMismatch => "[diff symbols]"
  | tool _ _ => "[tool error]"
  | timeout stage => s!"[timeout {stage.name}]"
  | io _ => "[io error]"

def ofSectionError : SectionError → Failure
  | .missing => missingSection
  | .extra _ => extraSection

def ofLoadError : LoadError → Failure
  | .unreadable _ error => io error
  | .malformed _ error => ofSectionError error

end Failure

inductive Update where
  | artifact
  | symbols
  deriving DecidableEq, Repr

inductive Pass where
  | ok
  | dumped
  | updated (update : Update)
  deriving DecidableEq, Repr

def Pass.tag : Pass → String
  | ok => "[ok]"
  | dumped => "[dump]"
  | updated .artifact => "[updated compile]"
  | updated .symbols => "[updated symbols]"

abbrev Outcome := Except Failure Pass

def Outcome.tag : Outcome → String
  | .ok pass => pass.tag
  | .error failure => failure.tag

end GoldenSuite
