import GoldenSuite.Fixture.TestCase
import GoldenSuite.Json.Decode
import GoldenSuite.Volatile

set_option autoImplicit false

namespace GoldenSuite

structure Config where
  compiler : String := "../saphyr"
  compilerArgs : List String := ["--llvmir"]
  -- Given to the compiler as well for fixtures that ask for debug output.
  debugFlag : String := "--print-debug"
  -- Without a formatter no format is checked.
  formatter : Option String := some "../syfmt"
  diff : String := "diff"
  diffArgs : List String := ["-uwB"]
  assembler : String := "llvm-as"
  disassembler : String := "llvm-dis"
  symbolDump : String := "nm"
  symbolDumpArgs : List String := ["-fp"]
  fixturePattern : String := "*.test"
  volatileMarkers : List String := ["; ModuleID", "source_filename"]
  endings : SiblingEndings := {}
  timeout : Option Nat := none
  deriving DecidableEq, Repr, Inhabited

inductive ConfigError where
  | unreadable (path : String) (error : FileError)
  | undecodable (origin : String) (misreading : Json.Misreading)
  | badMarker (marker : String)
  | emptyTool (name : String)
  | zeroTimeout
  deriving DecidableEq, Repr

/-- What is wrong, without the reason why a text is no configuration. Why a marker is no regular
expression is left to whoever shows the message. -/
def ConfigError.summary : ConfigError → String
  | unreadable path error => s!"failed to read config {path}: {error.message}"
  | undecodable origin _ => s!"failed to parse config {origin}"
  | badMarker marker => s!"invalid volatile marker {Text.quoted marker}"
  | emptyTool name => s!"{name} must not be empty"
  | zeroTimeout => "timeout must be at least 1 second"

def ConfigError.message (error : ConfigError) : String :=
  match error with
  | undecodable _ misreading => s!"{error.summary}: {misreading.message}"
  | _ => error.summary

namespace SiblingEndings

open Json (Decoder)

def fields : List (Decoder.Field SiblingEndings) :=
  [⟨"source", fun tree endings => return { endings with source := ← Decoder.text tree }⟩,
   ⟨"expected", fun tree endings => return { endings with expected := ← Decoder.text tree }⟩,
   ⟨"artifact", fun tree endings => return { endings with artifact := ← Decoder.text tree }⟩,
   ⟨"object", fun tree endings => return { endings with object := ← Decoder.text tree }⟩,
   ⟨"error_log", fun tree endings => return { endings with errorLog := ← Decoder.text tree }⟩,
   ⟨"negative", fun tree endings => return { endings with negative := ← Decoder.text tree }⟩,
   ⟨"formatted", fun tree endings => return { endings with formatted := ← Decoder.text tree }⟩,
   ⟨"bitcode", fun tree endings => return { endings with bitcode := ← Decoder.text tree }⟩]

def decode : Decoder SiblingEndings :=
  Decoder.record "struct SiblingExtensions" fields .passedOver {}

end SiblingEndings

namespace Config

open Json (Decoder)

def fields : List (Decoder.Field Config) :=
  [⟨"compiler", fun tree config => return { config with compiler := ← Decoder.text tree }⟩,
   ⟨"compiler_args", fun tree config =>
      return { config with compilerArgs := ← Decoder.list Decoder.text tree }⟩,
   ⟨"debug_flag", fun tree config => return { config with debugFlag := ← Decoder.text tree }⟩,
   ⟨"formatter", fun tree config =>
      return { config with formatter := ← Decoder.optional Decoder.text tree }⟩,
   ⟨"diff", fun tree config => return { config with diff := ← Decoder.text tree }⟩,
   ⟨"diff_args", fun tree config =>
      return { config with diffArgs := ← Decoder.list Decoder.text tree }⟩,
   ⟨"assembler", fun tree config => return { config with assembler := ← Decoder.text tree }⟩,
   ⟨"disassembler", fun tree config =>
      return { config with disassembler := ← Decoder.text tree }⟩,
   ⟨"symbol_dump", fun tree config => return { config with symbolDump := ← Decoder.text tree }⟩,
   ⟨"symbol_dump_args", fun tree config =>
      return { config with symbolDumpArgs := ← Decoder.list Decoder.text tree }⟩,
   ⟨"fixture_pattern", fun tree config =>
      return { config with fixturePattern := ← Decoder.text tree }⟩,
   ⟨"volatile_markers", fun tree config =>
      return { config with volatileMarkers := ← Decoder.list Decoder.text tree }⟩,
   ⟨"extensions", fun tree config =>
      return { config with endings := ← SiblingEndings.decode tree }⟩,
   ⟨"timeout_sec", fun tree config =>
      return { config with timeout := ← Decoder.optional Decoder.natural tree }⟩]

def decode : Decoder Config := Decoder.record "struct HarnessConfig" fields .refused {}

def ofText (text origin : String) : Except ConfigError Config :=
  (Decoder.ofText decode text).mapError (.undecodable origin)

def load {φ : Type} [FileSystem φ] (files : φ) (path : Path) : Except ConfigError Config :=
  match FileSystem.read files path with
  | .error error => .error (.unreadable path.text error)
  | .ok text => ofText text path.text

def namedTools (config : Config) : List (String × String) :=
  [("compiler", config.compiler), ("diff", config.diff), ("assembler", config.assembler),
    ("disassembler", config.disassembler), ("symbol_dump", config.symbolDump),
    ("fixture_pattern", config.fixturePattern)]

def volatileFilter (config : Config) : Except ConfigError VolatileFilter :=
  (VolatileFilter.ofMarkers config.volatileMarkers).mapError .badMarker

def validate (config : Config) : Except ConfigError Unit :=
  match config.namedTools.find? fun (_, value) => Text.allBlank value with
  | some (name, _) => .error (.emptyTool name)
  | none =>
      if config.timeout = some 0 then .error .zeroTimeout
      else do
        let _ ← config.volatileFilter
        return

end Config

end GoldenSuite
