import GoldenSuite.VersionPair
import GoldenSuite.World

set_option autoImplicit false

namespace GoldenSuite.Trial

variable {φ : Type} [FileSystem φ]

def assembly (config : Config) (test : TestCase) (versions : VersionPair) (file : Path) :
    Invocation :=
  ⟨VersionPair.toolName config.assembler versions.source, ["-o", test.bitcode.text, file.text]⟩

def disassembly (config : Config) (test : TestCase) (versions : VersionPair) (file : Path) :
    Invocation :=
  ⟨VersionPair.toolName config.disassembler versions.target, ["-o", file.text, test.bitcode.text]⟩

def convert (setup : Setup φ) (test : TestCase) (versions : VersionPair) (file : Path) :
    Trial φ Unit := do
  let _ ← execChecked setup .assemble (assembly setup.config test versions file)
  let _ ← execChecked setup .disassemble (disassembly setup.config test versions file)
  return

def patch (setup : Setup φ) (file : Path) : Trial φ Unit := do
  write file (setup.volatile.strip (← read file))

def convertBoth (setup : Setup φ) (test : TestCase) (versions : VersionPair) :
    Trial φ Unit := do
  let source := VersionPair.describe versions.source
  let target := VersionPair.describe versions.target
  note .verbose s!"translating IR {source} -> {target}"
  convert setup test versions test.expected
  patch setup test.expected
  convert setup test versions test.artifact

def normalize (setup : Setup φ) (test : TestCase) (versions : Option VersionPair) :
    Trial φ Unit := do
  if !(← holds test.artifact) then throw (.noArtifact setup.config.endings.artifact)
  versions.forM (convertBoth setup test)
  patch setup test.artifact

end GoldenSuite.Trial
