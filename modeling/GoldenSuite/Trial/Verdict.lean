import GoldenSuite.Fixture.Directives
import GoldenSuite.World

set_option autoImplicit false

namespace GoldenSuite

inductive Verdict where
  | accepted (artifact : Path)
  | rejected (diagnostics : String)
  deriving DecidableEq, Repr

def Verdict.isAccepted : Verdict → Bool
  | accepted _ => true
  | rejected _ => false

namespace Trial

variable {φ : Type} [FileSystem φ]

def compilerInvocation (config : Config) (test : TestCase) (directives : Directives) :
    Invocation :=
  let debug := if directives.printDebug then [config.debugFlag] else []
  ⟨config.compiler, debug ++ config.compilerArgs ++ [test.source.text]⟩

def compile (setup : Setup φ) (test : TestCase) (directives : Directives) : Trial φ Verdict := do
  let output ← exec setup .compile (compilerInvocation setup.config test directives)
  if output.crashed then
    writeLog test output.combined
    throw (.crash .compile)
  if output.success then return .accepted test.artifact
  write test.negative output.combined
  return .rejected output.combined

end Trial

end GoldenSuite
