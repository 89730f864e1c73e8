import GoldenSuite.Symbols
import GoldenSuite.World

set_option autoImplicit false

namespace GoldenSuite.Trial

variable {φ : Type}

def diffInvocation (config : Config) (expected actual : Path) : Invocation :=
  ⟨config.diff, config.diffArgs ++ [expected.text, actual.text]⟩

def diffFiles (setup : Setup φ) (stage : Stage) (expected actual : Path) : Trial φ Comparison := do
  let invocation := diffInvocation setup.config expected actual
  let output ← exec setup stage invocation
  match output.code? with
  | some 0 => return .agree
  | some 1 => return .differ output.combined
  | _ => throw (.tool stage (complaint invocation output))

end GoldenSuite.Trial
