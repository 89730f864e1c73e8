set_option autoImplicit false

namespace GoldenSuite

structure Invocation where
  program : String
  args : List String
  deriving DecidableEq, Repr, Inhabited

def Invocation.line (invocation : Invocation) : String :=
  String.intercalate " " (invocation.program :: invocation.args)

inductive Exit where
  | status (code : Int)
  | signal (number : Option Int)
  | timedOut
  deriving DecidableEq, Repr

def Exit.describe : Exit → String
  | .status code => s!"exit status {code}"
  | .signal (some number) => s!"signal {number}"
  | .signal none => "signal"
  | .timedOut => "timed out"

structure Output where
  exit : Exit
  stdout : String
  stderr : String
  deriving DecidableEq, Repr

namespace Output

def success (output : Output) : Bool := output.exit == .status 0

def crashed (output : Output) : Bool :=
  match output.exit with
  | .signal _ => true
  | .status code => code < 0
  | .timedOut => false

def declined (output : Output) : Bool :=
  match output.exit with
  | .status code => 0 < code
  | _ => false

def timedOut (output : Output) : Bool := output.exit == .timedOut

def code? (output : Output) : Option Int :=
  match output.exit with
  | .status code => some code
  | _ => none

def combined (output : Output) : String := output.stderr ++ output.stdout

end Output

inductive LaunchStep where
  | launch
  | wait
  deriving DecidableEq, Repr

def LaunchStep.name : LaunchStep → String
  | launch => "launch"
  | wait => "wait for"

structure LaunchError where
  program : String
  cause : String
  step : LaunchStep
  deriving DecidableEq, Repr

def LaunchError.message (error : LaunchError) : String :=
  s!"failed to {error.step.name} {error.program}: {error.cause}"

end GoldenSuite
