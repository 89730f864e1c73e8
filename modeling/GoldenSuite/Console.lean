import GoldenSuite.Command

set_option autoImplicit false

namespace GoldenSuite

structure Ending (φ : Type) where
  exitCode : Nat
  out : String := ""
  err : String := ""
  files : φ

namespace Console

def name : String := "irsnap"

def version : String := "0.1.0"

def line (text : String) : String := text ++ "\n"

def usage : String := s!"Usage: {name} [OPTIONS] [+FROM-TO] [FILTER]..."

def help : String :=
  String.join <| [usage, "",
    "  -c, --clean               Remove generated files of the selected fixtures",
    "  -u, --update              Update goldens that differ from the actual output",
    "  -d, --dump                Only write the source and expected sections",
    "      --root <DIR>          Directory searched for fixtures",
    "      --config <FILE>       JSON configuration file",
    "      --compiler <PROGRAM>  Compiler under test",
    "      --formatter <PROGRAM> Source formatter; empty for no format check",
    "      --timeout-sec <SECS>  Kill any tool that runs longer",
    "      --keep                Keep generated files of passing tests",
    "      --json-report <FILE>  Also write a JSON report",
    "  -v, --verbose             Show stages; twice: show commands",
    "  -h, --help                Print help",
    "  -V, --version             Print version"].map line

def argumentText : ArgumentError → String
  | .conflict => "arguments exclude each other"
  | .unknown => "unknown argument"
  | .noValue => "a value is missing"
  | .badNumber => "not a number"
  | .surplusValue => "a flag takes no value"
  | .help | .version => ""

def refused {φ : Type} (error : ArgumentError) (files : φ) : Ending φ :=
  let exitCode := error.exitCode
  match error with
  | .version => { exitCode, out := line s!"{name} {version}", files }
  | .help => { exitCode, out := help, files }
  | _ =>
      { exitCode, err := line s!"error: {argumentText error}" ++ "\n" ++ line usage, files }

def printed (log : Log) (areResults : Bool) : String :=
  String.join <|
    (log.entries.filter fun entry => (entry.level = .normal) = areResults).map fun entry =>
      line entry.text

def givenUp : CommandError → Nat × String × String
  | .noTests => (CommandError.noTests.exitCode, line CommandError.noTests.message, "")
  | error => (error.exitCode, "", line s!"error: {error.message}")

def ended : Except CommandError Bool → Nat × String × String
  | .ok allPassed => (Command.exitCode allPassed, "", "")
  | .error error => givenUp error

def run {φ : Type} [FileSystem φ] (arguments : List String) (tools : Config → Tools φ)
    (time : Int) (files : φ) : Ending φ :=
  match CommandLine.parse arguments with
  | .error error => refused error files
  | .ok commandLine =>
      let start : World φ := { files, log := { level := commandLine.verbosity } }
      let (result, world) := (Command.start commandLine tools time).run.run start
      let (exitCode, out, err) := ended result
      { exitCode
        out := printed world.log true ++ out
        err := printed world.log false ++ err
        files := world.files }

end Console

end GoldenSuite
