import GoldenSuite.Config
import GoldenSuite.Log
import GoldenSuite.VersionPair

set_option autoImplicit false

namespace GoldenSuite

inductive ArgumentError where
  | conflict
  | unknown
  | noValue
  | badNumber
  | surplusValue
  | help
  | version
  deriving DecidableEq, Repr

def ArgumentError.exitCode : ArgumentError → Nat
  | help | version => 0
  | _ => 2

inductive UsageError where
  | versions (error : VersionError)
  | zeroTimeout
  | blankCompiler
  deriving DecidableEq, Repr

def UsageError.message : UsageError → String
  | versions error => error.message
  | zeroTimeout => "timeout-sec must be at least 1, got 0"
  | blankCompiler => "compiler must not be empty"

inductive Mode where
  | run
  | update
  | dump
  | clean
  deriving DecidableEq, Repr

def Mode.name : Mode → String
  | run => "run"
  | update => "update"
  | dump => "dump"
  | clean => "clean"

structure Choice where
  versions : Option VersionPair
  filters : List String
  deriving DecidableEq, Repr

structure CommandLine where
  clean : Bool := false
  update : Bool := false
  dump : Bool := false
  root : Path := ⟨"."⟩
  config : Option Path := none
  compiler : Option String := none
  -- An empty formatter turns the format check off.
  formatter : Option String := none
  timeout : Option Nat := none
  keep : Bool := false
  report : Option Path := none
  verbose : Nat := 0
  words : List String := []
  deriving DecidableEq, Repr

namespace CommandLine

inductive Flag where
  | clean
  | update
  | dump
  | keep
  | verbose
  | help
  | version
  deriving DecidableEq, Repr

inductive Setting where
  | root
  | config
  | compiler
  | formatter
  | timeout
  | report
  deriving DecidableEq, Repr

inductive OptionName where
  | flag (flag : Flag)
  | setting (setting : Setting)
  deriving DecidableEq, Repr

def longOption? : String → Option OptionName
  | "clean" => some (.flag .clean)
  | "update" => some (.flag .update)
  | "dump" => some (.flag .dump)
  | "keep" => some (.flag .keep)
  | "verbose" => some (.flag .verbose)
  | "help" => some (.flag .help)
  | "version" => some (.flag .version)
  | "root" => some (.setting .root)
  | "config" => some (.setting .config)
  | "compiler" => some (.setting .compiler)
  | "formatter" => some (.setting .formatter)
  | "timeout-sec" => some (.setting .timeout)
  | "json-report" => some (.setting .report)
  | _ => none

def shortFlag? : Char → Option Flag
  | 'c' => some .clean
  | 'u' => some .update
  | 'd' => some .dump
  | 'v' => some .verbose
  | 'h' => some .help
  | 'V' => some .version
  | _ => none

structure Draft where
  line : CommandLine := {}
  given : List OptionName := []
  pending : Option (Setting × Option String) := none

def verboseLimit : Nat := 255

def number? (text : String) : Option Nat :=
  let digits := match text.toList with
    | '+' :: rest => rest
    | all => all
  if digits.isEmpty || !digits.all Char.isDigit then none
  else
    let value := digits.foldl (fun sum c => sum * 10 + (c.toNat - '0'.toNat)) 0
    if value < Nat.pow 2 64 then some value else none

def givenPath (value : String) : Except ArgumentError Path :=
  if value.isEmpty then .error .noValue else .ok ⟨value⟩

def withSetting (line : CommandLine) (value : String) :
    Setting → Except ArgumentError CommandLine
  | .root => return { line with root := ← givenPath value }
  | .config => return { line with config := some (← givenPath value) }
  | .compiler => return { line with compiler := some value }
  | .formatter => return { line with formatter := some value }
  | .timeout =>
      match number? value with
      | some seconds => return { line with timeout := some seconds }
      | none => .error .badNumber
  | .report => return { line with report := some (← givenPath value) }

def withFlag (line : CommandLine) : Flag → Except ArgumentError CommandLine
  | .clean => .ok { line with clean := true }
  | .update => .ok { line with update := true }
  | .dump => .ok { line with dump := true }
  | .keep => .ok { line with keep := true }
  | .verbose => .ok { line with verbose := min (line.verbose + 1) verboseLimit }
  | .help => .error .help
  | .version => .error .version

namespace Draft

def give (draft : Draft) (option : OptionName) (line : CommandLine) : Draft :=
  { draft with line := line, given := option :: draft.given, pending := none }

def set (draft : Draft) (setting : Setting) (value : String) : Except ArgumentError Draft :=
  if .setting setting ∈ draft.given then .error .conflict
  else return draft.give (.setting setting) (← withSetting draft.line value setting)

def settle (draft : Draft) : Except ArgumentError Draft :=
  match draft.pending with
  | none => .ok draft
  | some (_, none) => .error .noValue
  | some (setting, some value) => draft.set setting value

def raise (draft : Draft) (flag : Flag) : Except ArgumentError Draft := do
  let draft ← draft.settle
  if .flag flag ∈ draft.given && flag ≠ .verbose then .error .conflict
  else return draft.give (.flag flag) (← withFlag draft.line flag)

def raiseShort (draft : Draft) : List Char → Except ArgumentError Draft
  | [] => .ok draft
  | letter :: letters =>
      match shortFlag? letter with
      | some flag => do raiseShort (← draft.raise flag) letters
      | none => .error .unknown

def giveLong (draft : Draft) (text : List Char) : Except ArgumentError Draft :=
  let name := text.takeWhile (· ≠ '=')
  let value? := match text.dropWhile (· ≠ '=') with
    | _ :: value => some (String.ofList value)
    | [] => none
  match longOption? (String.ofList name), value? with
  | none, _ => .error .unknown
  | some (.flag _), some _ => .error .surplusValue
  | some (.flag flag), none => draft.raise flag
  | some (.setting setting), some value => do (← draft.settle).set setting value
  | some (.setting setting), none => do
      return { (← draft.settle) with pending := some (setting, none) }

def addWords (draft : Draft) (words : List String) : Except ArgumentError Draft := do
  let draft ← draft.settle
  return { draft with line := { draft.line with words := draft.line.words ++ words } }

def add (draft : Draft) (argument : String) : Except ArgumentError Draft :=
  match argument.toList with
  | '-' :: '-' :: rest => draft.giveLong rest
  | '-' :: letter :: letters => draft.raiseShort (letter :: letters)
  | _ =>
      match draft.pending with
      | some (setting, none) => .ok { draft with pending := some (setting, some argument) }
      | _ => draft.addWords [argument]

def addAll (draft : Draft) : List String → Except ArgumentError Draft
  | [] => draft.settle
  | argument :: arguments => do
      if argument = "--" then draft.addWords arguments
      else addAll (← draft.add argument) arguments

end Draft

def modeFlags (line : CommandLine) : Nat :=
  [line.clean, line.update, line.dump].countP id

def parse (arguments : List String) : Except ArgumentError CommandLine := do
  let draft ← Draft.addAll {} arguments
  if 1 < draft.line.modeFlags then .error .conflict else return draft.line

def mode (line : CommandLine) : Mode :=
  if line.clean then .clean else if line.update then .update
  else if line.dump then .dump else .run

def verbosity (line : CommandLine) : Verbosity := Verbosity.ofCount line.verbose

def choice (line : CommandLine) : Except UsageError Choice :=
  match line.words with
  | [] => .ok ⟨none, []⟩
  | first :: rest =>
      if first.toList.head? = some '+' then
        match VersionPair.parse first with
        | .ok pair => .ok ⟨some pair, rest⟩
        | .error error => .error (.versions error)
      else .ok ⟨none, line.words⟩

def validate (line : CommandLine) : Except UsageError Unit :=
  if line.timeout = some 0 then .error .zeroTimeout
  else if line.compiler.any Text.allBlank then .error .blankCompiler
  else do
    let _ ← line.choice
    return

def override (line : CommandLine) (config : Config) : Config :=
  { config with
    compiler := line.compiler.getD config.compiler
    formatter := match line.formatter with
      | some formatter => if formatter.isEmpty then none else some formatter
      | none => config.formatter
    timeout := line.timeout.or config.timeout }

end CommandLine

end GoldenSuite
