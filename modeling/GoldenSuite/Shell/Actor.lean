import GoldenSuite.Decimal.Numeral
import GoldenSuite.Shell.Directory
import GoldenSuite.Shell.Process
import GoldenSuite.Shell.Program

set_option autoImplicit false

namespace GoldenSuite.Shell

open Text (Octets)
open Utility (say Choice Form)

abbrev Environment := List (Octets × Octets)

abbrev Becoming := Environment → Octets → Octets → List Octets → Script Unit

namespace Actor

def tell (name : String) (text : Octets) : Script Unit :=
  Script.writeErr (say name ++ say ": " ++ text ++ ['\n'])

def misused {α : Type} (name : String) (status : Nat) (texts : List Octets) : Script α := do
  texts.forM (tell name)
  Script.writeErr (say s!"Try '{name} --help' for more information.\n")
  throw (.exit status)

def choose (name : String) (form : Form) (arguments : List Octets) : Script Choice := do
  match form.read arguments with
  | .ok choice => return choice
  | .error fault => misused name form.status [fault.message]

def interval? (written : Octets) : Option Nat := do
  let scale := match written.getLast? with
    | some 'm' => 60
    | some 'h' => 3600
    | some 'd' => 86400
    | _ => 1
  let isHexadecimal := (written.take 2).map Char.toLower = ['0', 'x']
  let isScaled := written.getLast?.any fun c =>
    ['s', 'm', 'h'].contains c || (c = 'd' && !isHexadecimal)
  let digits := if isScaled then written.dropLast else written
  let scale := if isScaled then scale else 1
  match Numeral.size? digits with
  | some (isNegative, .finite num den, []) =>
      if isNegative && num ≠ 0 then none else some (num * 1000 * scale / den)
  | some (false, .infinite, []) => some (1000 * Script.endless)
  | _ => none

def sleep (arguments : List Octets) : Script Unit := do
  let choice ← choose "sleep" (Form.of "") arguments
  if choice.operands.isEmpty then misused "sleep" 1 [say "missing operand"]
  let wrong := choice.operands.filter (interval? · = none)
  if !wrong.isEmpty then
    misused "sleep" 1 (wrong.map fun written =>
      say "invalid time interval '" ++ written ++ ['\''])
  Script.wait ((choice.operands.filterMap interval?).foldl (· + ·) 0)
  Script.setStatus 0

def flood : Nat := 200000

def yes (arguments : List Octets) : Script Unit := do
  let choice ← choose "yes" (Form.of "") arguments
  let words := if choice.operands.isEmpty then [['y']] else choice.operands
  let line := (words.intersperse [' ']).flatten ++ ['\n']
  Script.writeOut (List.replicate (flood / line.length + 1) line).flatten
  throw (.killed Signal.brokenPipe)

def searchPath (environment : Environment) : Octets :=
  (environment.lookup (say "PATH")).getD (say "/bin:/usr/bin")

def statusOf (fault : FileFault) : Nat := if fault = .noEntry then 127 else 126

def become (run : Becoming) (environment : Environment) (refuse : Octets → FileFault → Octets)
    (self : String) (command : List Octets) : Script Unit := do
  match command with
  | [] => return
  | name :: arguments =>
      match Program.find (← get).disk (searchPath environment) name with
      | .ok (path, _) => run environment name path arguments
      | .error fault =>
          tell self (refuse name fault)
          throw (.exit (statusOf fault))

def refusal (name : Octets) (fault : FileFault) : Octets :=
  Utility.quoted name ++ say ": " ++ Utility.reason fault

def longRefusal (name : Octets) (fault : FileFault) : Octets :=
  say "failed to run command " ++ refusal name fault

def takeSettings : List Octets → Environment × List Octets
  | [] => ([], [])
  | word :: rest =>
      let name := word.takeWhile (· ≠ '=')
      if name.length < word.length then
        let (settings, command) := takeSettings rest
        ((name, word.drop (name.length + 1)) :: settings, command)
      else ([], word :: rest)

def put (environment : Environment) (entry : Octets × Octets) : Environment :=
  if environment.any (·.1 = entry.1) then
    environment.map fun held => if held.1 = entry.1 then entry else held
  else environment ++ [entry]

def env (run : Becoming) (environment : Environment) (arguments : List Octets) :
    Script Unit := do
  let form : Form :=
    { Form.of "iu:C:0vS:" [("ignore-environment", "i"), ("unset:", "u"), ("chdir:", "C"),
        ("null", "0"), ("debug", "v"), ("split-string:", "S")] with isOrdered := true, status := 125 }
  let choice ← choose "env" form arguments
  let isBare := choice.operands.head? = some ['-']
  let split := (choice.values "S").flatMap fun text => (text.splitOnP (· = ' ')).filter (· ≠ [])
  let operands := split ++ if isBare then choice.operands.tail else choice.operands
  let kept := if choice.has "i" || isBare then [] else environment
  let removed := choice.values "u"
  if let some name := removed.find? fun name => name.isEmpty || name.contains '=' then
    tell "env" (say "cannot unset " ++ Utility.quoted name ++ say ": Invalid argument")
    throw (.exit 125)
  let (settings, command) := takeSettings operands
  let environment := settings.foldl put (kept.filter fun entry => !removed.contains entry.1)
  if let some directory := choice.last? "C" then
    if !(← Script.enter false directory) then
      tell "env" (say "cannot change directory to " ++ Utility.quoted directory
        ++ say ": No such file or directory")
      throw (.exit 125)
  if command.isEmpty then
    let ending := if choice.has "0" then '\x00' else '\n'
    Script.writeOut (environment.flatMap fun (name, value) => name ++ '=' :: value ++ [ending])
    Script.setStatus 0
  else become run environment refusal "env" command

def numberOption : Octets → Octets
  | '-' :: c :: rest => if c.isDigit then '-' :: 'n' :: c :: rest else '-' :: c :: rest
  | argument => argument

def nice (run : Becoming) (environment : Environment) (arguments : List Octets) :
    Script Unit := do
  let form : Form :=
    { Form.of "n:" [("adjustment:", "n")] with isOrdered := true, status := 125 }
  let choice ← choose "nice" form
    (match arguments with
      | first :: rest => numberOption first :: rest
      | [] => [])
  if let some written := choice.last? "n" then
    let digits := if written.head?.any "-+".toList.contains then written.tail else written
    if digits.isEmpty || !digits.all Char.isDigit then
      tell "nice" (say "invalid adjustment '" ++ written ++ ['\''])
      throw (.exit 125)
  if choice.operands.isEmpty then
    Script.writeOut (say "0\n")
    Script.setStatus 0
  else become run environment refusal "nice" choice.operands

def nohup (run : Becoming) (environment : Environment) (arguments : List Octets) :
    Script Unit := do
  let choice ← choose "nohup" { Form.of "" with isOrdered := true, status := 125 } arguments
  if choice.operands.isEmpty then misused "nohup" 125 [say "missing operand"]
  Script.adjust fun settings => { settings with traps := (1, []) :: settings.traps }
  become run environment longRefusal "nohup" choice.operands

/-- Runs a program out of reach. One that is the first of those in reach goes on behind. -/
def setsid (run : Becoming) (environment : Environment) (arguments : List Octets) :
    Script Unit := do
  let form : Form :=
    { Form.of "cfw" [("ctty", "c"), ("fork", "f"), ("wait", "w")] with isOrdered := true }
  let choice ← choose "setsid" form arguments
  if choice.operands.isEmpty then misused "setsid" 1 [say "no command specified"]
  let refuse (name : Octets) (fault : FileFault) : Octets :=
    say "failed to execute " ++ name ++ say ": " ++ Utility.reason fault
  let machine ← get
  let isFirst := machine.limit.isSome && machine.processes = 2
  let body := become run environment refuse "setsid" choice.operands
  if (isFirst || choice.has "f") && !choice.has "w" then
    Script.behind (fun _ => return) body
    Script.setStatus 0
  else Script.detached body

def timeout (run : Becoming) (environment : Environment) (arguments : List Octets) :
    Script Unit := do
  let form : Form :=
    { Form.of "fvk:ps:" [("foreground", "f"), ("preserve-status", "p"), ("kill-after:", "k"),
        ("signal:", "s"), ("verbose", "v")] with isOrdered := true, status := 125 }
  let choice ← choose "timeout" form arguments
  let wrong (written : Octets) : List Octets :=
    [say "invalid time interval '" ++ written ++ ['\'']]
  if let some written := choice.last? "k" then
    if (interval? written).isNone then misused "timeout" 125 (wrong written)
  let signal ← match choice.last? "s" with
    | none => pure Signal.terminate
    | some written =>
        let bare := if (say "SIG").isPrefixOf written then written.drop 3 else written
        match Signal.ofText? 0 bare with
        | some signal => pure signal
        | none => misused "timeout" 125 [Utility.quoted written ++ say ": invalid signal"]
  match choice.operands with
  | [] | [_] => misused "timeout" 125 []
  | written :: command =>
      let time ← match interval? written with
        | some time => pure time
        | none => misused "timeout" 125 (wrong written)
      let body := become run environment longRefusal "timeout" command
      let limit := if time = 0 then Script.endless * 1000 else time
      match ← Script.within (fun _ => return) limit body with
      | .ok (.exit status) => Script.setStatus status
      | .ok halt => throw halt
      | .error () =>
          if choice.has "v" then
            tell "timeout" (say s!"sending signal {Signal.name signal} to command "
              ++ Utility.quoted (command.head?.getD []))
          if signal = Signal.kill then throw (.killed signal)
          Script.setStatus (if choice.has "p" then 128 + signal else 124)

end Actor

end GoldenSuite.Shell
