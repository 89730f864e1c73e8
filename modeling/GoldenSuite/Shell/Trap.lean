import GoldenSuite.Shell.Builtin
import GoldenSuite.Shell.Signal

set_option autoImplicit false

namespace GoldenSuite.Shell

open Text (Octets)
open Utility (say)

namespace Script

def setTrap (action : Option Octets) : List Octets → Script Unit
  | [] => setStatus 0
  | written :: rest => do
      match Signal.ofText? 0 written with
      | none =>
          writeErr (say "trap: " ++ written ++ say ": bad trap\n")
          setStatus 1
      | some signal =>
          adjust fun settings =>
            let others := settings.traps.filter (·.1 ≠ signal)
            { settings with
              traps := match action with
                | some text => (signal, text) :: others
                | none => others }
          setTrap action rest

def trapLines (traps : List (Nat × Octets)) : Octets :=
  let order := traps.mergeSort fun left right => decide (left.1 ≤ right.1)
  order.flatMap fun (signal, text) =>
    say "trap -- " ++ quoted text ++ say s!" {Signal.name signal}\n"

def setTraps (arguments : List Octets) : Script Unit := do
  match ← operands arguments with
  | [] => answer (trapLines (← settings).traps)
  | [written] => setTrap none [written]
  | action :: names =>
      if (Signal.ofNumber? action).isSome then setTrap none (action :: names)
      else setTrap (if action = ['-'] then none else some action) names

def jobOf (written : Octets) : Script Job := do
  let jobs := (← settings).jobs
  let found := match written with
    | ['%'] | ['%', '%'] | ['%', '+'] => jobs.getLast?
    | ['%', '-'] => (jobs.dropLast.getLast?).or jobs.getLast?
    | '%' :: digits =>
        if digits.all Char.isDigit then jobs.find? (·.number = Settings.number digits) else none
    | _ => none
  match found with
  | some job => return job
  | none => fail (say "No such job: " ++ written)

def endJob (signal : Nat) (process : Nat) : Script Unit := modify fun machine =>
  let change (job : Job) : Job :=
    if job.process = process && machine.clock < job.finish then
      { job with finish := machine.clock, status := 128 + signal, signal := some signal }
    else job
  let isLost (entry : Nat × Nat × ByteArray × Nat) : Bool :=
    entry.2.2.2 = process && machine.clock < entry.1
  { machine with
    late := machine.late.filter (!isLost ·)
    settings.jobs := machine.settings.jobs.map change }

/-- Sends a signal to a process, if there is one. A trap is run once the command is over. -/
def send (signal : Nat) (isGroup : Bool) (process : Nat) : Script Bool := do
  let machine ← get
  let settings := machine.settings
  let running := settings.jobs.filter fun job => machine.clock < job.finish
  let isAll := isGroup || process = 0
  if isAll && !Signal.isHarmless signal then running.forM fun job => endJob signal job.process
  if process = settings.self || process = 0 || (isGroup && process = settings.process) then
    let act (_ : Octets) : Script Unit :=
      modify fun machine =>
        { machine with sent := machine.sent ++ [(machine.clock, settings.self, signal)] }
    Signal.deliver act signal
    return true
  else if process = settings.process then
    set { machine with sent := machine.sent ++ [(machine.clock, process, signal)] }
    return true
  else if running.any (·.process = process) then
    if !Signal.isHarmless signal then endJob signal process
    return true
  else return false

def killUsage : String :=
  "Usage: kill [-s sigspec | -signum | -sigspec] [pid | job]... or\nkill -l [exitstatus]"

def tellSignals (operands : List Octets) : Script Unit := do
  match operands with
  | [] =>
      let names := (List.range Signal.last).map fun index => say (Signal.name (index + 1) ++ "\n")
      answer (say "0\n" ++ names.flatten)
  | written :: _ =>
      let number ← number written
      let signal := if 128 < number then number - 128 else number
      if signal = 0 || Signal.last < signal then
        fail (say "invalid signal number or exit status: " ++ written)
      answer (say (Signal.name signal ++ "\n"))

/-- Sends a signal to those that are named. A job is no group of its own that could be reached. -/
def sendAll (signal : Nat) (targets : List Octets) : Script Unit := do
  setStatus 0
  targets.forM fun written => do
    let isReached ← match written with
      | '%' :: _ => do
          let _ ← jobOf written
          pure false
      | '-' :: digits => do send signal true (← number digits)
      | digits => do send signal false (← number digits)
    if !isReached then
      complain (say "No such process\n")
      setStatus 1

def kill (arguments : List Octets) : Script Unit := do
  let usage {α : Type} : Script α := fail (say killUsage)
  let send (signal : Nat) (targets : List Octets) : Script Unit :=
    if targets.isEmpty then usage else sendAll signal targets
  match arguments with
  | ('-' :: name) :: targets => do
      match Signal.ofText? 1 name with
      | some signal => send signal targets
      | none =>
          let (options, operands) ← options "ls:" arguments
          if options.any (·.1 = "l") then tellSignals operands
          else match options.getLast? with
            | some (_, written) =>
                match Signal.ofText? 1 written with
                | some signal => send signal operands
                | none => fail (say "invalid signal number or name: " ++ written)
            | none => send Signal.terminate operands
  | [] => usage
  | targets => send Signal.terminate targets

end Script

end GoldenSuite.Shell
