import GoldenSuite.Shell.Stream
import GoldenSuite.Utility.Catalogue

set_option autoImplicit false

namespace GoldenSuite.Shell

open Text (Octets)
open Utility (say)

namespace Script

def isFileInput : Script Bool := do
  let machine ← get
  return (machine.settings.streams.lookup 0).any fun channel =>
    match machine.channels[channel]? with
    | some (.file ..) => true
    | _ => false

/-- Writes what a utility wrote. Nothing can be written to a stream that is closed. -/
def publish (written : List (Bool × Octets)) : Script Bool := do
  let isOpen := (← channelOf 1).isSome
  written.reverse.forM fun (isError, octets) => writeTo (if isError then 2 else 1) octets
  return isOpen || written.all fun entry => entry.1 || entry.2.isEmpty

def work (name : String) (environment : List (Octets × Octets)) (task : Utility.Task Unit) :
    Script Unit := do
  let input ← input
  let machine ← get
  let bench := task.finished
    { name, disk := machine.disk, environment, input, isFileInput := ← isFileInput }
  modify fun machine => { machine with disk := bench.disk }
  if bench.input.length < input.length then leaveInput bench.input
  if ← publish bench.written then setStatus bench.status
  else
    writeErr (say s!"{name}: write error: Bad file descriptor\n")
    setStatus (max bench.status 1)

/-- Runs a command of the shell that only writes. What it complains of comes first. -/
def workInside (task : Utility.Task Unit) : Script Unit := do
  let name := (← heading).dropLast.dropLast
  let machine ← get
  let bench := task.finished
    { name := Text.Octets.toText name, disk := machine.disk, environment := [] }
  let (complaints, rest) := bench.written.partition (·.1)
  let _ ← publish complaints
  if ← publish rest then setStatus bench.status
  else
    let running := (machine.settings.running.getD []) ++ say ": "
    complain (running ++ say "I/O error")
    setStatus (max bench.status 1)

def answer (octets : Octets) : Script Unit := workInside (Utility.Task.write octets)

end Script

end GoldenSuite.Shell
