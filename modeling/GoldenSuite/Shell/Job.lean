import GoldenSuite.Shell.Trap

set_option autoImplicit false

namespace GoldenSuite.Shell

open Text (Octets)
open Utility (say)

namespace Script

def Job.state (job : Job) (clock : Nat) : Octets :=
  if clock < job.finish then say "Running"
  else match job.signal with
    | some signal => (Signal.report signal).dropLast
    | none => if job.status = 0 then say "Done" else say s!"Done({job.status})"

def jobWidth : Nat := 33

def tellJobs (arguments : List Octets) : Script Unit := do
  let (options, operands) ← options "lp" arguments
  if let written :: _ := operands then
    let _ ← jobOf written
  let machine ← get
  let jobs := machine.settings.jobs.reverse
  let line (job : Job) (place : Nat) : Octets :=
    let sign := if place = 0 then "+" else if place = 1 then "-" else " "
    let text := say s!"[{job.number}] {sign} " ++ Job.state job machine.clock
    text ++ List.replicate (max 1 (jobWidth - text.length)) ' ' ++ ['\n']
  let lines := jobs.zipIdx.map fun (job, place) =>
    if options.any (·.1 = "p") then Utility.decimal job.process ++ ['\n'] else line job place
  answer lines.flatten
  adjust fun settings =>
    { settings with jobs := settings.jobs.filter fun job => machine.clock < job.finish }

def resumeJob (arguments : List Octets) : Script Unit := do
  let operands ← operands arguments
  match operands with
  | [] => fail (say "No current job")
  | written :: _ =>
      let _ ← jobOf written
      fail (say "job " ++ written ++ say " not created under job control")

def waitUntil (finish : Nat) : Script (Option Nat) := do
  let machine ← get
  let self := machine.settings.self
  let early := machine.sent.filter fun (time, process, _) => process = self && time < finish
  match early with
  | (time, _, signal) :: _ =>
      wait (time - machine.clock)
      return some signal
  | [] =>
      wait (finish - machine.clock)
      return none

def waitFor (job : Job) : Script Unit := do
  match ← waitUntil job.finish with
  | some signal => setStatus (128 + signal)
  | none =>
      if let some signal := job.signal then writeErr (Signal.report signal)
      setStatus job.status

def waitForJobs (arguments : List Octets) : Script Unit := do
  match ← operands arguments with
  | [] =>
      let machine ← get
      let last := (machine.settings.jobs.map (·.finish)).foldl max machine.clock
      match ← waitUntil last with
      | some signal => setStatus (128 + signal)
      | none => setStatus 0
  | targets =>
      setStatus 127
      targets.forM fun written => do
        if written.head? = some '%' then waitFor (← jobOf written)
        else
          let process ← number written
          match (← settings).jobs.find? (·.process = process) with
          | some job => waitFor job
          | none => return

end Script

end GoldenSuite.Shell
