import GoldenSuite.Shell.Job

set_option autoImplicit false

namespace GoldenSuite.Shell

open Text (Octets)
open Utility (say)

namespace Script

def inTrap (body : Script Unit) : Script Unit := do
  let settings ← settings
  if 500 < settings.trapDepth then throw (.killed 11)
  adjust fun settings =>
    { settings with
      kept := settings.kept.or (some settings.status), trapDepth := settings.trapDepth + 1 }
  body
  adjust fun after =>
    { after with
      kept := settings.kept, trapDepth := settings.trapDepth, status := settings.status }

def answerSignals (act : Octets → Script Unit) : Script Unit := do
  let machine ← get
  if machine.sent.isEmpty then return
  let (due, rest) := machine.sent.partition fun (time, process, _) =>
    process = machine.settings.self && time ≤ machine.clock
  set { machine with sent := rest }
  due.forM fun (_, _, signal) => Signal.deliver (fun text => inTrap (act text)) signal

def statusAfter (result : Except Halt Unit) (status : Nat) : Nat :=
  match result with
  | .error (.exit status) => status % 256
  | .error (.killed signal) => 128 + signal
  | _ => status % 256

def conclude (act : Octets → Script Unit) (result : Except Halt Unit) : Script Halt := do
  match result with
  | .error (.killed signal) => return .killed signal
  | .error .overdue => return .overdue
  | .error .exhausted => return .exhausted
  | _ =>
      let status := statusAfter result (← status)
      match (← settings).traps.lookup 0 with
      | none | some [] => return .exit status
      | some text =>
          adjust fun settings =>
            { settings with
              status, kept := some status, traps := settings.traps.filter (·.1 ≠ 0) }
          match ← settle (act text) with
          | .error (.killed signal) => return .killed signal
          | .error .overdue => return .overdue
          | .error .exhausted => return .exhausted
          | .error (.exit status) => return .exit status
          | .error .failed => return .exit (← Script.status)
          | _ => return .exit status

def ownTraps (settings : Settings) : List (Nat × Octets) :=
  settings.traps.filter (·.2.isEmpty)

def inProcess (act : Octets → Script Unit) (body : Script Unit) : Script Halt := do
  let before ← get
  let process := before.processes + 1
  set { before with
    processes := process
    settings := { before.settings with
      self := process, jobs := [], kept := none, traps := ownTraps before.settings } }
  let ending ← conclude act (← settle body)
  modify fun after =>
    { after with settings := before.settings, disk.here := before.disk.here }
  return ending

def takeOver (ending : Halt) : Script Unit := do
  match ending with
  | .exit status => setStatus status
  | .killed signal =>
      writeErr (Signal.report signal)
      setStatus (128 + signal)
  | halt => throw halt

def apart (act : Octets → Script Unit) (body : Script Unit) : Script Unit := do
  takeOver (← inProcess act body)

def addBuffer : Script (Nat × Nat) := do
  let index := (← get).buffers.size
  modify fun machine => { machine with buffers := machine.buffers.push .empty }
  return (index, ← addChannel (.buffer index))

def takeBuffer (index : Nat) : Script Octets := modifyGet fun machine =>
  let data := machine.buffers[index]?.getD .empty
  (Text.Octets.ofBytes data, { machine with buffers := machine.buffers.set! index .empty })

def waitForWriters (channel : Nat) : Script Unit := do
  let machine ← get
  let times := machine.late.filterMap fun (time, target, _) =>
    if target = channel then some time else none
  let last := times.foldl max machine.clock
  if machine.clock < last then wait (last - machine.clock)
  flush (· ≤ last)

def captured (act : Octets → Script Unit) (body : Script Unit) : Script Octets := do
  let (index, channel) ← addBuffer
  let ending ← inProcess act do
    setStream 1 (some channel)
    body
  waitForWriters channel
  takeOver ending
  takeBuffer index

def goalOf (machine : Machine) (channel : Nat) : Nat :=
  match machine.channels[channel]? with
  | some (.buffer index) => (machine.held.lookup index).getD channel
  | _ => channel

def isHeldBack (machine : Machine) (channel : Nat) : Bool :=
  match machine.channels[channel]? with
  | some (.buffer _) | some (.file ..) => true
  | _ => false

def holdBack : List Nat → Script (List (Nat × Nat × Nat))
  | [] => return []
  | channel :: rest => do
      let machine ← get
      if !isHeldBack machine channel then return ← holdBack rest
      let (index, inner) ← addBuffer
      return (channel, inner, index) :: (← holdBack rest)

def freeNumber (jobs : List Job) : Nat :=
  ((List.range (jobs.length + 1)).find? fun number => !jobs.any (·.number = number + 1)).getD 0 + 1

def endless : Nat := 1000000000

/-- Runs something in the background, where no time passes for the script. What it writes is held back
until its time comes. -/
def behind (act : Octets → Script Unit) (body : Script Unit) : Script Unit := do
  let before ← get
  let streams := before.settings.streams
  let outputs := (streams.filter (·.1 ≠ 0)).map (·.2)
  let held ← holdBack outputs.eraseDups
  let nowhere ← addChannel .nowhere
  modify fun machine =>
    { machine with
      limit := none
      held := held.map fun (channel, _, index) => (index, goalOf before channel) }
  let process := before.processes + 1
  let ending ← inProcess act do
    let inner (channel : Nat) : Nat :=
      ((held.find? (·.1 = channel)).map (·.2.1)).getD channel
    adjust fun settings =>
      { settings with
        streams := (0, nowhere) :: (settings.streams.filter (·.1 ≠ 0)).map fun (stream, channel) =>
          (stream, inner channel) }
    body
    postpone
  postpone
  modify fun after =>
    let isOver := match ending with
      | .exhausted | .overdue => false
      | _ => true
    let finish := if isOver then after.clock else after.clock + endless
    let signal := match ending with
      | .killed signal => some signal
      | _ => none
    let status := match ending with
      | .exit status => status
      | .killed signal => 128 + signal
      | _ => 0
    let ends := held.map fun (channel, _) => (finish, goalOf before channel, ByteArray.empty, process)
    let jobs := after.settings.jobs
    { after with
      clock := before.clock, limit := before.limit, held := before.held
      late := after.late ++ ends
      settings.latest := some process
      settings.status := 0
      settings.jobs := jobs ++ [⟨freeNumber jobs, process, finish, status, signal⟩] }

def detached (body : Script Unit) : Script Unit := do
  let wasDetached := (← get).isDetached
  modify fun machine => { machine with isDetached := true }
  let result ← settle body
  modify fun machine =>
    { machine with isDetached := wasDetached, heldUntil := max machine.heldUntil machine.clock }
  resume result

def within (act : Octets → Script Unit) (time : Nat) (body : Script Unit) :
    Script (Except Unit Halt) := do
  let before ← get
  let finish := before.clock + time
  let isSooner := before.limit.all (finish < ·)
  modify fun machine => { machine with limit := if isSooner then some finish else before.limit }
  let ending ← inProcess act body
  modify fun machine => { machine with limit := before.limit }
  match ending with
  | .overdue | .exhausted =>
      if !isSooner then throw ending
      modify fun machine => { machine with clock := finish }
      return .error ()
  | ending => return .ok ending

end Script

end GoldenSuite.Shell
