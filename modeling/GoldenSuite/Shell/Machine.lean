import GoldenSuite.Shell.Syntax
import GoldenSuite.Utility.Basic

/-!
A running script: the disk it acts on, its settings, where its streams lead, and the time it has
taken. A script is stopped when its time is up.
-/

set_option autoImplicit false

namespace GoldenSuite.Shell

open Text (Octets)
open Utility (say)

inductive Halt where
  | exit (status : Nat)
  | failed
  | killed (signal : Nat)
  | overdue
  | exhausted
  | leave (levels : Nat)
  | again (levels : Nat)
  | back
  deriving DecidableEq, Repr

inductive Channel where
  | buffer (index : Nat)
  | file (place : Place) (offset : Nat) (appends : Bool)
  | text (rest : Octets)
  | nowhere
  deriving DecidableEq, Inhabited

structure Binding where
  value : Option Octets := none
  isExported : Bool := false
  isReadOnly : Bool := false
  deriving DecidableEq, Repr

structure Job where
  number : Nat
  process : Nat
  finish : Nat
  status : Nat
  signal : Option Nat := none
  deriving DecidableEq, Repr

structure Settings where
  title : Octets := "sh".toList
  arguments : List Octets := []
  bindings : List (Octets × Binding) := []
  functions : List (Octets × Command) := []
  aliases : List (Octets × Octets) := []
  flags : List Char := []
  status : Nat := 0
  yielded : Nat := 0
  process : Nat := 2
  self : Nat := 2
  latest : Option Nat := none
  jobs : List Job := []
  streams : List (Nat × Nat) := [(0, 0), (1, 1), (2, 2)]
  traps : List (Nat × Octets) := []
  scopes : List (List (Octets × Option Binding)) := []
  line : Nat := 0
  running : Option Octets := none
  loops : Nat := 0
  documents : Array Word := #[]
  kept : Option Nat := none
  optionIndex : Nat := 1
  optionOffset : Nat := 0
  directory : Octets := ['/']
  tracked : List (Octets × Octets) := []
  depth : Nat := 0
  trapDepth : Nat := 0
  mask : Nat := 0o022
  deriving Inhabited

structure Machine where
  disk : Disk
  settings : Settings := {}
  channels : Array Channel := #[.nowhere, .buffer 0, .buffer 1]
  buffers : Array ByteArray := #[.empty, .empty]
  clock : Nat := 0
  limit : Option Nat := none
  processes : Nat := 2
  held : List (Nat × Nat) := []
  late : List (Nat × Nat × ByteArray × Nat) := []
  sent : List (Nat × Nat × Nat) := []
  isDetached : Bool := false
  heldUntil : Nat := 0
  steps : Nat := 0

abbrev Script := ExceptT Halt (StateM Machine)

def stepLimit : Nat := 400000

namespace Script

def settings : Script Settings := do return (← get).settings

def adjust (change : Settings → Settings) : Script Unit :=
  modify fun machine => { machine with settings := change machine.settings }

def setStatus (status : Nat) : Script Unit :=
  modify fun machine => { machine with settings.status := status }

def status : Script Nat := do return (← get).settings.status

def settle {α : Type} (body : Script α) : Script (Except Halt α) := ExceptT.lift body.run

def resume {α : Type} : Except Halt α → Script α
  | .ok value => return value
  | .error halt => throw halt

def overwritten (old : ByteArray) (offset : Nat) (data : ByteArray) : ByteArray :=
  if offset = old.size then old ++ data
  else
    let front := old.extract 0 offset
    let gap : ByteArray := ⟨Array.replicate (offset - old.size) 0⟩
    front ++ gap ++ data ++ old.extract (offset + data.size) old.size

def putBytes (channel : Nat) (data : ByteArray) (machine : Machine) : Machine :=
  match machine.channels[channel]? with
  | some (.buffer index) => { machine with buffers := machine.buffers.modify index (· ++ data) }
  | some (.file place offset appends) =>
      match machine.disk.node? place with
      | some (.file old _) =>
          let offset := if appends then old.size else offset
          { machine with
            disk := machine.disk.fill place (overwritten old offset data)
            channels :=
              machine.channels.set! channel (.file place (offset + data.size) appends) }
      | _ => machine
  | _ => machine

def put (channel : Nat) (octets : Octets) : Script Unit :=
  if octets.isEmpty then return
  else modify (putBytes channel (Text.Octets.toBytes octets))

def channelOf (stream : Nat) : Script (Option Nat) := do
  return (← settings).streams.lookup stream

def writeTo (stream : Nat) (octets : Octets) : Script Unit := do
  match ← channelOf stream with
  | some channel => put channel octets
  | none => return

def writeOut (octets : Octets) : Script Unit := writeTo 1 octets

def writeErr (octets : Octets) : Script Unit := writeTo 2 octets

def contents (machine : Machine) (channel : Nat) : Octets :=
  match machine.channels[channel]? with
  | some (.text rest) => rest
  | some (.file place offset _) =>
      match machine.disk.node? place with
      | some (.file data _) => Text.Octets.ofBytes (data.extract offset data.size)
      | _ => []
  | _ => []

def leaveIn (channel : Nat) (left : Octets) (machine : Machine) : Machine :=
  match machine.channels[channel]? with
  | some (.text _) => { machine with channels := machine.channels.set! channel (.text left) }
  | some (.file place offset appends) =>
      match machine.disk.node? place with
      | some (.file data _) =>
          let offset := max offset (data.size - left.length)
          { machine with channels := machine.channels.set! channel (.file place offset appends) }
      | _ => machine
  | _ => machine

def flush (isDue : Nat → Bool) : Script Unit := modify fun machine =>
  if machine.late.isEmpty then machine
  else
    let (due, rest) := machine.late.partition fun entry => isDue entry.1
    let order := due.mergeSort fun left right => decide (left.1 ≤ right.1)
    order.foldl (fun machine entry => putBytes entry.2.1 entry.2.2.1 machine)
      { machine with late := rest }

def postpone : Script Unit := modify fun machine =>
  machine.held.foldl (fun machine (index, channel) =>
    let data := machine.buffers[index]?.getD .empty
    if data.isEmpty then machine
    else
      let entry := (machine.clock, channel, data, machine.settings.self)
      { machine with
        buffers := machine.buffers.set! index .empty, late := machine.late ++ [entry] }) machine

def wait (time : Nat) : Script Unit := do
  postpone
  modify fun machine =>
    let clock := machine.clock + time
    { machine with
      clock
      heldUntil := if machine.isDetached then max machine.heldUntil clock else machine.heldUntil }
  let machine ← get
  if machine.held.isEmpty then
    flush fun time => time ≤ machine.clock && machine.limit.all (time < ·)
  if machine.limit.any (· ≤ machine.clock) then throw .overdue

def count : Script Unit := do
  let machine ← get
  if stepLimit < machine.steps then throw .exhausted
  set { machine with steps := machine.steps + 1 }

def heading : Script Octets := do
  let settings ← settings
  let running := match settings.running with
    | some name => name ++ say ": "
    | none => []
  return settings.title ++ say s!": {settings.line}: " ++ running

def complain (octets : Octets) : Script Unit := do
  writeErr ((← heading) ++ octets ++ ['\n'])

def fail {α : Type} (octets : Octets) (status : Nat := 2) : Script α := do
  complain octets
  setStatus status
  throw .failed

end Script

end GoldenSuite.Shell
