import GoldenSuite.Shell.Binding

set_option autoImplicit false

namespace GoldenSuite.Shell

open Text (Octets)
open Utility (say)

namespace Script

def refusal (opening : Opening) (name : Octets) (fault : FileFault) : Octets :=
  let (verb, absent) : String × String :=
    if opening = .read then ("cannot open ", "No such file")
    else ("cannot create ", "Directory nonexistent")
  let reason := match fault with
    | .noEntry | .notDirectory => say absent
    | _ => Utility.reason fault
  say verb ++ name ++ say ": " ++ reason

def openFile (disk : Disk) (mask : Nat) (keeps : Bool) (opening : Opening) (name : Octets) :
    Except FileFault (Disk × Channel) := do
  let place ← disk.locate (Utility.pathOf name)
  if place = Disk.nullDevice then return (disk, .nowhere)
  let made := disk.set place (.file .empty (0o666 &&& (0o777 - mask)))
  match opening, disk.node? place with
  | .read, none => throw .noEntry
  | .read, some _ => return (disk, .file place 0 false)
  | _, some .directory => throw .isDirectory
  | .write, some (.file ..) =>
      if keeps then throw .alreadyExists
      return (disk.fill place .empty, .file place 0 false)
  | .force, some (.file ..) => return (disk.fill place .empty, .file place 0 false)
  | .append, some (.file ..) => return (disk, .file place 0 true)
  | .both, some (.file ..) => return (disk, .file place 0 false)
  | .append, _ => return (made, .file place 0 true)
  | _, _ => return (made, .file place 0 false)

def addChannel (channel : Channel) : Script Nat :=
  modifyGet fun machine =>
    (machine.channels.size, { machine with channels := machine.channels.push channel })

def setStream (stream : Nat) (channel : Option Nat) : Script Unit :=
  adjust fun settings =>
    let others := settings.streams.filter (·.1 ≠ stream)
    { settings with
      streams := match channel with
        | some channel => (stream, channel) :: others
        | none => others }

def streamOfDevice? (name : Octets) : Option Nat :=
  match String.ofList name with
  | "/dev/stdin" => some 0
  | "/dev/stdout" => some 1
  | "/dev/stderr" => some 2
  | text =>
      let front := "/dev/fd/".toList
      if front.isPrefixOf name then ((text.drop front.length).toString).toNat? else none

def lead (stream : Nat) (opening : Opening) (name : Octets) : Script Unit := do
  if let some source := streamOfDevice? name then
    match ← channelOf source with
    | some channel => return ← setStream stream (some channel)
    | none => fail (refusal opening name .noEntry)
  let machine ← get
  let settings := machine.settings
  match openFile machine.disk settings.mask (settings.has 'C') opening name with
  | .error fault => fail (refusal opening name fault)
  | .ok (disk, channel) =>
      set { machine with disk }
      setStream stream (some (← addChannel channel))

def copyStream (stream : Nat) (source : Option Nat) : Script Unit := do
  match source with
  | none => setStream stream none
  | some source =>
      match ← channelOf source with
      | some channel => setStream stream (some channel)
      | none => fail (Utility.decimal source ++ say ": Bad file descriptor")

def sourceOf (written : Octets) : Script (Option Nat) := do
  match written with
  | ['-'] => return none
  | [c] =>
      if c.isDigit then return some (c.toNat - '0'.toNat)
      fail (say "Syntax error: Bad fd number")
  | _ => fail (say "Syntax error: Bad fd number")

def input : Script Octets := do
  match ← channelOf 0 with
  | some channel => return contents (← get) channel
  | none => return []

def leaveInput (left : Octets) : Script Unit := do
  match ← channelOf 0 with
  | some channel => modify (leaveIn channel left)
  | none => return

end Script

end GoldenSuite.Shell
