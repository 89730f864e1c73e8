import GoldenSuite.Shell.Run
import GoldenSuite.World

set_option autoImplicit false

namespace GoldenSuite.Shell

open Text (Octets)
open Utility (say)

def fuel : Nat := 1000000

def grace : Nat := 200

def surroundings : Environment := [(say "PATH", Program.commonPath), (say "HOME", say "/root")]

def exitOf (status : Nat) : Except Halt Unit → Exit
  | .error (.exit status) => .status status
  | .error (.killed signal) => .signal (some signal)
  | .error .overdue | .error .exhausted => .timedOut
  | .ok () | .error _ => .status status

def isLost (machine : Machine) (exit : Exit) : Bool :=
  exit = .timedOut && machine.limit.any (· + grace < machine.heldUntil)

/-- What commands in the background write once the program has ended. A program that is stopped takes
them with it. -/
def withRest (exit : Exit) (machine : Machine) : Machine :=
  if exit = .timedOut then machine
  else ((Script.flush fun _ => true).run.run machine).2

def outputOf (result : Except Halt Unit) (machine : Machine) : Output :=
  let exit := exitOf machine.settings.status result
  let machine := withRest exit machine
  let written (index : Nat) : String :=
    if isLost machine exit then ""
    else Text.Utf8.lenient (machine.buffers[index]?.getD .empty)
  ⟨exit, written 0, written 1⟩

def holdsNul (invocation : Invocation) : Bool :=
  (invocation.program :: invocation.args).any fun text => text.toList.contains '\x00'

def pathOf (disk : Disk) (program : String) : Except String Octets :=
  match Program.find disk Program.commonPath (say program) with
  | .ok (_, .script) => .error "Exec format error (os error 8)"
  | .ok (path, _) => .ok path
  | .error fault => .error fault.message

def launch (limit : Option Nat) (invocation : Invocation) (disk : Disk) :
    Except LaunchError Output × Disk :=
  if holdsNul invocation then
    (.error ⟨invocation.program, "nul byte found in provided data", .launch⟩, disk)
  else
    match pathOf disk invocation.program with
    | .error cause => (.error ⟨invocation.program, cause, .launch⟩, disk)
    | .ok path =>
        let script : Script Unit := do
          Script.wait 0
          Script.runFile fuel surroundings (say invocation.program) path (invocation.args.map say)
        let (result, machine) := script.run.run { disk, limit }
        (.ok (outputOf result machine), { machine.disk with here := disk.here })

def tools (config : Config) : Tools Disk := fun _ => launch (config.timeout.map (· * 1000))

end GoldenSuite.Shell
