import GoldenSuite.Shell.Machine

set_option autoImplicit false

namespace GoldenSuite.Shell

open Text (Octets)
open Utility (say)

namespace Signal

def names : List String :=
  ["HUP", "INT", "QUIT", "ILL", "TRAP", "ABRT", "BUS", "FPE", "KILL", "USR1", "SEGV", "USR2",
    "PIPE", "ALRM", "TERM", "16", "CHLD", "CONT", "STOP", "TSTP", "TTIN", "TTOU", "URG", "XCPU",
    "XFSZ", "VTALRM", "PROF", "WINCH", "IO", "PWR", "SYS", "32", "33"]

def last : Nat := 64

def name (signal : Nat) : String :=
  if signal = 0 then "EXIT"
  else match names[signal - 1]? with
    | some name => name
    | none =>
        if signal = 34 then "RTMIN" else if signal < 50 then s!"RTMIN+{signal - 34}"
        else if signal < last then s!"RTMAX-{last - signal}" else "RTMAX"

def descriptions : List (String × String) :=
  [("HUP", "Hangup"), ("QUIT", "Quit"), ("ILL", "Illegal instruction"),
    ("TRAP", "Trace/breakpoint trap"), ("ABRT", "Aborted"), ("BUS", "Bus error"),
    ("FPE", "Floating point exception"), ("KILL", "Killed"), ("USR1", "User defined signal 1"),
    ("SEGV", "Segmentation fault"), ("USR2", "User defined signal 2"), ("ALRM", "Alarm clock"),
    ("TERM", "Terminated"), ("16", "Stack fault"), ("XCPU", "CPU time limit exceeded"),
    ("XFSZ", "File size limit exceeded"), ("VTALRM", "Virtual timer expired"),
    ("PROF", "Profiling timer expired"), ("IO", "I/O possible"), ("PWR", "Power failure"),
    ("SYS", "Bad system call")]

def report (signal : Nat) : Octets :=
  match descriptions.lookup (name signal) with
  | some text => say text ++ ['\n']
  | none => if 34 ≤ signal then say s!"Real-time signal {signal - 34}\n" else []

def kill : Nat := 9

def terminate : Nat := 15

def brokenPipe : Nat := 13

def stop : Nat := 19

def ofNumber? (written : Octets) : Option Nat :=
  if !written.isEmpty && written.all Char.isDigit then
    (String.ofList written).toNat?.filter (· ≤ last)
  else none

def ofText? (least : Nat) (written : Octets) : Option Nat :=
  match ofNumber? written with
  | some signal => some signal
  | none =>
      let wanted := written.map Char.toUpper
      ((List.range (last + 1)).drop least).find? fun signal => (name signal).toList = wanted

def isHarmless (signal : Nat) : Bool := [0, 17, 18, 23, 28].contains signal

def holdsUp (signal : Nat) : Bool := [19, 20, 21, 22].contains signal

def canBeTrapped (signal : Nat) : Bool := signal ≠ kill && signal ≠ stop

def deliver (act : Octets → Script Unit) (signal : Nat) : Script Unit := do
  let settings ← Script.settings
  match if canBeTrapped signal then settings.traps.lookup signal else none with
  | some [] => return
  | some text => act text
  | none =>
      if isHarmless signal then return
      else if holdsUp signal then throw .overdue
      else throw (.killed signal)

end Signal

end GoldenSuite.Shell
