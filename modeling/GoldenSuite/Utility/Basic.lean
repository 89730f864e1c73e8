import GoldenSuite.Disk.Change
import GoldenSuite.Text.Lines
import GoldenSuite.Text.Octets

/-!
Utilities: programs that work on a disk and their input, write to two streams and end with a status.
A task is a utility at work. It may leave early, which does not undo what it did.
-/

set_option autoImplicit false

namespace GoldenSuite.Utility

open Text (Octets)

def say (text : String) : Octets := Text.Octets.ofText text

structure Bench where
  name : String
  disk : Disk := {}
  environment : List (Octets × Octets) := []
  input : Octets := []
  isFileInput : Bool := false
  written : List (Bool × Octets) := []
  status : Nat := 0

abbrev Task := ExceptT Nat (StateM Bench)

def pathOf (octets : Octets) : Path := ⟨Text.Octets.toText octets⟩

def reason (fault : FileFault) : Octets := say fault.reason.1

def isControl (c : Char) : Bool := c.toNat < 32 || 127 ≤ c.toNat

def escapeOf (c : Char) : Octets :=
  match "\x07\x08\t\n\x0b\x0c\x0d".toList.idxOf? c with
  | some index => '\\' :: ("abtnvfr".toList.drop index).take 1
  | none =>
      let digit (place : Nat) : Char := Nat.digitChar (c.toNat / place % 8)
      ['\\', digit 64, digit 8, digit 1]

def inQuotes (name : Octets) : Octets :=
  if name.contains '\'' && !name.any "\"$`\\!".toList.contains then '"' :: name ++ ['"']
  else
    '\'' :: (name.flatMap fun c => if c = '\'' then say "'\\''" else [c]) ++ ['\'']

def controlRuns (name : Octets) : List Octets := name.splitBy fun a b => isControl a = isControl b

def quoted (name : Octets) : Octets :=
  if name.any isControl then
    let parts := (controlRuns name).map fun run =>
      if run.any isControl then say "$'" ++ run.flatMap escapeOf ++ ['\''] else inQuotes run
    (if name.head?.any isControl then say "''" else []) ++ parts.flatten
  else inQuotes name

def quotedIfNeeded (name : Octets) : Octets :=
  let isTame (c : Char) : Bool := c.isAlphanum || "%+,-./@_".toList.contains c
  if !name.isEmpty && name.all isTame then name else quoted name

def cited (text : Octets) : Octets :=
  let body := text.flatMap fun c =>
    if isControl c then escapeOf c else if c = '\'' || c = '\\' then ['\\', c] else [c]
  '\'' :: body ++ ['\'']

def decimal (number : Nat) : Octets := say (toString number)

def linesOf (octets : Octets) : List Octets :=
  (Text.linesWithEnds octets).map fun line =>
    if line.getLast? = some '\n' then line.dropLast else line

def unlines (lines : List Octets) : Octets := lines.flatMap (· ++ ['\n'])

namespace Task

def write (octets : Octets) : Task Unit :=
  modify fun bench => { bench with written := (false, octets) :: bench.written }

def writeLine (octets : Octets) : Task Unit := write (octets ++ ['\n'])

def warn (octets : Octets) : Task Unit :=
  modify fun bench => { bench with written := (true, octets) :: bench.written }

def atLeast (status : Nat) : Task Unit :=
  modify fun bench => { bench with status := max bench.status status }

def complain (text : Octets) (status : Nat := 1) : Task Unit := do
  warn (say (← get).name ++ say ": " ++ text ++ ['\n'])
  atLeast status

def leave {α : Type} (status : Nat) : Task α := throw status

def give {α : Type} (text : Octets) (status : Nat := 1) : Task α := do
  complain text status
  leave status

def misused {α : Type} (text : Octets) (status : Nat := 1) : Task α := do
  complain text status
  let name := (← get).name
  warn (say s!"Try '{name} --help' for more information.\n")
  leave status

def takeInput : Task Octets := modifyGet fun bench => (bench.input, { bench with input := [] })

def changeDisk (change : Disk → Except FileFault Disk) : Task (Except FileFault Unit) :=
  modifyGet fun bench =>
    match change bench.disk with
    | .ok disk => (.ok (), { bench with disk })
    | .error fault => (.error fault, bench)

def isInput (name : Octets) : Bool := name = say "/dev/stdin"

def contents (name : Octets) : Task (Except FileFault Octets) := do
  if isInput name then return .ok (← takeInput)
  return ((← get).disk.bytes (pathOf name)).map Text.Octets.ofBytes

def contentsOrInput (name : Octets) : Task (Except FileFault Octets) := do
  if name = ['-'] then return .ok (← takeInput) else contents name

def finished (task : Task Unit) (bench : Bench) : Bench :=
  match task.run.run bench with
  | (.error status, bench) => { bench with status }
  | (.ok (), bench) => bench

end Task

end GoldenSuite.Utility
