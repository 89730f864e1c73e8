import GoldenSuite.Utility.Editor.Reader
import GoldenSuite.Utility.Editor.Replacement
import GoldenSuite.Utility.Files

set_option autoImplicit false

namespace GoldenSuite.Utility.Editor

open Text (Octets)

structure Manner where
  script : Script
  blocks : List (Nat × Nat) := []
  isSilent : Bool := false
  isSeparate : Bool := false
  inPlace : Option Octets := none
  delimiter : Char := '\n'
  width : Nat := 70
  lament : Octets := []

def openSteps (script : Script) : List (Nat × Option Nat) :=
  script.steps.toList.zipIdx.filterMap fun (step, index) =>
    match step.choosing.first with
    | some (.line 0) => some (index, none)
    | _ => none

inductive Later where
  | text (text : Octets)
  | file (name : Octets)

structure Line where
  text : Octets := []
  isWhole : Bool := true

structure Desk where
  manner : Manner
  pending : List Octets
  file : Octets := ['-']
  lines : List Line := []
  number : Nat := 0
  line : Line := {}
  held : Line := {}
  active : List (Nat × Option Nat) := []
  isReplaced : Bool := false
  later : List Later := []
  previous : Option Regular := none
  ragged : List Octets := []
  readers : List (Octets × List Octets) := []
  result : Option Octets := none

abbrev Edit := StateT Desk Task

inductive Turn where
  | on
  | to (index : Nat)
  | done (prints : Bool)
  | again
  | stop (status : Nat)

namespace Edit

def put (name : Octets) (octets : Octets) : Edit Unit := do
  if name.isEmpty then
    match (← get).result with
    | some result => modify fun desk => { desk with result := some (result ++ octets) }
    | none => Task.write octets
  else if name = say "/dev/stdout" then Task.write octets
  else if name = say "/dev/stderr" then Task.warn octets
  else
    let _ ← Task.changeDisk fun disk => do
      let old := (disk.bytes (pathOf name)).toOption.getD .empty
      disk.put (pathOf name) (old ++ Text.Octets.toBytes octets)

def mend (name : Octets) : Edit Unit := do
  let desk ← get
  if desk.ragged.contains name then
    put name ['\n']
    set { desk with
      ragged := desk.ragged.filter (· ≠ name), result := desk.result.map (· ++ ['\n']) }

def showText (text : Octets) : Edit Unit := do
  mend []
  put [] text

def showLine (name : Octets) (line : Line) : Edit Unit := do
  mend name
  if line.isWhole then put name (line.text ++ [(← get).manner.delimiter])
  else
    put name line.text
    modify fun desk => { desk with ragged := name :: desk.ragged }

def showLater : Edit Unit := do
  let later := (← get).later
  modify fun desk => { desk with later := [] }
  later.forM fun
    | .text text => showText text
    | .file name => do
        match ← Task.contents name with
        | .ok text => if !text.isEmpty then showText text
        | .error _ => return

def isInPlace : Edit Bool := return (← get).manner.inPlace.isSome

def isSeparate : Edit Bool := do
  let manner := (← get).manner
  return manner.isSeparate || manner.inPlace.isSome

def keptName (name suffix : Octets) : Octets :=
  let directory := name.take (name.length - (Files.baseName name).length)
  let kept := if suffix.contains '*' then
      suffix.flatMap fun c => if c = '*' then Files.baseName name else [c]
    else Files.baseName name ++ suffix
  if kept.contains '/' then kept else directory ++ kept

def closeFile : Edit Unit := do
  let desk ← get
  match desk.result, desk.manner.inPlace with
  | some result, some suffix =>
      if !suffix.isEmpty then
        let old ← Task.contents desk.file
        let _ ← Task.changeDisk fun disk =>
          disk.put (pathOf (keptName desk.file suffix))
            (Text.Octets.toBytes (old.toOption.getD []))
      let _ ← Task.changeDisk fun disk => disk.put (pathOf desk.file) (Text.Octets.toBytes result)
      set { desk with result := none, ragged := desk.ragged.filter (· ≠ []) }
  | _, _ => return

/-- The lines of a file. Only the last one of all may go without an end. -/
def linesOf (delimiter : Char) (isLast : Bool) (text : Octets) : List Line :=
  match text.splitOnP (· = delimiter) with
  | [] => []
  | parts =>
      let whole : List Line := parts.dropLast.map fun part => { text := part }
      match parts.getLast? with
      | some (c :: rest) => whole ++ [{ text := c :: rest, isWhole := !isLast }]
      | _ => whole

def trouble {α : Type} (text : Octets) : Edit α := do
  closeFile
  Task.give text 4

def openFile (name : Octets) (pending : List Octets) : Edit Unit := do
  let isSeparate ← isSeparate
  let isInPlace ← isInPlace
  modify fun desk => { desk with pending, file := name }
  if isInPlace && (← Files.isDirectory name) then
    Task.complain (say "couldn't edit " ++ name ++ say ": not a regular file") 4
  else match ← Task.contentsOrInput name with
    | .ok text =>
        modify fun desk =>
          let isLast := isSeparate || pending.isEmpty
          let desk := { desk with
            lines := linesOf desk.manner.delimiter isLast text,
            result := if isInPlace then some [] else none }
          if isSeparate then { desk with number := 0, active := openSteps desk.manner.script } else desk
    | .error .isDirectory =>
        trouble (say "read error on " ++ name ++ say ": " ++ reason .isDirectory)
    | .error fault =>
        Task.complain (say "can't read " ++ name ++ say ": " ++ reason fault) 2

def openFiles : List Octets → Edit Unit
  | [] => return
  | name :: pending => do
      closeFile
      openFile name pending
      if (← get).lines.isEmpty then openFiles pending

def isLast : Edit Bool := do
  if !(← isSeparate) && (← get).lines.isEmpty then openFiles (← get).pending
  return (← get).lines.isEmpty

def readLine (adds : Bool) : Edit Bool := do
  showLater
  modify fun desk => { desk with isReplaced := false }
  if (← get).lines.isEmpty then
    if ← isSeparate then mend []
    openFiles (← get).pending
  let desk ← get
  match desk.lines with
  | [] => return false
  | line :: lines =>
      let text := if adds then desk.line.text ++ desk.manner.delimiter :: line.text else line.text
      set { desk with lines, number := desk.number + 1, line := { line with text } }
      return true

def regular (target : Target) : Edit Regular := do
  let desk ← get
  match target, desk.previous with
  | .regular regular, _ =>
      set { desk with previous := some regular }
      return regular
  | .previous, some regular => return regular
  | .previous, none => Task.give desk.manner.lament

def isMarked (mark : Mark) : Edit Bool := do
  let desk ← get
  match mark with
  | .line number => return desk.number = number
  | .every first step => return first ≤ desk.number && (desk.number - first) % step = 0
  | .lastLine => isLast
  | .found target =>
      let regular ← regular target
      return (regular.search desk.line.text.toArray 0).isSome

def isWithin (index : Nat) (first : Mark) (bound : Bound) : Edit Bool := do
  let desk ← get
  let leave : Edit Unit :=
    modify fun desk => { desk with active := desk.active.filter (·.1 ≠ index) }
  let enter (last : Option Nat) : Edit Unit :=
    modify fun desk => { desk with active := (index, last) :: desk.active }
  let enterTo (last : Nat) : Edit Unit := if desk.number < last then enter (some last) else return
  match desk.active.lookup index, bound with
  | some (some last), _ =>
      if last ≤ desk.number then leave
      return desk.number ≤ last
  | some none, .mark mark =>
      if ← isMarked mark then leave
      return true
  | some none, _ => return true
  | none, _ =>
      if !(← isMarked first) then return false
      match bound with
      | .mark (.line number) => enterTo number
      | .mark _ => enter none
      | .further count => enterTo (desk.number + count)
      | .multiple step =>
          if step ≠ 0 then enterTo ((desk.number + step - 1) / step * step)
      return true

def isChosen (index : Nat) (choosing : Choosing) : Edit Bool := do
  let isWithin ← match choosing.first, choosing.bound with
    | none, _ => pure true
    | some mark, none => isMarked mark
    | some mark, some bound => isWithin index mark bound
  return isWithin != choosing.isInverse

def target (label : Label) : Edit Nat := do
  let script := (← get).manner.script
  return match label with
    | none => script.steps.size
    | some label => (script.labels.lookup label).getD script.steps.size

def setText (text : Octets) : Edit Unit :=
  modify fun desk => { desk with line := { desk.line with text } }

def putOff (later : Later) : Edit Unit :=
  modify fun desk => { desk with later := desk.later ++ [later] }

def joined (delimiter : Char) (first second : Line) : Line where
  text := first.text ++ delimiter :: second.text
  isWhole := first.isWhole || second.isWhole

def firstLine (desk : Desk) : Octets := desk.line.text.takeWhile (· ≠ desk.manner.delimiter)

def nextOf (name : Octets) : Edit (Option Octets) := do
  let desk ← get
  let lines ← match desk.readers.lookup name with
    | some lines => pure lines
    | none => do
        let text ← Task.contents name
        pure (Utility.linesOf (text.toOption.getD []))
  let readers := (name, lines.tail) :: desk.readers.filter (·.1 ≠ name)
  modify fun desk => { desk with readers }
  return lines.head?

def substitute (substitution : Substitution) : Edit Unit := do
  let regular ← regular substitution.target
  let (text, isReplaced) := substitution.replace regular (← get).line.text
  if isReplaced then
    setText text
    modify fun desk => { desk with isReplaced := true }
    if substitution.prints then showLine [] (← get).line
    if let some name := substitution.file then showLine name (← get).line

def act (index : Nat) (deed : Deed) : Edit Unit := do
  let desk ← get
  let delimiter := desk.manner.delimiter
  match deed with
  | .append text => putOff (.text text)
  | .insert text => showText text
  | .change text => if (desk.active.lookup index).isNone then showText text
  | .fileName => showText (desk.file ++ ['\n'])
  | .get => set { desk with line := desk.held }
  | .getMore => set { desk with line := joined delimiter desk.line desk.held }
  | .hold => set { desk with held := desk.line }
  | .holdMore => set { desk with held := joined delimiter desk.held desk.line }
  | .swap => set { desk with line := desk.held, held := desk.line }
  | .spell width => showText (spelled (width.getD desk.manner.width) desk.line.text)
  | .print => showLine [] desk.line
  | .printLine => showLine [] { text := firstLine desk }
  | .number => showText (decimal desk.number ++ ['\n'])
  | .readFile name => putOff (.file name)
  | .readLine name =>
      if let some line ← nextOf name then putOff (.text (line ++ [delimiter]))
  | .substitute substitution => substitute substitution
  | .translate pairs => setText (desk.line.text.map fun c => (pairs.lookup c).getD c)
  | .write name => showLine name desk.line
  | .writeLine name => showLine name { text := firstLine desk }
  | .empty => setText []
  | _ => return

def perform (index : Nat) (deed : Deed) : Edit Turn := do
  let desk ← get
  let isSilent := desk.manner.isSilent
  match deed with
  | .jump label => return .to (← target label)
  | .jumpIf isReplaced label =>
      set { desk with isReplaced := false }
      if desk.isReplaced = isReplaced then return .to (← target label)
      return .on
  | .change _ =>
      act index deed
      return .done false
  | .delete => return .done false
  | .deleteLine =>
      match desk.line.text.drop (firstLine desk).length with
      | [] => return .done false
      | _ :: rest =>
          setText rest
          return .again
  | .next =>
      if ← isLast then return .done true
      if !isSilent then showLine [] desk.line
      let _ ← readLine false
      return .on
  | .nextMore =>
      if ← isLast then return .done true
      let _ ← readLine true
      return .on
  | .quit status =>
      if !isSilent then showLine [] desk.line
      showLater
      return .stop status
  | .leave status => return .stop status
  | _ =>
      act index deed
      return .on

/-- The steps from one on, for this line and those that follow. What is left is the status to end
with. -/
def steps (manner : Manner) : Nat → Nat → Edit Nat
  | 0, _ => return 0
  | fuel + 1, index => do
      let after := fun (turn : Turn) => do
        match turn with
        | .on => steps manner fuel (index + 1)
        | .to index => steps manner fuel index
        | .again =>
            showLater
            steps manner fuel 0
        | .stop status => return status
        | .done prints =>
            if prints && !manner.isSilent then showLine [] (← get).line
            if ← readLine false then steps manner fuel 0 else return 0
      match manner.script.steps[index]? with
      | none => after (.done true)
      | some step =>
          if ← isChosen index step.choosing then after (← perform index step.deed)
          else match step.deed with
            | .opening => after (.to ((manner.blocks.lookup index).getD index + 1))
            | _ => after .on

def stepLimit : Nat := 300000

end Edit

def form : Form :=
  Form.of "bsnrzuEe:f:l:i::" [("binary", "b"), ("debug", "debug"), ("expression:", "e"),
    ("file:", "f"), ("follow-symlinks", "follow"), ("help", "help"), ("in-place::", "i"),
    ("line-length:", "l"), ("null-data", "z"), ("posix", "posix"), ("quiet", "n"),
    ("regexp-extended", "E"), ("sandbox", "sandbox"), ("separate", "s"), ("silent", "n"),
    ("unbuffered", "u"), ("version", "version"), ("zero-terminated", "z")]

def misused {α : Type} (text : Octets) : Task α := do
  if !text.isEmpty then Task.complain text
  Task.warn (say
    "Usage: sed [OPTION]... \x7bscript-only-if-no-other-script\x7d [input-file]...\n\n")
  Task.leave 1

def parts (options : List (String × Octets)) : Nat → Task (List (Origin × Octets)) :=
  fun count => do
    match options with
    | [] => return []
    | (key, value) :: rest =>
        if key = "e" then
          return (.expression (count + 1), value) :: (← parts rest (count + 1))
        else if key = "f" then
          match ← Task.contentsOrInput value with
          | .ok text =>
              let text := if text.getLast? = some '\n' then text.dropLast else text
              return (.file value, text) :: (← parts rest count)
          | .error fault =>
              Task.give (say "couldn't open file " ++ value ++ say ": " ++ reason fault) 4
        else parts rest count

def clearFiles (names : List Octets) : Task Unit :=
  names.forM fun name => do
    if name = say "/dev/stdout" || name = say "/dev/stderr" then return
    match ← Task.changeDisk fun disk => disk.put (pathOf name) .empty with
    | .ok () => return
    | .error fault => Task.give (say "couldn't open file " ++ name ++ say ": " ++ reason fault) 4

def task (arguments : List Octets) : Task Unit := do
  let choice ← match form.read arguments with
    | .ok choice => pure choice
    | .error fault => misused fault.message
  let given ← parts choice.options 0
  let (given, operands) ← match given, choice.operands with
    | [], [] => misused []
    | [], script :: operands => pure ([(.expression 1, script)], operands)
    | given, operands => pure (given, operands)
  let script ← match Script.read (choice.has "E" || choice.has "r") given with
    | .ok script => pure script
    | .error text => Task.give text
  match script.jumps.find? fun label => (script.labels.lookup label).isNone with
  | some label => Task.give (say "can't find label for jump to `" ++ label ++ ['\'']) 4
  | none => clearFiles script.files
  let inPlace := choice.last? "i"
  if inPlace.isSome && operands.isEmpty then Task.give (say "no input files") 4
  let manner : Manner :=
    { script, inPlace
      blocks := script.blocks
      isSilent := choice.has "n" || script.isSilent
      isSeparate := choice.has "s"
      delimiter := if choice.has "z" then '\x00' else '\n'
      width := ((choice.last? "l").bind fun width => (String.ofList width).toNat?).getD 70
      lament := match given.getLast? with
        | some (origin, text) => complaint origin 0 (text.count '\n' + 1) .noPrevious
        | none => [] }
  let desk : Desk :=
    { manner, active := openSteps script, pending := if operands.isEmpty then [['-']] else operands }
  let (status, _) ← (do
    let status ← if ← Edit.readLine false then Edit.steps manner Edit.stepLimit 0 else pure 0
    Edit.closeFile
    return status : Edit Nat).run desk
  if status ≠ 0 then Task.leave status

end GoldenSuite.Utility.Editor
