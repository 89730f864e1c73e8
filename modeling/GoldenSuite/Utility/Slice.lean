import GoldenSuite.Utility.Show

set_option autoImplicit false

namespace GoldenSuite.Utility

open Text (Octets)

def scaled? (written : Octets) : Option Nat :=
  let digits := written.takeWhile Char.isDigit
  let scale := match String.ofList (written.drop digits.length) with
    | "" => some 1
    | "b" => some 512
    | "kB" => some 1000
    | "k" | "K" | "KiB" => some 1024
    | "MB" => some 1000000
    | "M" | "MiB" => some (1024 * 1024)
    | "GB" => some 1000000000
    | "G" | "GiB" => some (1024 * 1024 * 1024)
    | _ => none
  if digits.isEmpty then none
  else scale.bind fun scale => (String.ofList digits).toNat?.map (· * scale)

structure Part where
  inLines : Bool := true
  count : Nat := 10
  isRest : Bool := false

namespace Part

def units (part : Part) (text : Octets) : List Octets :=
  if part.inLines then Text.linesWithEnds text else text.map fun c => [c]

def atStart (part : Part) (text : Octets) : Octets :=
  let units := part.units text
  (units.take (if part.isRest then units.length - part.count else part.count)).flatten

def atEnd (part : Part) (text : Octets) : Octets :=
  let units := part.units text
  (units.drop (if part.isRest then part.count - 1 else units.length - part.count)).flatten

def old? (first : Char) (argument : Octets) : Option (Octets × Octets) :=
  match argument with
  | c :: d :: rest =>
      if c = first && d.isDigit then
        let digits := (d :: rest).takeWhile Char.isDigit
        some (digits, (d :: rest).drop digits.length)
      else none
  | _ => none

def writeEach (names : List Octets) (isNamed : Bool) (part : Octets → Octets)
    (keepsRest : Bool) : Task Unit := do
  let _ ← names.foldlM (fun isFirst name => do
    let title := if name = ['-'] then say "standard input" else name
    let heading := (if isFirst then [] else ['\n']) ++ say "==> " ++ title ++ say " <==\n"
    let available := (← get).input
    match ← Task.contentsOrInput name with
    | .ok octets =>
        if isNamed then Task.write heading
        let taken := part octets
        Task.write taken
        if keepsRest && name = ['-'] && (← get).isFileInput then
          modify fun bench => { bench with input := available.drop taken.length }
        return false
    | .error .isDirectory =>
        if isNamed then Task.write heading
        Task.complain (say "error reading " ++ quoted name ++ say ": Is a directory")
        return false
    | .error fault =>
        Task.complain
          (say "cannot open " ++ quoted name ++ say " for reading: " ++ reason fault)
        return isFirst) true
  return

end Part

def namesOf (operands : List Octets) : List Octets :=
  if operands.isEmpty then [['-']] else operands

def showsNames (choice : Choice) : Bool :=
  match choice.lastOf? ["q", "v"] with
  | some "v" => true
  | some _ => false
  | none => 1 < choice.operands.length

def Task.part (choice : Choice) (sign : Char) : Task Part := do
  match choice.options.reverse.find? fun option => ["n", "c"].contains option.1 with
  | none => return {}
  | some (key, written) =>
      let inLines := key = "n"
      let isRest := written.head? = some sign
      let body := match written with
        | c :: rest => if c = '-' || c = '+' then rest else written
        | [] => []
      match scaled? body with
      | some count => return { inLines, count, isRest }
      | none =>
          let unit := if inLines then "lines" else "bytes"
          give (say s!"invalid number of {unit}: " ++ cited body)

def sliceForm : Form :=
  .of "c:n:qvzfs:" [("bytes:", "c"), ("lines:", "n"), ("quiet", "q"), ("silent", "q"),
    ("verbose", "v"), ("zero-terminated", "z")]

def head (arguments : List Octets) : Task Unit := do
  let arguments := match arguments with
    | first :: rest =>
        match Part.old? '-' first with
        | some (digits, unit) =>
            (if unit.contains 'c' then ['-', 'c'] else ['-', 'n']) :: digits :: rest
        | none => arguments
    | [] => []
  let form := { sliceForm with letters := sliceForm.letters.filter fun c => !"fs".toList.contains c.1 }
  let choice ← Task.choose form arguments
  let part ← Task.part choice '-'
  Part.writeEach (namesOf choice.operands) (showsNames choice) part.atStart true

def tail (arguments : List Octets) : Task Unit := do
  let arguments := match arguments with
    | first :: rest =>
        match Part.old? '-' first, Part.old? '+' first with
        | some (digits, unit), _ =>
            (if unit.contains 'c' then ['-', 'c'] else ['-', 'n']) :: digits :: rest
        | none, some (digits, unit) =>
            (if unit.contains 'c' then ['-', 'c'] else ['-', 'n']) :: ('+' :: digits) :: rest
        | none, none => arguments
    | [] => []
  let choice ← Task.choose sliceForm arguments
  let part ← Task.part choice '+'
  Part.writeEach (namesOf choice.operands) (showsNames choice) part.atEnd false

namespace Cut

def position? (written : Octets) : Option Nat :=
  if !written.isEmpty && written.all Char.isDigit then (String.ofList written).toNat? else none

def range (unit : String) (written : Octets) : Except Octets (Nat × Option Nat) := do
  let first := written.takeWhile (· ≠ '-')
  let invalid : Octets :=
    if unit = "field" then say "invalid field value " ++ cited written
    else say "invalid byte or character position " ++ cited written
  let numbered (text : Octets) : Except Octets Nat :=
    match position? text with
    | some 0 =>
        .error (if unit = "field" then say "fields are numbered from 1"
          else say "byte/character positions are numbered from 1")
    | some number => .ok number
    | none => .error invalid
  match written.drop first.length with
  | [] => do
      let number ← numbered first
      return (number, some number)
  | _ :: last =>
      if first.isEmpty && last.isEmpty then throw (say "invalid range with no endpoint: -")
      let low ← if first.isEmpty then pure 1 else numbered first
      if last.isEmpty then return (low, none)
      let high ← numbered last
      if high < low then throw (say "invalid decreasing range")
      return (low, some high)

def pieces (separator : Char → Bool) (octets : Octets) : List Octets := octets.splitOnP separator

def selects (ranges : List (Nat × Option Nat)) (isInverse : Bool) (index : Nat) : Bool :=
  ranges.any (fun (low, high) => low ≤ index && high.all (index ≤ ·)) != isInverse

def form : Form :=
  .of "b:c:d:f:nsz" [("bytes:", "b"), ("characters:", "c"), ("fields:", "f"), ("delimiter:", "d"),
    ("only-delimited", "s"), ("output-delimiter:", "output"), ("complement", "complement"),
    ("zero-terminated", "z")]

def numbered {α : Type} (items : List α) : List (α × Nat) := items.zipIdx 1

def task (arguments : List Octets) : Task Unit := do
  let choice ← Task.choose form arguments
  let lists := choice.options.filter fun option => ["b", "c", "f"].contains option.1
  match lists with
  | [] => Task.misused (say "you must specify a list of bytes, characters, or fields")
  | (key, list) :: others =>
      if !others.isEmpty then Task.misused (say "only one list may be specified")
      let byField := key = "f"
      let delimiter := (choice.last? "d").getD ['\t']
      if 1 < delimiter.length then
        Task.misused (say "the delimiter must be a single character")
      if choice.has "d" && !byField then
        Task.misused (say "an input delimiter may be specified only when operating on fields")
      if choice.has "s" && !byField then
        Task.misused (say "suppressing non-delimited lines makes sense\n\tonly when operating on fields")
      let unit := if byField then "field" else "byte"
      match (pieces (fun c => c = ',' || c = ' ') list).mapM (range unit) with
      | .error text => Task.misused text
      | .ok ranges =>
          let isInverse := choice.has "complement"
          let mark := delimiter.head?.getD '\x00'
          let text ← Task.allContents choice.operands
          let chosen (items : List Octets) : List Octets :=
            ((numbered items).filter fun item => selects ranges isInverse item.2).map (·.1)
          Task.write <| (linesOf text).flatMap fun line =>
            if byField then
              if line.contains mark then
                let between := (choice.last? "output").getD [mark]
                ((chosen (pieces (· = mark) line)).intersperse between).flatten ++ ['\n']
              else if choice.has "s" then [] else line ++ ['\n']
            else (chosen (line.map fun c => [c])).flatten ++ ['\n']

end Cut

namespace Count

structure Totals where
  lines : Nat := 0
  words : Nat := 0
  octets : Nat := 0
  longest : Nat := 0

def isSpace (c : Char) : Bool := " \t\n\x0b\x0c\x0d".toList.contains c

def wordsOf (octets : Octets) : Nat :=
  ((octets.splitOnP isSpace).filter fun word => word.any fun c => '!' ≤ c && c ≤ '~').length

def totalsOf (octets : Octets) : Totals where
  lines := octets.count '\n'
  words := wordsOf octets
  octets := octets.length
  longest := ((linesOf octets).map (Fold.columns false)).foldl max 0

def Totals.sum (first second : Totals) : Totals where
  lines := first.lines + second.lines
  words := first.words + second.words
  octets := first.octets + second.octets
  longest := max first.longest second.longest

def columns (choice : Choice) (totals : Totals) : List Nat :=
  let all := [("l", totals.lines), ("w", totals.words), ("m", totals.octets), ("c", totals.octets),
    ("L", totals.longest)]
  if choice.options.isEmpty then [totals.lines, totals.words, totals.octets]
  else (all.filter fun column => choice.has column.1).map (·.2)

def row (choice : Choice) (width : Nat) (totals : Totals) (name : Octets) : Octets :=
  let cells := (columns choice totals).map fun number => Cat.paddedLeft width (decimal number)
  (cells.intersperse [' ']).flatten ++ (if name.isEmpty then [] else ' ' :: name) ++ ['\n']

def widthOf (choice : Choice) (operands : List Octets) : Task Nat := do
  let bench ← get
  let names := namesOf operands
  let size? (name : Octets) : Option (Option Nat) :=
    if name = ['-'] then
      some (if bench.isFileInput then some bench.input.length else none)
    else match bench.disk.lookup (pathOf name) with
      | .ok (_, .file data _) => some (some data.size)
      | .ok _ => some none
      | .error _ => none
  if names.length = 1 && (columns choice {}).length = 1 then return 1
  let sizes := names.filterMap size?
  let total := (sizes.filterMap id).foldl (· + ·) 0
  let width := (toString total).length
  return if sizes.contains none then max 7 width else width

def form : Form :=
  .of "clLmw" [("bytes", "c"), ("chars", "m"), ("lines", "l"), ("words", "w"),
    ("max-line-length", "L")]

def task (arguments : List Octets) : Task Unit := do
  let choice ← Task.choose form arguments
  let width ← widthOf choice choice.operands
  let found ← (namesOf choice.operands).mapM fun name => do
    match ← Task.contentsOrInput name with
    | .ok octets =>
        let totals := totalsOf octets
        Task.write (row choice width totals (if choice.operands.isEmpty then [] else name))
        return totals
    | .error fault =>
        Task.complain (quotedIfNeeded name ++ say ": " ++ reason fault)
        if fault = .isDirectory then Task.write (row choice width {} name)
        return {}
  if 1 < choice.operands.length then
    Task.write (row choice width (found.foldl Totals.sum {}) (say "total"))

end Count

end GoldenSuite.Utility
