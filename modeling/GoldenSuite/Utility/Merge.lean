import GoldenSuite.Utility.Sort

set_option autoImplicit false

namespace GoldenSuite.Utility

open Text (Octets)

def Task.required (name : Octets) (status : Nat := 1) : Task Octets := do
  match ← contentsOrInput name with
  | .ok octets => return octets
  | .error .isDirectory =>
      give (say "read error: Is a directory") status
  | .error fault => give (quotedIfNeeded name ++ say ": " ++ reason fault) status

def Task.store (name : Octets) (octets : Octets) : Task (Except FileFault Unit) :=
  changeDisk fun disk => disk.put (pathOf name) (Text.Octets.toBytes octets)

def Task.operandCount (least most : Nat) (operands : List Octets) : Task Unit := do
  match operands[most]?, operands.getLast? with
  | some extra, _ => misused (say "extra operand " ++ cited extra)
  | none, last =>
      if operands.length < least then
        match last with
        | none => misused (say "missing operand")
        | some last => misused (say "missing operand after " ++ cited last)

namespace Uniq

def runs (key : Octets → Octets) (lines : List Octets) : List (List Octets) :=
  lines.splitBy fun a b => key a = key b

def form : Form :=
  .of "cdDf:is:uw:z" [("count", "c"), ("repeated", "d"), ("all-repeated::", "D"),
    ("skip-fields:", "f"), ("ignore-case", "i"), ("skip-chars:", "s"), ("unique", "u"),
    ("check-chars:", "w"), ("zero-terminated", "z"), ("group::", "group")]

def number (choice : Choice) (key what : String) : Task (Option Nat) := do
  match choice.last? key with
  | none => return none
  | some written =>
      match Cut.position? written with
      | some number => return some number
      | none => Task.give (written ++ say s!": invalid number of {what}")

def shown (choice : Choice) (run : List Octets) : List Octets :=
  let first := run.head?.getD []
  let isShown :=
    if choice.has "d" && choice.has "u" then false
    else if choice.has "d" then 1 < run.length
    else if choice.has "u" then run.length = 1 else true
  if choice.has "D" then (if 1 < run.length then run else [])
  else if !isShown then []
  else if choice.has "c" then [Cat.paddedLeft 7 (decimal run.length) ++ ' ' :: first]
  else [first]

def task (arguments : List Octets) : Task Unit := do
  let choice ← Task.choose form arguments
  Task.operandCount 0 2 choice.operands
  let fields ← number choice "f" "fields to skip"
  let skipped ← number choice "s" "bytes to skip"
  let width ← number choice "w" "bytes to compare"
  let key (line : Octets) : Octets :=
    let rest := (Sort.afterFields none (fields.getD 0) line).drop (skipped.getD 0)
    let rest := match width with
      | some width => rest.take width
      | none => rest
    if choice.has "i" then rest.map Char.toLower else rest
  let lines := linesOf (← Task.required (choice.operands.head?.getD ['-']))
  let found := runs key lines
  let output :=
    if choice.has "group" then (found.intersperse [[]]).flatten else found.flatMap (shown choice)
  match choice.operands[1]? with
  | none => Task.write (unlines output)
  | some name =>
      if name = ['-'] then Task.write (unlines output)
      else match ← Task.store name (unlines output) with
        | .ok () => return
        | .error fault => Task.give (quotedIfNeeded name ++ say ": " ++ reason fault)

end Uniq

namespace Comm

structure State where
  hasUnpaired : Bool := false
  warned : List Nat := []
  counts : List Nat := [0, 0, 0]

def checkOrder (choice : Choice) (file : Nat) (before : Octets) (rest : List Octets)
    (state : State) : Task State := do
  let isChecked := choice.has "check" || (state.hasUnpaired && !choice.has "nocheck")
  match rest with
  | next :: _ =>
      if isChecked && !state.warned.contains file && Sort.compareOctets before next = .gt then
        Task.complain (say s!"file {file} is not in sorted order")
        if choice.has "check" then Task.leave 1
        return { state with warned := file :: state.warned }
      else return state
  | [] => return state

def put (choice : Choice) (column : Nat) (line : Octets) (state : State) : Task State := do
  let mark := (choice.last? "output").getD ['\t']
  let before := (["1", "2"].take (column - 1)).filter fun key => !choice.has key
  if !choice.has (toString column) then
    Task.writeLine ((before.map fun _ => mark).flatten ++ line)
  return { state with
    counts := state.counts.modify (column - 1) (· + 1)
    hasUnpaired := state.hasUnpaired || column ≠ 3 }

def merge (choice : Choice) : Nat → List Octets → List Octets → State → Task State
  | 0, _, _, state => return state
  | _ + 1, [], [], state => return state
  | fuel + 1, left, right, state => do
      let order := match left, right with
        | [], _ => Ordering.gt
        | _, [] => Ordering.lt
        | a :: _, b :: _ => Sort.compareOctets a b
      match order, left, right with
      | .lt, a :: left, right =>
          merge choice fuel left right (← checkOrder choice 1 a left (← put choice 1 a state))
      | .gt, left, b :: right =>
          merge choice fuel left right (← checkOrder choice 2 b right (← put choice 2 b state))
      | _, a :: left, _ :: right =>
          let state ← checkOrder choice 1 a left (← put choice 3 a state)
          merge choice fuel left right (← checkOrder choice 2 a right state)
      | _, _, _ => return state

def form : Form :=
  .of "123z" [("check-order", "check"), ("nocheck-order", "nocheck"),
    ("output-delimiter:", "output"), ("total", "total"), ("zero-terminated", "z")]

def task (arguments : List Octets) : Task Unit := do
  let choice ← Task.choose form arguments
  Task.operandCount 2 2 choice.operands
  let files ← choice.operands.mapM fun name => Task.required name
  let left := linesOf (files.head?.getD [])
  let right := linesOf (files.tail.head?.getD [])
  let state ← merge choice (left.length + right.length + 1) left right {}
  if choice.has "total" then
    let cells := state.counts.map decimal ++ [say "total"]
    Task.writeLine (cells.intersperse ((choice.last? "output").getD ['\t'])).flatten
  if !state.warned.isEmpty then Task.give (say "input is not in sorted order")

end Comm

namespace Paste

def marks : Octets → List Octets
  | '\\' :: c :: rest =>
      (match c with
        | 'n' => ['\n']
        | 't' => ['\t']
        | '0' => []
        | _ => [c]) :: marks rest
  | c :: rest => [c] :: marks rest
  | [] => []

def joined (marks : List Octets) (cells : List Octets) : Octets :=
  match cells with
  | [] => []
  | first :: rest =>
      first ++ (rest.zipIdx).flatMap fun (cell, index) =>
        (marks[index % marks.length]?).getD [] ++ cell

def rows : Nat → List (List Octets) → List (List Octets)
  | 0, _ => []
  | fuel + 1, columns =>
      if columns.all List.isEmpty then []
      else (columns.map fun column => column.head?.getD []) :: rows fuel (columns.map List.tail)

def dealt (places : Nat) (index : Nat) (lines : List Octets) : List Octets :=
  (lines.zipIdx.filter fun line => line.2 % places = index).map (·.1)

def task (arguments : List Octets) : Task Unit := do
  let form := Form.of "d:sz" [("delimiters:", "d"), ("serial", "s"), ("zero-terminated", "z")]
  let choice ← Task.choose form arguments
  let names := namesOf choice.operands
  let marks := marks ((choice.last? "d").getD ['\t'])
  let marks := if marks.isEmpty then [[]] else marks
  let places := names.count ['-']
  let input ← if 0 < places then Task.takeInput else pure []
  let input := linesOf input
  let columns ← (names.zipIdx).mapM fun (name, index) => do
    if name = ['-'] then
      if choice.has "s" then
        return if (names.take index).contains ['-'] then [] else input
      return dealt places ((names.take index).count ['-']) input
    return linesOf (← Task.required name)
  let table := if choice.has "s" then columns
    else rows ((columns.map List.length).foldl max 0) columns
  Task.write (unlines (table.map (joined marks)))

end Paste

def tee (arguments : List Octets) : Task Unit := do
  let form := Form.of "aip" [("append", "a"), ("ignore-interrupts", "i"), ("output-error::", "p")]
  let choice ← Task.choose form arguments
  let input ← Task.takeInput
  choice.operands.forM fun name => do
    let disk := (← get).disk
    let old := if choice.has "a" then (disk.bytes (pathOf name)).toOption.getD .empty else .empty
    match ← Task.changeDisk fun disk =>
        disk.put (pathOf name) (old ++ Text.Octets.toBytes input) with
    | .ok () => return
    | .error fault => Task.complain (quotedIfNeeded name ++ say ": " ++ reason fault)
  Task.write input

namespace Join

def fieldsOf (separator : Option Char) (line : Octets) : List Octets :=
  match separator with
  | some mark => line.splitOnP (· = mark)
  | none => (line.splitOnP Sort.isBlank).filter (!·.isEmpty)

structure Layout where
  keys : Nat × Nat
  separator : Option Char
  filler : Octets
  cells : Option (List (Nat × Nat))

def keyOf (layout : Layout) (file : Nat) (fields : List Octets) : Octets :=
  (fields[(if file = 1 then layout.keys.1 else layout.keys.2) - 1]?).getD []

def row (layout : Layout) (left right : List Octets) : Octets :=
  let key := if left.isEmpty then keyOf layout 2 right else keyOf layout 1 left
  let cell (octets : Octets) : Octets := if octets.isEmpty then layout.filler else octets
  let found := match layout.cells with
    | some cells => cells.map fun (file, field) =>
        if file = 0 then key
        else cell (((if file = 1 then left else right)[field - 1]?).getD [])
    | none =>
        key :: (left.eraseIdx (layout.keys.1 - 1)) ++ right.eraseIdx (layout.keys.2 - 1)
  (found.intersperse [layout.separator.getD ' ']).flatten

def cellsOf (written : Octets) : Option (List (Nat × Nat)) :=
  ((written.splitOnP fun c => c = ',' || c = ' ').filter (!·.isEmpty)).mapM fun cell =>
    match cell with
    | ['0'] => some (0, 0)
    | file :: '.' :: field =>
        (Cut.position? field).bind fun field =>
          if file = '1' then some (1, field) else if file = '2' then some (2, field) else none
    | _ => none

def form : Form := .of "1:2:a:e:ij:o:t:v:z" [("ignore-case", "i"), ("check-order", "check"),
  ("nocheck-order", "nocheck"), ("header", "header"), ("zero-terminated", "z")]

def rows (layout : Layout) (shows : Nat → Bool) (isPaired : Bool) :
    Nat → List (List Octets) → List (List Octets) → List Octets
  | 0, _, _ => []
  | _ + 1, [], right => if shows 2 then right.map (row layout []) else []
  | _ + 1, left, [] => if shows 1 then left.map (row layout · []) else []
  | fuel + 1, a :: left, b :: right =>
      match Sort.compareOctets (keyOf layout 1 a) (keyOf layout 2 b) with
      | .lt => (if shows 1 then [row layout a []] else []) ++ rows layout shows isPaired fuel left (b :: right)
      | .gt => (if shows 2 then [row layout [] b] else []) ++ rows layout shows isPaired fuel (a :: left) right
      | .eq =>
          let key := keyOf layout 1 a
          let sameLeft := (a :: left).takeWhile fun fields => keyOf layout 1 fields = key
          let sameRight := (b :: right).takeWhile fun fields => keyOf layout 2 fields = key
          (if isPaired then sameLeft.flatMap fun a => sameRight.map (row layout a) else [])
            ++ rows layout shows isPaired fuel ((a :: left).drop sameLeft.length)
              ((b :: right).drop sameRight.length)

def task (arguments : List Octets) : Task Unit := do
  let choice ← Task.choose form arguments
  Task.operandCount 2 2 choice.operands
  let field (key : String) : Nat :=
    (((choice.last? key).orElse fun _ => choice.last? "j").bind Cut.position?).getD 1
  let layout : Layout :=
    { keys := (field "1", field "2")
      separator := (choice.last? "t").bind List.head?
      filler := (choice.last? "e").getD []
      cells := (choice.last? "o").bind cellsOf }
  let files ← choice.operands.mapM fun name => do
    return (linesOf (← Task.required name)).map (fieldsOf layout.separator)
  let left := files.head?.getD []
  let right := files.tail.head?.getD []
  let asked (key : String) (file : Nat) : Bool := (choice.values key).contains (decimal file)
  let shows (file : Nat) : Bool := asked "a" file || asked "v" file
  Task.write <| unlines <|
    rows layout shows (!choice.has "v") (left.length + right.length + 1) left right

end Join

end GoldenSuite.Utility
