import GoldenSuite.Utility.Files
import GoldenSuite.Utility.Regular
import GoldenSuite.Utility.Slice
import GoldenSuite.Utility.Wildcard

set_option autoImplicit false

namespace GoldenSuite.Utility.Search

open Text (Octets)

def form : Form :=
  { Form.of "0123456789A:B:C:D:EFGHILPTUVX:abcd:e:f:hilm:noqRrsuvwxyZz" [("after-context:", "A"),
      ("basic-regexp", "G"), ("before-context:", "B"), ("binary", "U"), ("binary-files:", "binary"),
      ("byte-offset", "b"), ("color::", "color"), ("colour::", "color"), ("context:", "C"),
      ("count", "c"), ("dereference-recursive", "r"), ("devices:", "D"), ("directories:", "d"),
      ("exclude:", "exclude"), ("exclude-dir:", "without"), ("exclude-from:", "excludes"),
      ("extended-regexp", "E"), ("file:", "f"), ("files-with-matches", "l"),
      ("files-without-match", "L"), ("fixed-strings", "F"), ("group-separator:", "separator"),
      ("help", "help"), ("ignore-case", "i"), ("include:", "include"), ("initial-tab", "T"),
      ("invert-match", "v"), ("label:", "label"), ("line-buffered", "u"), ("line-number", "n"),
      ("line-regexp", "x"), ("max-count:", "m"), ("no-ignore-case", "cased"),
      ("no-filename", "h"), ("no-group-separator", "joined"), ("no-messages", "s"), ("null", "Z"),
      ("null-data", "z"), ("only-matching", "o"), ("perl-regexp", "P"), ("quiet", "q"),
      ("recursive", "r"), ("regexp:", "e"), ("silent", "q"), ("text", "a"), ("version", "V"),
      ("with-filename", "H"), ("word-regexp", "w")] with status := 2 }

structure Query where
  patterns : List Regular
  wholeLines : Bool
  wholeWords : Bool

def isWordAt (text : Array Char) (first last : Nat) : Bool :=
  !(0 < first && (text[first - 1]?).any Regular.inWord) && !(text[last]?).any Regular.inWord

def Query.endAt (query : Query) (text : Array Char) (position : Nat) : Option Nat :=
  let ends := query.patterns.flatMap fun regular =>
    (Regular.ends text regular { position }).map (·.position)
  let counts (last : Nat) : Bool :=
    (!query.wholeLines || (position = 0 && last = text.size))
      && (!query.wholeWords || isWordAt text position last)
  (ends.filter counts).foldl (fun best last => some (max last (best.getD 0))) none

def Query.find (query : Query) (text : Array Char) : Nat → Nat → Option (Nat × Nat)
  | 0, _ => none
  | fuel + 1, position =>
      match query.endAt text position with
      | some last => some (position, last)
      | none => query.find text fuel (position + 1)

def Query.holds (query : Query) (line : Octets) : Bool :=
  let text := line.toArray
  (query.find text (text.size + 1) 0).isSome

def Query.spans (query : Query) (text : Array Char) : Nat → Nat → List (Nat × Nat)
  | 0, _ => []
  | fuel + 1, position =>
      match query.find text (text.size + 1 - position) position with
      | none => []
      | some (first, last) =>
          if first < last then (first, last) :: query.spans text fuel last
          else if last < text.size then query.spans text fuel (last + 1) else []

structure Line where
  number : Nat
  offset : Nat
  text : Octets

def numbered : Nat → Nat → List Octets → List Line
  | _, _, [] => []
  | number, offset, text :: rest =>
      ⟨number, offset, text⟩ :: numbered (number + 1) (offset + text.length + 1) rest

structure Layout where
  choice : Choice
  isNamed : Bool
  before : Nat
  after : Nat
  most : Option Nat

def Layout.label (layout : Layout) (name : Octets) (mark : Char) (line : Line) (offset : Nat) :
    Octets :=
  let choice := layout.choice
  (if layout.isNamed then name ++ (if choice.has "Z" then ['\x00'] else [mark]) else [])
    ++ (if choice.has "n" then decimal line.number ++ [mark] else [])
    ++ (if choice.has "b" then decimal offset ++ [mark] else [])

def colored (layout : Layout) (text : Octets) : Octets :=
  if layout.choice.last? "color" = some (say "always") then
    say "\x1b[01;31m\x1b[K" ++ text ++ say "\x1b[m\x1b[K"
  else text

def Layout.found (layout : Layout) (query : Query) (name : Octets) (line : Line) : Octets :=
  let text := line.text.toArray
  if layout.choice.has "o" then
    if layout.choice.has "v" then []
    else (query.spans text (text.size + 1) 0).flatMap fun (first, last) =>
      layout.label name ':' line (line.offset + first)
        ++ colored layout (text.extract first last).toList ++ ['\n']
  else if layout.choice.last? "color" = some (say "always") && !layout.choice.has "v" then
    let spans := query.spans text (text.size + 1) 0
    let (body, done) := spans.foldl (fun (body, done) (first, last) =>
      (body ++ (text.extract done first).toList ++ colored layout (text.extract first last).toList,
        last)) ([], 0)
    layout.label name ':' line line.offset ++ body ++ (text.extract done text.size).toList ++ ['\n']
  else layout.label name ':' line line.offset ++ line.text ++ ['\n']

/-- The lines that are shown: those found and those around them. A gap is marked where lines around
are wanted. -/
def Layout.shown (layout : Layout) (query : Query) (name : Octets) (lines : List Line)
    (found : List Nat) : Octets :=
  let isFound (line : Line) : Bool := found.contains line.number
  let isNear (line : Line) : Bool := found.any fun number =>
    number ≤ line.number + layout.before && line.number ≤ number + layout.after
  let shown := lines.filter isNear
  let mark := if layout.choice.has "joined" then []
    else (layout.choice.last? "separator").getD (say "--") ++ ['\n']
  let hasContext := 0 < layout.before + layout.after
  (shown.zip (none :: shown.map some)).flatMap fun (line, previous) =>
    let gap := match previous with
      | some previous => if hasContext && previous.number + 1 < line.number then mark else []
      | none => []
    gap ++
      if isFound line then layout.found query name line
      else if layout.choice.has "o" then []
      else layout.label name '-' line line.offset ++ line.text ++ ['\n']

def takeUpTo (most : Option Nat) (numbers : List Nat) : List Nat :=
  match most with
  | some count => numbers.take count
  | none => numbers

/-- What is written of one file, and whether something was found in it. A file that holds the octet
zero is not shown. -/
def Layout.answer (layout : Layout) (query : Query) (name : Octets) (text : Octets) (isFirst : Bool) :
    Octets × Bool :=
  let choice := layout.choice
  let lines := numbered 1 0 (linesOf text)
  let matching := (lines.filter fun line => query.holds line.text != choice.has "v").map (·.number)
  let numbers := takeUpTo layout.most matching
  let isFound := !numbers.isEmpty
  let ending := if choice.has "Z" then ['\x00'] else ['\n']
  let hasContext := 0 < layout.before + layout.after
  let out :=
    if choice.has "q" then []
    else if choice.has "l" then (if isFound then name ++ ending else [])
    else if choice.has "L" then (if isFound then [] else name ++ ending)
    else if choice.has "c" then
      (if layout.isNamed then name ++ (if choice.has "Z" then ['\x00'] else [':']) else [])
        ++ decimal numbers.length ++ ['\n']
    else if text.contains '\x00' && !choice.has "a" && !choice.has "z" then
      if isFound then say "grep: " ++ name ++ say ": binary file matches\n" else []
    else
      let last := numbers.getLast?.getD 0
      let visible := match layout.most with
        | some _ => lines.filter fun line =>
            line.number ≤ last + layout.after
              && !(last < line.number && matching.contains line.number)
        | none => lines
      let shown := layout.shown query name visible numbers
      if hasContext && !isFirst && !shown.isEmpty && !choice.has "joined" then
        (choice.last? "separator").getD (say "--") ++ '\n' :: shown
      else shown
  (out, if choice.has "L" then !isFound else isFound)

def misused {α : Type} (text : Octets) : Task α := do
  if !text.isEmpty then Task.complain text 2
  Task.warn (say "Usage: grep [OPTION]... PATTERNS [FILE]...\n")
  Task.warn (say "Try 'grep --help' for more information.\n")
  Task.leave 2

def context (choice : Choice) (key : String) : Task (Option Nat) := do
  match choice.last? key with
  | none => return none
  | some written =>
      match Cut.position? written with
      | some count => return some count
      | none => Task.give (written ++ say ": invalid context length argument") 2

def digitsOf (choice : Choice) : Option Nat :=
  let digits := choice.options.filterMap fun option =>
    match option.1.toList with
    | [c] => if c.isDigit then some c else none
    | _ => none
  (String.ofList digits).toNat?

def regularOf (choice : Choice) (isExtended isFixed : Bool) (pattern : Octets) : Task Regular := do
  let isCaseless : Bool := match choice.lastOf? ["i", "y", "cased"] with
    | some key => key ≠ "cased"
    | none => false
  let cased (regular : Regular) : Regular := if isCaseless then regular.caseless else regular
  if isFixed then return cased (Regular.ofOctets pattern)
  match Regular.parse isExtended pattern with
  | .ok regular => return cased regular
  | .error fault => Task.give (say fault.message) 2

def filesBelow (choice : Choice) (disk : Disk) : Nat → Octets → Place → List Octets
  | 0, _, _ => []
  | fuel + 1, name, place =>
      (disk.children place).flatMap fun (child, node) =>
        let step := Text.Octets.ofText child
        let path := if name.isEmpty then step else Files.inside name step
        let fits (key : String) : Bool := (choice.values key).any fun glob =>
          Wildcard.isMatch (Wildcard.parse (Marked.ofText glob)) step
        match node with
        | .directory =>
            if fits "without" then []
            else filesBelow choice disk fuel path (place ++ [child])
        | .file .. =>
            if fits "exclude" || (choice.has "include" && !fits "include") then []
            else [path]
        | .link _ => []

def namesFor (choice : Choice) (operands : List Octets) : Task (List Octets) := do
  let isRecursive := choice.has "r" || choice.has "R"
  if !isRecursive then return namesOf operands
  let disk := (← get).disk
  let fuel := disk.entries.length + 2
  if operands.isEmpty then return filesBelow choice disk fuel [] disk.here
  return operands.flatMap fun name =>
    match disk.lookup (pathOf name) with
    | .ok (place, .directory) => filesBelow choice disk fuel name place
    | _ => [name]

def task (presets : String) (arguments : List Octets) : Task Unit := do
  let choice ← match form.read arguments with
    | .ok choice => pure choice
    | .error fault => misused fault.message
  let given := (choice.values "e").flatMap fun pattern => pattern.splitOnP (· = '\n')
  let fromFiles ← (choice.values "f").mapM fun name => do
    match ← Task.contentsOrInput name with
    | .ok octets => return linesOf octets
    | .error fault => Task.give (name ++ say ": " ++ reason fault) 2
  let hasOptions := choice.has "e" || choice.has "f"
  let (patterns, operands) ← match hasOptions, choice.operands with
    | true, operands => pure (given ++ fromFiles.flatten, operands)
    | false, pattern :: operands => pure (pattern.splitOnP (· = '\n'), operands)
    | false, [] => misused []
  let kind := (choice.lastOf? ["E", "F", "G", "P"]).getD presets
  let before ← context choice "B"
  let after ← context choice "A"
  let around ← context choice "C"
  let around := (around.orElse fun _ => digitsOf choice).getD 0
  let most ← match choice.last? "m" with
    | none => pure none
    | some written =>
        match Cut.position? written with
        | some count => pure (some count)
        | none => Task.give (say "invalid max count") 2
  let patterns ← patterns.mapM (regularOf choice (kind = "E" || kind = "P") (kind = "F"))
  let query : Query := { patterns, wholeLines := choice.has "x", wholeWords := choice.has "w" }
  let isRecursive := choice.has "r" || choice.has "R"
  let isNamed := match choice.lastOf? ["h", "H"] with
    | some key => key = "H"
    | none => 1 < operands.length || isRecursive
  let quietens := choice.has "q" || choice.has "l" || choice.has "L"
  let layout : Layout :=
    { choice, isNamed, most
      before := if quietens || choice.has "c" then 0 else before.getD around
      after := if quietens || choice.has "c" then 0 else after.getD around }
  let (isFound, _) ← (← namesFor choice operands).foldlM (fun (isFound, isFirst) name => do
    if choice.has "q" && isFound then return (isFound, isFirst)
    match ← Task.contentsOrInput name with
    | .ok text =>
        let label := if name = ['-'] then
            (choice.last? "label").getD (say "(standard input)") else name
        let (out, found) := layout.answer query label text isFirst
        Task.write out
        return (isFound || found, isFirst && out.isEmpty)
    | .error fault =>
        if choice.has "s" then Task.atLeast 2
        else Task.complain (name ++ say ": " ++ reason fault) 2
        return (isFound, isFirst)) (false, true)
  let status := (← get).status
  if isFound && (choice.has "q" || status < 2) then Task.leave 0
  else if status = 0 then Task.leave 1

end GoldenSuite.Utility.Search
