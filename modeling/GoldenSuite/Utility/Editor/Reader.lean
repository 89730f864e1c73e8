import GoldenSuite.Utility.Editor.Escape

set_option autoImplicit false

namespace GoldenSuite.Utility.Editor

open Text (Octets)

inductive Origin where
  | expression (number : Nat)
  | file (name : Octets)
  deriving DecidableEq, Repr

structure Draft where
  origin : Origin := .expression 1
  rest : Octets := []
  count : Nat := 0
  line : Nat := 1
  later : List (Origin × Octets) := []
  script : Script := {}
  blocks : List (Nat × Origin × Nat) := []
  isExtended : Bool := false

abbrev Reader := StateT Draft (Except Octets)

def complaint (origin : Origin) (count line : Nat) (slip : Slip) : Octets :=
  let place := match origin with
    | .expression number => say "-e expression #" ++ decimal number ++ say ", char " ++ decimal count
    | .file name => say "file " ++ name ++ say " line " ++ decimal line
  place ++ say ": " ++ slip.message

namespace Reader

def fail {α : Type} (slip : Slip) : Reader α := do
  let draft ← get
  throw (complaint draft.origin draft.count draft.line slip)

def take : Reader (Option Char) :=
  modifyGet fun draft =>
    match draft.rest with
    | [] => (none, draft)
    | c :: rest =>
        let line := if c = '\n' then draft.line + 1 else draft.line
        (some c, { draft with rest, line, count := draft.count + 1 })

def back : Option Char → Reader Unit
  | none => return
  | some c =>
      modify fun draft =>
        let line := if c = '\n' then draft.line - 1 else draft.line
        { draft with rest := c :: draft.rest, line, count := draft.count - 1 }

def isBlank (c : Char) : Bool := c = ' ' || c = '\t'

def isSpace (c : Char) : Bool := isBlank c || "\n\x0b\x0c\r".toList.contains c

def takeWhile (holds : Char → Bool) : Reader Octets := do
  let taken := (← get).rest.takeWhile holds
  taken.forM fun _ => do let _ ← take
  return taken

def takeSolid : Reader (Option Char) := do
  let _ ← takeWhile isBlank
  take

def numberFrom (first : Option Char) : Reader Nat := do
  back first
  let digits ← takeWhile Char.isDigit
  return (String.ofList digits).toNat?.getD 0

def endCommand : Reader Unit := do
  match ← takeSolid with
  | none | some '\n' | some ';' => return
  | some c => if c = '\x7d' || c = '#' then back (some c) else fail .trailingText

def setLength (rest : Octets) : Nat :=
  let start := match rest with
    | '^' :: ']' :: _ => 2
    | ']' :: _ => 1
    | _ => 0
  start + within (rest.drop start)
where
  within : Octets → Nat
    | [] => 0
    | '[' :: mark :: rest =>
        if mark = ':' || mark = '.' || mark = '=' then
          named mark rest + 2
        else within (mark :: rest) + 1
    | ']' :: _ => 1
    | _ :: rest => within rest + 1
  named (mark : Char) : Octets → Nat
    | [] => 0
    | [_] => 1
    | c :: ']' :: rest => if c = mark then within rest + 2 else named mark (']' :: rest) + 1
    | _ :: rest => named mark rest + 1

/-- The text up to a mark that closes it, if there is one. After a backslash the mark stands for
itself. -/
def textTo (mark : Char) (isPattern : Bool) : Nat → Reader (Option Octets)
  | 0 => return none
  | fuel + 1 => do
      match ← take with
      | none => return none
      | some '\n' =>
          back (some '\n')
          return none
      | some c =>
          if c = mark then return some []
          if c = '\\' then
            match ← take with
            | none => return none
            | some d =>
                let octets :=
                  if d = 'n' && isPattern then ['\n']
                  else if d = '\n' || (d = mark && (isPattern || d != '&')) then [d]
                  else [c, d]
                return (← textTo mark isPattern fuel).map (octets ++ ·)
          else if c = '[' && isPattern then
            let inside := (← get).rest.take (setLength (← get).rest)
            let inside := if inside.contains '\n' then [] else inside
            inside.forM fun _ => do let _ ← take
            return (← textTo mark isPattern fuel).map (c :: inside ++ ·)
          else return (← textTo mark isPattern fuel).map (c :: ·)

def slashed (mark : Char) (isPattern : Bool) : Reader (Option Octets) := do
  textTo mark isPattern ((← get).rest.length + 1)

def resolved (setting : Setting) (text : Octets) : Reader Octets :=
  match Escape.resolved setting text with
  | .ok text => return text
  | .error slip => fail slip

def target (pattern : Octets) (isCaseless isByLine : Bool) : Reader Target := do
  if pattern.isEmpty then
    if isCaseless || isByLine then fail .flagsOfNothing
    return .previous
  let dialect : Dialect := { isExtended := (← get).isExtended, isStrict := true, isByLine }
  match Regular.read dialect (← resolved .pattern pattern) with
  | .ok regular => return .regular (if isCaseless then regular.caseless else regular)
  | .error fault => fail (.badPattern fault)

def markFlags : Nat → Bool → Bool → Reader (Bool × Bool)
  | 0, isCaseless, isByLine => return (isCaseless, isByLine)
  | fuel + 1, isCaseless, isByLine => do
      match ← takeSolid with
      | some 'I' => markFlags fuel true isByLine
      | some 'M' => markFlags fuel isCaseless true
      | c =>
          back c
          return (isCaseless, isByLine)

def mark? (first : Option Char) : Reader (Option Mark) := do
  let pattern (slash : Char) : Reader (Option Mark) := do
    match ← slashed slash true with
    | none => fail .openPattern
    | some text =>
        let (isCaseless, isByLine) ← markFlags ((← get).rest.length + 1) false false
        return some (.found (← target text isCaseless isByLine))
  match first with
  | some '$' => return some .lastLine
  | some '/' => pattern '/'
  | some '\\' =>
      match ← take with
      | some slash => pattern slash
      | none => fail .openPattern
  | some c =>
      if !c.isDigit then return none
      let number ← numberFrom (some c)
      match ← takeSolid with
      | some '~' =>
          let step ← numberFrom (← takeSolid)
          return some (if step = 0 then .line number else .every number step)
      | c =>
          back c
          return some (.line number)
  | none => return none

def bound? (first : Option Char) : Reader (Option Bound) := do
  match first with
  | some '+' => return some (.further (← numberFrom (← takeSolid)))
  | some '~' => return some (.multiple (← numberFrom (← takeSolid)))
  | _ => return (← mark? first).map .mark

def choosing (first : Option Char) : Reader (Choosing × Option Char) := do
  if first = some '+' || first = some '~' then
    let _ ← numberFrom (← takeSolid)
    fail .boundFirst
  let mark ← mark? first
  let next ← if mark.isSome then takeSolid else pure first
  let bound ← if mark.isSome && next = some ',' then do
      match ← bound? (← takeSolid) with
      | some bound => pure (some bound)
      | none => fail .extraComma
    else pure none
  let next ← if bound.isSome then takeSolid else pure next
  if let some (.line 0) := mark then
    if !(bound matches some (.mark (.found _))) then fail .lineZero
  if next != some '!' then return ({ first := mark, bound }, next)
  let next ← takeSolid
  if next = some '!' then fail .extraNegation
  return ({ first := mark, bound, isInverse := true }, next)

/-- The lines of a text that is put out. At the end of a part it may go on in the next one. -/
def textLines : Nat → Reader Octets
  | 0 => return []
  | fuel + 1 => do
      match ← take with
      | none | some '\n' => return []
      | some '\\' =>
          match ← take with
          | some c => return '\\' :: c :: (← textLines fuel)
          | none =>
              match (← get).later with
              | [] => return []
              | (origin, rest) :: later =>
                  modify fun draft => { draft with origin, rest, later, count := 0, line := 1 }
                  return '\n' :: (← textLines fuel)
      | some c => return c :: (← textLines fuel)

def text : Reader Octets := do
  let draft ← get
  let fuel := draft.rest.length + (draft.later.map (·.2.length + 1)).foldl (· + ·) 0 + 1
  let read : Reader Octets := do
    return Escape.bare (← resolved .words (← textLines fuel)) ++ ['\n']
  match ← takeSolid with
  | none => fail .missingText
  | some '\\' =>
      match ← take with
      | some '\n' => read
      | some c =>
          back (some c)
          read
      | none =>
          match (← get).later with
          | [] => return []
          | (origin, rest) :: later =>
              modify fun draft => { draft with origin, rest, later, count := 0, line := 1 }
              read
  | c =>
      back c
      read

def isLabelEnd (c : Char) : Bool := isSpace c || c = ';' || c = '\x7d'

def label : Reader Octets := do
  let _ ← takeWhile isBlank
  takeWhile (!isLabelEnd ·)

def jumpLabel : Reader Label := do
  let label ← label
  return if label.isEmpty then none else some label

def name : Reader Octets := do
  let _ ← takeWhile isBlank
  let name ← takeWhile (· ≠ '\n')
  let _ ← take
  if name.isEmpty then fail .missingFile
  return name

def pieces : Octets → List Piece
  | [] => []
  | '&' :: rest => .group 0 :: pieces rest
  | '\\' :: c :: rest =>
      let piece : Piece := match c with
        | 'U' => .casing .upper
        | 'L' => .casing .lower
        | 'E' => .casing .plain
        | 'u' => .casing .nextUpper
        | 'l' => .casing .nextLower
        | c => if c.isDigit then .group (c.toNat - '0'.toNat) else .octet c
      piece :: pieces rest
  | c :: rest => .octet c :: pieces rest

structure Flags where
  isCaseless : Bool := false
  isByLine : Bool := false
  number : Option Nat := none
  isGlobal : Bool := false
  prints : Bool := false
  file : Option Octets := none

def flags : Nat → Flags → Reader Flags
  | 0, found => return found
  | fuel + 1, found => do
      match ← takeSolid with
      | none | some '\n' | some ';' => return found
      | some 'i' | some 'I' => flags fuel { found with isCaseless := true }
      | some 'm' | some 'M' => flags fuel { found with isByLine := true }
      | some 'e' => flags fuel found
      | some 'p' => if found.prints then fail .repeatedPrint else flags fuel { found with prints := true }
      | some 'g' =>
          if found.isGlobal then fail .repeatedGlobal else flags fuel { found with isGlobal := true }
      | some 'w' => return { found with file := some (← name) }
      | some c =>
          if c = '\x7d' || c = '#' then
            back (some c)
            return found
          if !c.isDigit then fail .unknownFlag
          if found.number.isSome then fail .repeatedNumber
          let number ← numberFrom (some c)
          if number = 0 then fail .numberZero
          flags fuel { found with number := some number }

def highestGroup (pieces : List Piece) : Nat :=
  pieces.foldl (fun highest piece =>
    match piece with
    | .group index => max highest index
    | _ => highest) 0

def substitution : Reader Deed := do
  let some mark ← take | fail .openSubstitution
  let some pattern ← slashed mark true | fail .openSubstitution
  let some replacement ← slashed mark false | fail .openSubstitution
  let pieces := pieces (← resolved .replacement replacement)
  let flags ← flags ((← get).rest.length + 1) {}
  let target ← target pattern flags.isCaseless flags.isByLine
  if let .regular regular := target then
    if regular.lastGroup < highestGroup pieces then fail (.unknownGroup (highestGroup pieces))
  let { number, isGlobal, prints, file, .. } := flags
  return .substitute { target, pieces, number := number.getD 1, isGlobal, prints, file }

def translation : Reader Deed := do
  let some mark ← take | fail .openTranslation
  let some source ← slashed mark false | fail .openTranslation
  let some images ← slashed mark false | fail .openTranslation
  let source := Escape.bare (← resolved .pairs source)
  let images := Escape.bare (← resolved .pairs images)
  if source.length ≠ images.length then fail .unequalLengths
  endCommand
  return .translate (source.zip images)

def option : Reader (Option Nat) := do
  match ← takeSolid with
  | some c =>
      if c.isDigit then return some (← numberFrom (some c))
      back (some c)
      return none
  | none => return none

def plainDeeds : List (Char × Deed) :=
  [('=', .number), ('d', .delete), ('D', .deleteLine), ('F', .fileName), ('g', .get),
    ('G', .getMore), ('h', .hold), ('H', .holdMore), ('n', .next), ('N', .nextMore), ('p', .print),
    ('P', .printLine), ('x', .swap), ('z', .empty)]

def isNewer (version : Octets) : Bool :=
  let numbers := (version.splitOnP (· = '.')).map fun part => (String.ofList part).toNat?.getD 0
  decide ([4, 9] < numbers)

def deed (choosing : Choosing) (letter : Option Char) : Reader Deed := do
  let one : Reader Unit := if choosing.bound.isSome then fail .secondMark else return
  match letter with
  | none => fail .missingCommand
  | some '\x7b' =>
      modify fun draft =>
        let block := (draft.script.steps.size, draft.origin, draft.line)
        { draft with blocks := block :: draft.blocks }
      return .opening
  | some '\x7d' =>
      match (← get).blocks with
      | [] => fail .extraClosing
      | (first, _) :: blocks =>
          if choosing.first.isSome then fail .markedClosing
          endCommand
          modify fun draft => { draft with blocks }
          return .closing first
  | some ':' =>
      if choosing.first.isSome then fail .markedLabel
      let label ← label
      if label.isEmpty then fail .emptyLabel
      modify fun draft =>
        let script := draft.script
        { draft with
          script := { script with labels := script.labels ++ [(label, script.steps.size)] } }
      return .nothing
  | some 'v' =>
      if isNewer (← label) then fail .newerVersion
      return .nothing
  | some 'a' => return .append (← text)
  | some 'i' => return .insert (← text)
  | some 'c' => return .change (← text)
  | some 'b' => return .jump (← jumpLabel)
  | some 't' => return .jumpIf true (← jumpLabel)
  | some 'T' => return .jumpIf false (← jumpLabel)
  | some 'q' =>
      one
      let status ← option
      endCommand
      return .quit (status.getD 0)
  | some 'Q' =>
      one
      let status ← option
      endCommand
      return .leave (status.getD 0)
  | some 'l' =>
      let width ← option
      endCommand
      return .spell width
  | some 'r' => return .readFile (← name)
  | some 'R' => return .readLine (← name)
  | some 'w' => return .write (← name)
  | some 'W' => return .writeLine (← name)
  | some 's' => substitution
  | some 'y' => translation
  | some c =>
      match plainDeeds.lookup c with
      | none => fail (.unknownCommand c)
      | some deed =>
          endCommand
          return deed

/-- A comment. One at the start of a script may ask for silence. -/
def comment (choosing : Choosing) : Reader Unit := do
  if choosing.first.isSome then fail .markedComment
  let text ← takeWhile (· ≠ '\n')
  let draft ← get
  let isFirst := draft.count = text.length + 1
    && (draft.origin matches .expression 1 || draft.line = 1)
  if isFirst && text.head? = some 'n' && draft.script.steps.isEmpty then
    set { draft with script := { draft.script with isSilent := true } }

def commands : Nat → Reader Unit
  | 0 => return
  | fuel + 1 => do
      let _ ← takeWhile fun c => c = ';' || isSpace c
      match ← take with
      | none =>
          match (← get).later with
          | [] => return
          | (origin, rest) :: later =>
              modify fun draft => { draft with origin, rest, later, count := 0, line := 1 }
              commands fuel
      | first =>
          let (choosing, letter) ← choosing first
          if letter = some '#' then comment choosing
          else
            let deed ← deed choosing letter
            modify fun draft =>
              let script := draft.script
              { draft with script := { script with steps := script.steps.push { choosing, deed } } }
          commands fuel

end Reader

def Script.read (isExtended : Bool) (parts : List (Origin × Octets)) : Except Octets Script := do
  let fuel := (parts.map (·.2.length + 2)).foldl (· + ·) 0 + 1
  let (_, draft) ← (Reader.commands fuel).run { later := parts, isExtended }
  match draft.blocks with
  | [] => return draft.script
  | (_, origin, line) :: _ => throw (complaint origin 0 line .openBlock)

end GoldenSuite.Utility.Editor
