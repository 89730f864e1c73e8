import GoldenSuite.Regex.Reduced
import GoldenSuite.Text.Blank
import GoldenSuite.Text.Search
import GoldenSuite.Unicode.Name
import GoldenSuite.Unicode.Recent

set_option autoImplicit false

namespace GoldenSuite.Regex

structure Flags where
  anyCase : Bool := false
  multiLine : Bool := false
  dotAll : Bool := false
  anyLineEnd : Bool := false
  unicode : Bool := true
  spaced : Bool := false

structure Cursor where
  rest : List Char
  flags : Flags := {}
  names : List (List Char) := []

abbrev Parse := StateT Cursor Option

namespace Parse

def peek : Parse (Option Char) := do return (← get).rest.head?

def flags : Parse Flags := do return (← get).flags

def setFlags (flags : Flags) : Parse Unit := modify fun cursor => { cursor with flags }

def setRest (rest : List Char) : Parse Unit := modify fun cursor => { cursor with rest }

def next : Parse Char := do
  match (← get).rest with
  | c :: rest => setRest rest; return c
  | [] => failure

def accept (mark : List Char) : Parse Bool := do
  let rest := (← get).rest
  if mark.isPrefixOf rest then
    setRest (rest.drop mark.length)
    return true
  else return false

def expect (mark : List Char) : Parse Unit := do
  if ← accept mark then return else failure

def given {α : Type} : Option α → Parse α
  | some value => return value
  | none => failure

def skipBlanks : Bool → List Char → List Char
  | _, [] => []
  | true, c :: rest => skipBlanks (c ≠ '\n') rest
  | false, c :: rest =>
      if Text.isBlank c then skipBlanks false rest
      else if c = '#' then skipBlanks true rest
      else c :: rest

def space : Parse Unit := do
  if (← flags).spaced then setRest (skipBlanks false (← get).rest)

def nextSpaced : Parse Char := do
  let c ← next
  space
  return c

def run (isWanted : Char → Bool) : Nat → Parse (List Char)
  | 0 => return []
  | fuel + 1 => do
      match ← peek with
      | some c => if isWanted c then return (← nextSpaced) :: (← run isWanted fuel) else return []
      | none => return []

def runAll (isWanted : Char → Bool) : Parse (List Char) := do run isWanted (← get).rest.length

end Parse

open Parse

-- Sets under flags

def asciiBlanks : CharSet := ⟨[⟨0x9, 0xD⟩, ⟨0x20, 0x20⟩]⟩

def asciiDigits : CharSet := .ofRange 0x30 0x39

def asciiCapitals : CharSet := .ofRange 0x41 0x5A

def asciiSmalls : CharSet := .ofRange 0x61 0x7A

def wordsUnder (flags : Flags) : Words := if flags.unicode then .unicode else .ascii

def asciiClosure (set : CharSet) : CharSet :=
  let moved (ranges : List CharRange) (move : Nat → Nat) : List CharRange :=
    ranges.map fun range => ⟨move range.low, move range.high⟩
  .ofRanges (set.ranges ++ moved (set ∩ asciiCapitals).ranges (· + 0x20)
    ++ moved (set ∩ asciiSmalls).ranges (· - 0x20))

def folded (flags : Flags) (set : CharSet) : CharSet :=
  if !flags.anyCase then set
  else if flags.unicode then Unicode.Case.closure set
  else asciiClosure set

/-- The characters not in a set. Without Unicode there is no such set of whole characters. -/
def complemented (flags : Flags) (isNegated : Bool) (set : CharSet) : Parse CharSet := do
  if !isNegated then return set
  else if flags.unicode then return set.complement
  else failure

-- Escapes

inductive Escape where
  | char (c : Char) (isByte : Bool)
  | set (set : CharSet)
  | look (condition : Look)

def hexNumber (digits : List Char) : Parse Char := do
  let value := digits.foldl (fun sum c =>
    sum * 16 + (if c.isDigit then c.toNat - '0'.toNat else c.toUpper.toNat - 'A'.toNat + 10)) 0
  if value.isValidChar then return Char.ofNat value else failure

def isHexDigit (c : Char) : Bool := c.isDigit || ('a' ≤ c && c ≤ 'f') || ('A' ≤ c && c ≤ 'F')

def hexDigits : Nat → Parse (List Char)
  | 0 => return []
  | count + 1 => do
      let c ← nextSpaced
      if isHexDigit c then return c :: (← hexDigits count) else failure

def hexEscape (digits : Nat) : Parse Escape := do
  space
  if ← accept ['\x7b'] then
    space
    let written ← runAll isHexDigit
    expect ['\x7d']
    space
    if written.isEmpty then failure
    return .char (← hexNumber written) false
  else return .char (← hexNumber (← hexDigits digits)) (digits = 2)

def splitAround (mark name : List Char) : Option (List Char × List Char) :=
  match Text.pieces mark name with
  | first :: second :: more => some (first, (second :: more).intersperse mark |>.flatten)
  | _ => none

def namedSet (name : List Char) : Parse (Bool × CharSet) := do
  match splitAround ['!', '='] name with
  | some (property, value) => return (true, ← given (Unicode.Name.setWithValue? property value))
  | none =>
      match (splitAround [':'] name).or (splitAround ['='] name) with
      | some (property, value) =>
          return (false, ← given (Unicode.Name.setWithValue? property value))
      | none => return (false, ← given (Unicode.Name.set? name))

def propertyEscape (isNegated : Bool) : Parse Escape := do
  space
  let flags ← flags
  let name ← if ← accept ['\x7b'] then do
      space
      let name ← runAll (· ≠ '\x7d')
      expect ['\x7d']
      pure name
    else do
      let c ← nextSpaced
      if c = '\\' then failure
      pure [c]
  if !flags.unicode then failure
  let (isInverse, set) ← namedSet name
  return .set (← complemented flags (isNegated != isInverse) (folded flags set))

def classEscape (inUnicode inAscii : CharSet) (isNegated : Bool) : Parse Escape := do
  let flags ← flags
  return .set (← complemented flags isNegated (if flags.unicode then inUnicode else inAscii))

def decimalDigits : CharSet := Unicode.Category.set .decimalNumber

def boundaryEscape : Parse Escape := do
  let words := wordsUnder (← flags)
  let before := (← get).rest
  let isKindLetter (c : Char) : Bool := c.isAlpha || c = '-'
  if ← accept ['\x7b'] then
    space
    match ← peek with
    | none => failure
    | some c =>
        if isKindLetter c then
          let kind ← runAll isKindLetter
          expect ['\x7d']
          match String.ofList kind with
          | "start" => return .look (.wordStart words)
          | "end" => return .look (.wordEnd words)
          | "start-half" => return .look (.noWordBefore words)
          | "end-half" => return .look (.noWordAfter words)
          | _ => failure
        else setRest before
  return .look (.wordBoundary words)

/-- The escape after a backslash. Punctuation stands for itself. -/
def escape : Parse Escape := do
  let c ← next
  let words := wordsUnder (← flags)
  match c with
  | 'x' => hexEscape 2
  | 'u' => hexEscape 4
  | 'U' => hexEscape 8
  | 'p' => propertyEscape false
  | 'P' => propertyEscape true
  | 'd' => classEscape decimalDigits asciiDigits false
  | 'D' => classEscape decimalDigits asciiDigits true
  | 's' => classEscape Unicode.Property.whiteSpace asciiBlanks false
  | 'S' => classEscape Unicode.Property.whiteSpace asciiBlanks true
  | 'w' => classEscape Unicode.Property.word .asciiWord false
  | 'W' => classEscape Unicode.Property.word .asciiWord true
  | 'a' => return .char '\x07' false
  | 'f' => return .char '\x0c' false
  | 't' => return .char '\t' false
  | 'n' => return .char '\n' false
  | 'r' => return .char '\r' false
  | 'v' => return .char '\x0b' false
  | 'A' => return .look .textStart
  | 'z' => return .look .textEnd
  | 'b' => boundaryEscape
  | 'B' => return .look (.noWordBoundary words)
  | '<' => return .look (.wordStart words)
  | '>' => return .look (.wordEnd words)
  | _ => if c.toNat < 0x80 && !c.isAlphanum then return .char c false else failure

-- Classes

def charSet (c : Char) (isByte : Bool) : Parse CharSet := do
  let flags ← flags
  if !flags.unicode && isByte && 0x80 ≤ c.toNat then failure
  else return folded flags (.single c)

def rangeEnd : Escape → Parse Char
  | .char c _ => do
      if (← flags).unicode || c.toNat < 0x80 then return c else failure
  | _ => failure

def classItem : Parse Escape := do
  if ← accept ['\\'] then escape else return .char (← next) false

def aheadOf (spaced : Bool) (rest : List Char) : Option Char :=
  let after := rest.drop 1
  if !spaced then after.head?
  else
    match after.dropWhile Text.isBlank with
    | '#' :: comment => (comment.dropWhile Text.isBlank).head?
    | solid => solid.head?

def classRange : Parse CharSet := do
  let item ← classItem
  space
  let cursor ← get
  let ahead := aheadOf cursor.flags.spaced cursor.rest
  if cursor.rest.head? = some '-' && ahead ≠ some ']' && ahead ≠ some '-' then
    let _ ← nextSpaced
    let low ← rangeEnd item
    let high ← rangeEnd (← classItem)
    if low ≤ high then return .ofRange low.toNat high.toNat else failure
  else match item with
    | .char .. => return .single (← rangeEnd item)
    | .set set => return set
    | .look _ => failure

def asciiSet? : String → Option CharSet
  | "alnum" => some (.unions [asciiDigits, asciiCapitals, asciiSmalls])
  | "alpha" => some (asciiCapitals ∪ asciiSmalls)
  | "ascii" => some (.ofRange 0 0x7F)
  | "blank" => some (.ofCodes [0x9, 0x20])
  | "cntrl" => some (.ofRange 0 0x1F ∪ .single '\x7f')
  | "digit" => some asciiDigits
  | "graph" => some (.ofRange 0x21 0x7E)
  | "lower" => some asciiSmalls
  | "print" => some (.ofRange 0x20 0x7E)
  | "punct" => some (.ofRange 0x21 0x7E \ .unions [asciiDigits, asciiCapitals, asciiSmalls])
  | "space" => some asciiBlanks
  | "upper" => some asciiCapitals
  | "word" => some .asciiWord
  | "xdigit" => some (.unions [asciiDigits, .ofRange 0x41 0x46, .ofRange 0x61 0x66])
  | _ => none

def asciiClass? (text : List Char) : Option (Bool × CharSet × List Char) := do
  let '[' :: ':' :: rest := text | none
  let (isNegated, rest) := match rest with
    | '^' :: more => (true, more)
    | _ => (false, rest)
  let ':' :: ']' :: after := rest.dropWhile (· ≠ ':') | none
  return (isNegated, ← asciiSet? (String.ofList (rest.takeWhile (· ≠ ':'))), after)

inductive SetOperation where
  | intersection
  | difference
  | symmetricDifference
  deriving DecidableEq, Repr

def SetOperation.apply : SetOperation → CharSet → CharSet → CharSet
  | .intersection, left, right => left ∩ right
  | .difference, left, right => left \ right
  | .symmetricDifference, left, right => left.exclusive right

def depthOfItems (count deepest : Nat) : Nat := if count ≤ 1 then deepest else deepest + 1

structure ClassItems where
  set : CharSet := .empty
  count : Nat := 0
  deepest : Nat := 0

namespace ClassItems

def add (items : ClassItems) (set : CharSet) (depth : Nat) : ClassItems :=
  ⟨items.set ∪ set, items.count + 1, max items.deepest depth⟩

def depth (items : ClassItems) : Nat := depthOfItems items.count items.deepest

end ClassItems

structure ClassSet where
  set : CharSet
  depth : Nat

abbrev Pending := Option (ClassSet × SetOperation)

def settle (flags : Flags) (pending : Pending) (items : ClassItems) : ClassSet :=
  match pending with
  | none => ⟨items.set, items.depth⟩
  | some (left, operation) =>
      ⟨operation.apply (folded flags left.set) (folded flags items.set),
        max left.depth items.depth + 1⟩

def setOperation? : Parse (Option SetOperation) := do
  if ← accept ['&', '&'] then return some .intersection
  else if ← accept ['-', '-'] then return some .difference
  else if ← accept ['~', '~'] then return some .symmetricDifference
  else return none

mutual

/-- A class after its opening bracket. Hyphens in front, and then a closing bracket, are plain
characters. -/
def classBody : Nat → Parse ClassSet
  | 0 => failure
  | fuel + 1 => do
      let flags ← flags
      space
      let isNegated ← accept ['^']
      space
      let hyphens ← runAll (· = '-')
      let isBracket ← if hyphens.isEmpty then accept [']'] else pure false
      space
      let first := hyphens.foldl (fun items _ => items.add (.single '-') 0) {}
      let first := if isBracket then first.add (.single ']') 0 else first
      let inner ← classItems fuel none first
      return ⟨← complemented flags isNegated (folded flags inner.set), inner.depth + 1⟩

def classItems : Nat → Pending → ClassItems → Parse ClassSet
  | 0, _, _ => failure
  | fuel + 1, pending, items => do
      space
      let flags ← flags
      match ← setOperation? with
      | some operation =>
          classItems fuel (some (settle flags pending items, operation)) {}
      | none =>
          if ← accept [']'] then return settle flags pending items
          match asciiClass? (← get).rest with
          | some (isNegated, ascii, rest) =>
              setRest rest
              let more ← complemented flags isNegated (folded flags ascii)
              classItems fuel pending (items.add more 0)
          | none =>
              if ← accept ['['] then
                let inner ← classBody fuel
                classItems fuel pending (items.add inner.set inner.depth)
              else classItems fuel pending (items.add (← classRange) 0)

end

-- Groups

def flagLetters : Nat → List Char → Parse (List Char)
  | 0, _ => failure
  | fuel + 1, done => do
      match ← peek with
      | none => failure
      | some c =>
          if c = ':' || c = ')' then
            if done.head? = some '-' then failure else return done.reverse
          else if c ∈ ['i', 'm', 's', 'U', 'u', 'R', 'x', '-'] && c ∉ done then
            let _ ← next
            flagLetters fuel (c :: done)
          else failure

def Flags.set (flags : Flags) (isOn : Bool) : Char → Flags
  | 'i' => { flags with anyCase := isOn }
  | 'm' => { flags with multiLine := isOn }
  | 's' => { flags with dotAll := isOn }
  | 'R' => { flags with anyLineEnd := isOn }
  | 'u' => { flags with unicode := isOn }
  | 'x' => { flags with spaced := isOn }
  | _ => flags

def Flags.apply (flags : Flags) (letters : List Char) : Flags :=
  let on := letters.takeWhile (· ≠ '-')
  let off := letters.dropWhile (· ≠ '-')
  let flags := on.foldl (fun flags c => flags.set true c) flags
  off.foldl (fun flags c => flags.set false c) flags

def isNameChar (isFirst : Bool) (c : Char) : Bool :=
  c = '_' || Unicode.isAlphabetic c
    || (!isFirst && (c ∈ ['.', '[', ']'] || Unicode.isAlphanumeric c))

def groupName : Parse Unit := do
  let rest := (← get).rest
  let name := rest.takeWhile (· ≠ '>')
  match name with
  | [] => failure
  | first :: more =>
      if isNameChar true first && more.all (isNameChar false) && name ∉ (← get).names then
        setRest (rest.drop name.length)
        expect ['>']
        modify fun cursor => { cursor with names := name :: cursor.names }
      else failure

def isLookaround (rest : List Char) : Bool :=
  [['?', '='], ['?', '!'], ['?', '<', '='], ['?', '<', '!']].any (·.isPrefixOf rest)

inductive GroupKind where
  | remembered
  | plain
  | setting
  deriving DecidableEq, Repr

def groupOpening : Parse GroupKind := do
  space
  if isLookaround (← get).rest then failure
  else if ← accept ['?', 'P', '<'] then
    groupName
    return .remembered
  else if ← accept ['?', '<'] then
    groupName
    return .remembered
  else if ← accept ['?'] then
    let letters ← flagLetters 9 []
    setFlags ((← flags).apply letters)
    if ← accept [')'] then
      if letters.isEmpty then failure else return .setting
    else
      expect [':']
      return .plain
  else return .remembered

-- Repetitions

def count? : Parse (Option Nat) := do
  setRest ((← get).rest.dropWhile Text.isBlank)
  let digits ← runAll Char.isDigit
  setRest ((← get).rest.dropWhile Text.isBlank)
  let value := digits.foldl (fun sum c => sum * 10 + (c.toNat - '0'.toNat)) 0
  if digits.isEmpty then return none
  else if value < Nat.pow 2 32 then return some value
  else failure

def counts : Parse (Nat × Option Nat) := do
  space
  let least ← count?
  let range ← if ← accept [','] then do
      space
      if (← peek) = some '\x7d' then pure (← given least, none)
      else do
        let most ← given (← count?)
        pure (← given least, some most)
    else do
      let count ← given least
      pure (count, some count)
  expect ['\x7d']
  if range.2.all (range.1 ≤ ·) then return range else failure

structure Piece where
  regex : Regex
  depth : Nat := 0
  isSetting : Bool := false

def repeatLast (done : List Piece) (least : Nat) (most : Option Nat) : Parse (List Piece) := do
  let _ ← accept ['?']
  match done with
  | piece :: before =>
      if piece.isSetting then failure
      else return ⟨ofTimes piece.regex least most, piece.depth + 1, false⟩ :: before
  | _ => failure

-- Expressions

def dot (flags : Flags) : Parse Regex := do
  if !flags.unicode then failure
  else if flags.dotAll then return one .all
  else return one (CharSet.complement (.ofCodes (if flags.anyLineEnd then [0xA, 0xD] else [0xA])))

def lineStart (flags : Flags) : Look :=
  if !flags.multiLine then .textStart
  else if flags.anyLineEnd then .anyLineStart
  else .lineStart

def lineEnd (flags : Flags) : Look :=
  if !flags.multiLine then .textEnd
  else if flags.anyLineEnd then .anyLineEnd
  else .lineEnd

def deepest (pieces : List Piece) : Nat := pieces.foldl (fun depth piece => max depth piece.depth) 0

def inSequence (done : List Piece) : Piece :=
  ⟨ofSequence (done.reverse.map (·.regex)), depthOfItems done.length (deepest done), false⟩

def inChoice : List Piece → Piece
  | [piece] => { piece with isSetting := false }
  | pieces => ⟨ofChoice (pieces.map (·.regex)), deepest pieces + 1, false⟩

mutual

def readChoice : Nat → Parse (List Piece)
  | 0 => failure
  | fuel + 1 => do
      let first ← readSequence fuel []
      if ← accept ['|'] then return first :: (← readChoice fuel) else return [first]

def readSequence : Nat → List Piece → Parse Piece
  | 0, _ => failure
  | fuel + 1, done => do
      space
      let flags ← flags
      match ← peek with
      | none | some ')' | some '|' => return inSequence done
      | some c =>
          let _ ← next
          match c with
          | '(' => readSequence fuel ((← readGroup fuel) :: done)
          | '[' =>
              let set ← classBody fuel
              readSequence fuel (⟨ofSet set.set, set.depth, false⟩ :: done)
          | '?' => readSequence fuel (← repeatLast done 0 (some 1))
          | '*' => readSequence fuel (← repeatLast done 0 none)
          | '+' => readSequence fuel (← repeatLast done 1 none)
          | '\x7b' =>
              let (least, most) ← counts
              space
              readSequence fuel (← repeatLast done least most)
          | '.' => readSequence fuel ({ regex := ← dot flags } :: done)
          | '^' => readSequence fuel ({ regex := look (lineStart flags) } :: done)
          | '$' => readSequence fuel ({ regex := look (lineEnd flags) } :: done)
          | '\\' =>
              let regex ← match ← escape with
                | .char c isByte => do pure (ofSet (← charSet c isByte))
                | .set set => pure (ofSet set)
                | .look condition => pure (look condition)
              readSequence fuel ({ regex } :: done)
          | _ => readSequence fuel ({ regex := ofSet (← charSet c false) } :: done)

def readGroup : Nat → Parse Piece
  | 0 => failure
  | fuel + 1 => do
      let outside ← flags
      match ← groupOpening with
      | .setting => return { regex := empty, isSetting := true }
      | kind =>
          let inner := inChoice (← readChoice fuel)
          expect [')']
          setFlags outside
          let regex := if kind = .remembered then Regex.group inner.regex else inner.regex
          return { regex, depth := inner.depth + 1 }

end

def depthLimit : Nat := 250

def parse? (pattern : String) : Option Regex := do
  let text := pattern.toList
  let (options, cursor) ← StateT.run (readChoice (3 * text.length + 3)) { rest := text }
  let piece := inChoice options
  if cursor.rest.isEmpty && piece.depth ≤ depthLimit then return piece.regex else none

end GoldenSuite.Regex
