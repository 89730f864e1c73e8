import GoldenSuite.Utility.Difference.Script
import GoldenSuite.Utility.Regular
import GoldenSuite.Utility.Slice

set_option autoImplicit false

namespace GoldenSuite.Utility

open Text (Octets)

namespace Difference

inductive Blanks where
  | none
  | tabs
  | trailing
  | tabsAndTrailing
  | amount
  | every
  deriving DecidableEq, Repr

inductive Style where
  | normal
  | unified
  | contextual
  | commands
  | forwardCommands
  | numbered
  | sideBySide
  deriving DecidableEq, Repr

structure Manner where
  style : Style := .normal
  context : Nat := 0
  horizon : Nat := 0
  blanks : Blanks := .none
  foldsCase : Bool := false
  ignoresEmpty : Bool := false
  ignored : Option Regular := none
  heading : Option Regular := none
  isMinimal : Bool := false
  tabBefore : Bool := false
  expandsTabs : Bool := false
  tabSize : Nat := 8
  width : Nat := 130
  skipsCommon : Bool := false
  showsLeft : Bool := false
  trimsEmpty : Bool := false

structure Side where
  lines : Array Octets
  isCut : Bool

namespace Side

def of (text : Octets) : Side :=
  ⟨(linesOf text).toArray, !text.isEmpty && text.getLast? ≠ some '\n'⟩

def line (side : Side) (index : Nat) : Octets := side.lines.getD index []

def isCutAt (side : Side) (index : Nat) : Bool := side.isCut && index + 1 = side.lines.size

def size (side : Side) : Nat := side.lines.size

end Side

def isSpace (c : Char) : Bool := Count.isSpace c

def withoutTabs (size column : Nat) : Octets → Octets
  | [] => []
  | '\t' :: rest =>
      let width := size - column % size
      List.replicate width ' ' ++ withoutTabs size (column + width) rest
  | '\r' :: rest => '\r' :: withoutTabs size 0 rest
  | c :: rest =>
      let column := if c = '\x08' then column - 1 else if isControl c then column else column + 1
      c :: withoutTabs size column rest

def withoutTrailing (line : Octets) : Octets := (line.reverse.dropWhile isSpace).reverse

def withSingleBlanks (line : Octets) : Octets :=
  (line.splitBy fun a b => isSpace a = isSpace b).flatMap fun run =>
    if run.any isSpace then [' '] else run

def Manner.key (manner : Manner) (line : Octets) : Octets :=
  let line := match manner.blanks with
    | .none => line
    | .tabs => withoutTabs manner.tabSize 0 line
    | .trailing => withoutTrailing line
    | .tabsAndTrailing => withoutTrailing (withoutTabs manner.tabSize 0 line)
    | .amount => withSingleBlanks (withoutTrailing line)
    | .every => line.filter fun c => !isSpace c
  if manner.foldsCase then line.map Char.toLower else line

def Manner.isRobust (manner : Manner) : Bool :=
  manner.style ≠ .commands && manner.style ≠ .forwardCommands

def Manner.countsEnds (manner : Manner) : Bool :=
  manner.isRobust && (manner.blanks = .none || manner.blanks = .tabs)

def agreeing {α : Type} [DecidableEq α] : List α → List α → Nat
  | a :: left, b :: right => if a = b then agreeing left right + 1 else 0
  | _, _ => 0

def Side.whole (isRobust : Bool) (side : Side) : List (Octets × Bool) :=
  side.lines.toList.zipIdx.map fun (line, index) => (line, isRobust && side.isCutAt index)

def numbersOf (keys : List (Octets × Bool)) (known : List (Octets × Bool)) :
    List Nat × List (Octets × Bool) :=
  keys.foldl (fun (numbers, known) key =>
    let index := known.idxOf key
    (numbers ++ [index], if index < known.length then known else known ++ [key])) ([], known)

/-- The changes between two texts. Lines at both ends that agree are no part of it, but for those that
may be shown. -/
def Manner.changes (manner : Manner) (left right : Side) : List Change :=
  let leftLines := left.whole manner.isRobust
  let rightLines := right.whole manner.isRobust
  let front := agreeing leftLines rightLines - manner.horizon
  let endsAlike := !manner.isRobust || left.isCut = right.isCut
  let most := agreeing leftLines rightLines
  let back :=
    if endsAlike then
      agreeing (leftLines.drop most).reverse (rightLines.drop most).reverse - manner.horizon
    else 0
  let middle (lines : List (Octets × Bool)) : List (Octets × Bool) :=
    ((lines.take (lines.length - back)).drop front).map fun (line, isCut) =>
      (manner.key line, manner.countsEnds && isCut)
  let (leftNumbers, known) := numbersOf (middle leftLines) []
  let (rightNumbers, _) := numbersOf (middle rightLines) known
  (Change.between (!manner.isMinimal) leftNumbers rightNumbers).map fun change =>
    { change with left := change.left + front, right := change.right + front }

def Manner.ignoresLine (manner : Manner) (line : Octets) : Bool :=
  let rest := match manner.blanks with
    | .none | .tabs => line
    | .trailing | .tabsAndTrailing => if line.all isSpace then [] else line
    | .amount | .every => line.dropWhile isSpace
  (manner.ignoresEmpty && rest.isEmpty)
    || manner.ignored.any fun ignored => (ignored.search line.toArray 0).isSome

def span (side : Side) (first count : Nat) : List Octets :=
  (List.range count).map fun step => side.line (first + step)

def Manner.ignores (manner : Manner) (left right : Side) (changes : List Change) : Bool :=
  (manner.ignoresEmpty || manner.ignored.isSome) && changes.all fun change =>
    (span left change.left change.deleted).all manner.ignoresLine
      && (span right change.right change.inserted).all manner.ignoresLine

def Manner.hunks (manner : Manner) (left right : Side) (changes : List Change) :
    List (List Change) :=
  let isIgnored (change : Change) : Bool := manner.ignores left right [change]
  changes.splitBy fun before after =>
    let room := if isIgnored after then manner.context else 2 * manner.context + 1
    after.left - before.leftEnd < room

def Manner.row (manner : Manner) (sign : Option Octets) (side : Side) (index : Nat) : Octets :=
  let line := side.line index
  let lead := match sign with
    | none | some [] => []
    | some sign =>
        if manner.trimsEmpty && line.isEmpty then sign.filter (· ≠ ' ')
        else sign ++ [if manner.tabBefore then '\t' else ' ']
  let body := if manner.expandsTabs then withoutTabs manner.tabSize 0 line else line
  let ending :=
    if manner.isRobust && side.isCutAt index then
      if sign = some [] then [] else say "\n\\ No newline at end of file\n"
    else ['\n']
  lead ++ body ++ ending

def Manner.rows (manner : Manner) (sign : Option Octets) (side : Side) (first count : Nat) : Octets :=
  (List.range count).flatMap fun step => manner.row sign side (first + step)

def range (separator : Char) (first count : Nat) : Octets :=
  if 1 < count then decimal (first + 1) ++ separator :: decimal (first + count)
  else decimal (first + count)

def letter (change : Change) : Char :=
  if change.inserted = 0 then 'd' else if change.deleted = 0 then 'a' else 'c'

def Manner.normal (manner : Manner) (left right : Side) (change : Change) : Octets :=
  range ',' change.left change.deleted ++ letter change :: range ',' change.right change.inserted
    ++ '\n' :: manner.rows (some ['<']) left change.left change.deleted
    ++ (if letter change = 'c' then say "---\n" else [])
    ++ manner.rows (some ['>']) right change.right change.inserted

def editorLines (manner : Manner) (right : Side) (first count : Nat) : Octets :=
  let parts := (List.range count).map fun step =>
    let index := first + step
    if right.line index = ['.'] then (say "..\n.\ns/.//\n", true)
    else (manner.row (some []) right index, false)
  let isLastDot := parts.getLast?.any (·.2)
  let joined := parts.zipIdx.flatMap fun ((part, _), index) =>
    let isAfterDot := 0 < index && (parts[index - 1]?).any (·.2)
    (if isAfterDot then say "a\n" else []) ++ part
  joined ++ if isLastDot then [] else say ".\n"

def Manner.command (manner : Manner) (right : Side) (change : Change) : Octets :=
  range ',' change.left change.deleted ++ [letter change, '\n']
    ++ if change.inserted = 0 then [] else editorLines manner right change.right change.inserted

def Manner.forwardCommand (manner : Manner) (right : Side) (change : Change) : Octets :=
  letter change :: range ' ' change.left change.deleted ++ '\n' ::
    if change.inserted = 0 then []
    else manner.rows (some []) right change.right change.inserted ++ say ".\n"

def Manner.numbered (manner : Manner) (right : Side) (change : Change) : Octets :=
  let number (value : Nat) : Octets := decimal value
  (if change.deleted = 0 then []
    else 'd' :: number (change.left + 1) ++ ' ' :: number change.deleted ++ ['\n'])
    ++ if change.inserted = 0 then []
      else
        'a' :: number change.leftEnd ++ ' ' :: number change.inserted ++ '\n' ::
          manner.rows (some []) right change.right change.inserted

def Manner.shown (manner : Manner) (side : Side) (first last : Nat) : Nat × Nat :=
  (first - manner.context, min side.size (last + manner.context))

def Manner.headingBefore (manner : Manner) (left : Side) (first : Nat) : Octets :=
  match manner.heading with
  | none => []
  | some heading =>
      let found := (left.lines.toList.take first).reverse.find? fun line =>
        (heading.search line.toArray 0).isSome
      match found with
      | none => []
      | some line => ' ' :: withoutTrailing ((line.dropWhile isSpace).take 40)

def Manner.unifiedRows (manner : Manner) (left right : Side) (last : Nat) :
    Nat → List Change → Octets
  | at_, [] =>
      (List.range (last - at_)).flatMap fun step => unchanged (at_ + step)
  | at_, change :: rest =>
      ((List.range (change.left - at_)).flatMap fun step => unchanged (at_ + step))
        ++ changed '-' left change.left change.deleted
        ++ changed '+' right change.right change.inserted
        ++ unifiedRows manner left right last change.leftEnd rest
where
  unchanged (index : Nat) : Octets :=
    let isBare := manner.trimsEmpty && (left.line index).isEmpty
    (if isBare then [] else [if manner.tabBefore then '\t' else ' ']) ++ manner.row none left index
  changed (sign : Char) (side : Side) (first count : Nat) : Octets :=
    (List.range count).flatMap fun step =>
      let index := first + step
      let isBare := manner.trimsEmpty && (side.line index).isEmpty
      let gap := if manner.tabBefore && !isBare then ['\t'] else []
      sign :: gap ++ manner.row none side index

def unifiedRange (first count : Nat) : Octets :=
  if count = 1 then decimal (first + 1)
  else if count = 0 then decimal first ++ say ",0"
  else decimal (first + 1) ++ ',' :: decimal count

def Manner.unified (manner : Manner) (left right : Side) (hunk : List Change) : Octets :=
  match hunk.head?, hunk.getLast? with
  | some first, some last =>
      let (leftFirst, leftLast) := manner.shown left first.left last.leftEnd
      let (rightFirst, rightLast) := manner.shown right first.right last.rightEnd
      say "@@ -" ++ unifiedRange leftFirst (leftLast - leftFirst) ++ say " +"
        ++ unifiedRange rightFirst (rightLast - rightFirst) ++ say " @@"
        ++ manner.headingBefore left leftFirst ++ '\n' ::
        manner.unifiedRows left right leftLast leftFirst hunk
  | _, _ => []

def contextualRange (first count : Nat) : Octets :=
  if count ≤ 1 then decimal (first + count) else decimal (first + 1) ++ ',' :: decimal (first + count)

def Manner.contextualRows (manner : Manner) (side : Side) (sign : Octets) (first last : Nat)
    (changes : List (Nat × Nat × Nat)) : Octets :=
  (List.range (last - first)).flatMap fun step =>
    let index := first + step
    let found := changes.find? fun (place, size, _) => place ≤ index && index < place + size
    let sign := match found with
      | none => [' ']
      | some (_, _, other) => if 0 < other then ['!'] else sign
    manner.row (some sign) side index

def Manner.contextual (manner : Manner) (left right : Side) (hunk : List Change) : Octets :=
  match hunk.head?, hunk.getLast? with
  | some first, some last =>
      let (leftFirst, leftLast) := manner.shown left first.left last.leftEnd
      let (rightFirst, rightLast) := manner.shown right first.right last.rightEnd
      let leftRows :=
        if hunk.all (·.deleted = 0) then []
        else manner.contextualRows left ['-'] leftFirst leftLast
          (hunk.map fun change => (change.left, change.deleted, change.inserted))
      let rightRows :=
        if hunk.all (·.inserted = 0) then []
        else manner.contextualRows right ['+'] rightFirst rightLast
          (hunk.map fun change => (change.right, change.inserted, change.deleted))
      say "***************" ++ manner.headingBefore left leftFirst ++ say "\n*** "
        ++ contextualRange leftFirst (leftLast - leftFirst) ++ say " ****\n" ++ leftRows
        ++ say "--- " ++ contextualRange rightFirst (rightLast - rightFirst) ++ say " ----\n" ++ rightRows
  | _, _ => []

end Difference

end GoldenSuite.Utility
