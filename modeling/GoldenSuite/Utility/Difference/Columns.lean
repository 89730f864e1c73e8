import GoldenSuite.Utility.Difference.Report

set_option autoImplicit false

namespace GoldenSuite.Utility

open Text (Octets)

namespace Difference

structure Columns where
  half : Nat
  second : Nat

def gutter : Nat := 3

def Manner.columns (manner : Manner) : Columns :=
  let stop := if manner.expandsTabs then 1 else manner.tabSize
  let width := manner.width
  let both := stop + gutter
  let odd := if width % 2 = 1 && both % 2 = 1 then 1 else 0
  let start := width / 2 + both / 2 + odd
  let start := start - start % stop
  let half := if start ≤ gutter || width ≤ start then 0 else min (start - gutter) (width - start)
  ⟨half, if half = 0 then width else start⟩

def Manner.gap (manner : Manner) (first last : Nat) : Octets :=
  if manner.expandsTabs then List.replicate (last - first) ' '
  else
    let tabs := last / manner.tabSize - first / manner.tabSize
    let reached := if tabs = 0 then first else last / manner.tabSize * manner.tabSize
    List.replicate tabs '\t' ++ List.replicate (last - reached) ' '

/-- A line in a column that starts at an indent, and how far it comes. The places are those in the
line and those in the column, which differ where something does not fit. -/
def Manner.cell (manner : Manner) (indent bound : Nat) : Nat → Nat → Octets → Octets × Nat
  | _, column, [] => ([], column)
  | place, column, c :: rest =>
      let then_ (shown : Octets) (place column : Nat) : Octets × Nat :=
        let (more, column) := manner.cell indent bound place column rest
        (shown ++ more, column)
      if c = '\t' then
        let width := manner.tabSize - place % manner.tabSize
        if place ≠ column then then_ [] (place + width) column
        else if manner.expandsTabs then
          let stop := min bound (column + width)
          then_ (List.replicate (stop - column) ' ') (place + width) (max stop column)
        else if column + width < bound then then_ [c] (place + width) (column + width)
        else then_ [] (place + width) column
      else if c = '\r' then then_ (c :: manner.gap 0 indent) 0 0
      else if c = '\x08' then
        if place = 0 then then_ [] 0 column
        else if place - 1 < bound then
          if column ≤ place - 1 then
            then_ (List.replicate (place - 1 - column) ' ') (place - 1) (place - 1)
          else then_ [c] (place - 1) (place - 1)
        else then_ [] (place - 1) column
      else if ' ' ≤ c && c ≤ '~' then
        if place < bound then then_ [c] (place + 1) (place + 1) else then_ [] (place + 1) column
      else then_ (if place < bound then [c] else []) place column

def Manner.columnRow (manner : Manner) (left right : Side) (first : Option Nat) (sign : Char)
    (second : Option Nat) : Octets :=
  let columns := manner.columns
  let (shownLeft, column) := match first with
    | some index => manner.cell 0 columns.half 0 0 (left.line index)
    | none => ([], 0)
  let leftEnds := first.any fun index => !left.isCutAt index
  let rightEnds := second.any fun index => !right.isCutAt index
  let sign :=
    if sign = '|' && leftEnds ≠ rightEnds then (if leftEnds then '/' else '\\') else sign
  let middle := (columns.half + columns.second - 1) / 2
  let (shownSign, column) :=
    if sign = ' ' then ([], column) else (manner.gap column middle ++ [sign], middle + 1)
  let shownRight := match second with
    | some index =>
        if (right.line index).isEmpty && !right.isCutAt index then []
        else
          manner.gap column columns.second
            ++ (manner.cell columns.second columns.half 0 0 (right.line index)).1
    | none => []
  shownLeft ++ shownSign ++ shownRight ++ if leftEnds || rightEnds then ['\n'] else []

def Manner.commonRows (manner : Manner) (left right : Side) (places ends : Nat × Nat) : Octets :=
  if manner.skipsCommon then []
  else
    let leftCount := ends.1 - places.1
    let rightCount := ends.2 - places.2
    let paired := if manner.showsLeft then 0 else min leftCount rightCount
    ((List.range paired).flatMap fun step =>
        manner.columnRow left right (some (places.1 + step)) ' ' (some (places.2 + step)))
      ++ (if manner.showsLeft then []
        else (List.range (rightCount - paired)).flatMap fun step =>
          manner.columnRow left right none ')' (some (places.2 + paired + step)))
      ++ (List.range (leftCount - paired)).flatMap fun step =>
        manner.columnRow left right (some (places.1 + paired + step)) '(' none

def Manner.changedRows (manner : Manner) (left right : Side) (change : Change) : Octets :=
  let paired := min change.deleted change.inserted
  ((List.range paired).flatMap fun step =>
      manner.columnRow left right (some (change.left + step)) '|' (some (change.right + step)))
    ++ ((List.range (change.inserted - paired)).flatMap fun step =>
      manner.columnRow left right none '>' (some (change.right + paired + step)))
    ++ (List.range (change.deleted - paired)).flatMap fun step =>
      manner.columnRow left right (some (change.left + paired + step)) '<' none

def Manner.sideBySide (manner : Manner) (left right : Side) : Nat × Nat → List Change → Octets
  | places, [] => manner.commonRows left right places (left.size, right.size)
  | places, change :: rest =>
      manner.commonRows left right places (change.left, change.right)
        ++ manner.changedRows left right change
        ++ sideBySide manner left right (change.leftEnd, change.rightEnd) rest

end Difference

end GoldenSuite.Utility
