import GoldenSuite.Utility.Difference.Pairing

set_option autoImplicit false

namespace GoldenSuite.Utility

structure Change where
  left : Nat
  deleted : Nat
  right : Nat
  inserted : Nat
  deriving DecidableEq, Repr

namespace Change

def leftEnd (change : Change) : Nat := change.left + change.deleted

def rightEnd (change : Change) : Nat := change.right + change.inserted

end Change

inductive Fate where
  | kept
  | dropped
  | unsure
  deriving DecidableEq, Repr, Inhabited

namespace Fate

def rootOfQuarter (factor : Nat) : Nat → Nat → Nat
  | 0, _ => factor
  | fuel + 1, number => if number / 4 = 0 then factor else rootOfQuarter (2 * factor) fuel (number / 4)

def commonness (lines : Nat) : Nat := rootOfQuarter 5 lines (lines / 64)

def ofCount (lines partners : Nat) : Fate :=
  if partners = 0 then .dropped else if commonness lines < partners then .unsure else .kept

def withoutLongRuns (least : Nat) (fates : List Fate) : List Fate :=
  (fates.splitBy fun a b => a = b).flatMap fun run =>
    if run.head? = some .unsure && least ≤ run.length then run.map fun _ => .kept else run

def withoutEdge (place streak : Nat) : List Fate → List Fate
  | [] => []
  | fate :: rest =>
      if 8 ≤ place && fate = .dropped then fate :: rest
      else match fate with
        | .dropped =>
            if streak = 2 then fate :: rest else fate :: withoutEdge (place + 1) (streak + 1) rest
        | _ => .kept :: withoutEdge (place + 1) 0 rest

def settledRun (fates : List Fate) : List Fate :=
  if fates.length < 4 * fates.count .unsure then
    fates.map fun fate => if fate = .unsure then .kept else fate
  else
    let least := rootOfQuarter 1 fates.length (fates.length / 4) + 1
    let fates := withoutEdge 0 0 (withoutLongRuns least fates)
    (withoutEdge 0 0 fates.reverse).reverse

def settled (fates : List Fate) : List Fate :=
  let groups := fates.splitBy fun a b => (a = .kept) = (b = .kept)
  groups.flatMap fun group =>
    if group.head? = some .kept then group
    else
      let isUnsure (fate : Fate) : Bool := fate = .unsure
      let front := group.takeWhile isUnsure
      let rest := group.dropWhile isUnsure
      let back := rest.reverse.takeWhile isUnsure
      let body := rest.take (rest.length - back.length)
      front.map (fun _ => .kept) ++ settledRun body ++ back.map (fun _ => .kept)

def ofLines (lines others : List Nat) : List Fate :=
  settled (lines.map fun line => ofCount lines.length (others.count line))

end Fate

def Alone.ofLines (leavesOut : Bool) (left right : List Nat) : Alone :=
  let fates (lines others : List Nat) : List Fate :=
    if leavesOut then Fate.ofLines lines others
    else (Fate.ofLines lines others).map fun _ => .kept
  let leftFates := fates left right
  let rightFates := fates right left
  let kept (lines : List Nat) (fates : List Fate) : Array Nat :=
    ((lines.zip fates).filter fun line => line.2 = .kept).map (·.1) |>.toArray
  let alone := Alone.of (kept left leftFates) (kept right rightFates)
  ⟨spread alone.left leftFates, spread alone.right rightFates⟩
where
  spread (marks : Array Bool) (fates : List Fate) : Array Bool :=
    (fates.foldl (fun (found : Array Bool × Nat) fate =>
      if fate = .kept then (found.1.push (marks.getD found.2 false), found.2 + 1)
      else (found.1.push true, found.2)) (#[], 0)).1

namespace Shifting

def isMarked (marks : Array Bool) (place : Int) : Bool :=
  0 ≤ place && marks.getD place.toNat false

def past (marks : Array Bool) : Nat → Int → Int
  | 0, place => place
  | fuel + 1, place => if isMarked marks place then past marks fuel (place + 1) else place

def before (marks : Array Bool) : Nat → Int → Int
  | 0, place => place
  | fuel + 1, place => if isMarked marks place then before marks fuel (place - 1) else place

structure Window where
  marks : Array Bool
  start : Int
  finish : Int
  other : Int
  corresponding : Int

variable (lines : Array Nat) (others : Array Bool)

def line (place : Int) : Nat := lines.getD place.toNat 0

def set (marks : Array Bool) (place : Int) (value : Bool) : Array Bool :=
  marks.set! place.toNat value

def Window.raised (window : Window) : Window :=
  let start := window.start - 1
  let finish := window.finish - 1
  let marks := set (set window.marks start true) finish false
  { window with
    marks, finish
    start := before marks marks.size (start - 1) + 1
    other := before others others.size (window.other - 1) }

def Window.allUp : Nat → Window → Window
  | 0, window => window
  | fuel + 1, window =>
      if 0 < window.start && line lines (window.start - 1) = line lines (window.finish - 1)
      then allUp fuel (window.raised others) else window

def Window.lowered (window : Window) : Window :=
  let marks := set (set window.marks window.start false) window.finish true
  let finish := past marks marks.size (window.finish + 1)
  let other := past others others.size (window.other + 1)
  { marks, finish, other
    start := window.start + 1
    corresponding := if window.other + 1 < other then finish else window.corresponding }

def Window.allDown : Nat → Window → Window
  | 0, window => window
  | fuel + 1, window =>
      if window.finish < lines.size && line lines window.start = line lines window.finish
      then allDown fuel (window.lowered others) else window

def Window.settled : Nat → Window → Window
  | 0, window => window
  | fuel + 1, window =>
      let size := window.finish - window.start
      let window := window.allUp lines others lines.size
      let corresponding :=
        if isMarked others (window.other - 1) then window.finish else lines.size
      let window := { window with corresponding }.allDown lines others lines.size
      if window.finish - window.start = size then window else settled fuel window

def Window.matched : Nat → Window → Window
  | 0, window => window
  | fuel + 1, window =>
      if window.corresponding < window.finish then
        let start := window.start - 1
        let finish := window.finish - 1
        matched fuel { window with
          marks := set (set window.marks start true) finish false
          start, finish
          other := before others others.size (window.other - 1) }
      else window

def shiftFrom : Nat → Array Bool → Int → Int → Array Bool
  | 0, marks, _, _ => marks
  | fuel + 1, marks, place, other =>
      if lines.size ≤ place then marks
      else if isMarked marks place then
        let finish := past marks marks.size place
        let window : Window := ⟨marks, place, finish, past others others.size other, lines.size⟩
        let window := (window.settled lines others (lines.size + 1)).matched others lines.size
        shiftFrom fuel window.marks window.finish window.other
      else shiftFrom fuel marks (place + 1) (past others others.size other + 1)

def shifted (marks : Array Bool) : Array Bool :=
  shiftFrom lines others (2 * lines.size + 1) marks 0 0

end Shifting

def Change.ofMarks (alone : Alone) : Nat → Nat → Nat → List Change
  | 0, _, _ => []
  | fuel + 1, left, right =>
      if alone.left.size ≤ left && alone.right.size ≤ right then []
      else
        let leftEnd := (Shifting.past alone.left alone.left.size left).toNat
        let rightEnd := (Shifting.past alone.right alone.right.size right).toNat
        if leftEnd = left && rightEnd = right then ofMarks alone fuel (left + 1) (right + 1)
        else
          ⟨left, leftEnd - left, right, rightEnd - right⟩ :: ofMarks alone fuel leftEnd rightEnd

def Change.between (leavesOut : Bool) (left right : List Nat) : List Change :=
  let alone := Alone.ofLines leavesOut left right
  let leftMarks := Shifting.shifted left.toArray alone.right alone.left
  let rightMarks := Shifting.shifted right.toArray leftMarks alone.right
  ofMarks ⟨leftMarks, rightMarks⟩ (2 * (left.length + right.length) + 1) 0 0

end GoldenSuite.Utility
