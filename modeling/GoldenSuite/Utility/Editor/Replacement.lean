import GoldenSuite.Utility.Editor.Script

set_option autoImplicit false

namespace GoldenSuite.Utility.Editor

open Text (Octets)

structure Shift where
  lasting : Casing := .plain
  once : Option Casing := none

namespace Shift

def after (shift : Shift) (casing : Casing) : Shift :=
  if casing = .nextUpper || casing = .nextLower then { shift with once := some casing }
  else { lasting := casing }

def octet (shift : Shift) (c : Char) : Char :=
  match shift.once.getD shift.lasting with
  | .upper | .nextUpper => c.toUpper
  | .lower | .nextLower => c.toLower
  | .plain => c

def octets (shift : Shift) : Octets → Octets × Shift
  | [] => ([], shift)
  | c :: rest =>
      let later : Shift := { shift with once := none }
      (shift.octet c :: rest.map later.octet, later)

end Shift

def groupText (text : Array Char) (start : Nat) (spot : Regular.Spot) (index : Nat) : Octets :=
  if index = 0 then (text.extract start spot.position).toList
  else match spot.groups.lookup index with
    | some (first, last) => (text.extract first last).toList
    | none => []

def replacement (text : Array Char) (start : Nat) (spot : Regular.Spot) :
    Shift → List Piece → Octets
  | _, [] => []
  | shift, .casing casing :: rest => replacement text start spot (shift.after casing) rest
  | shift, .octet c :: rest =>
      let (octets, shift) := shift.octets [c]
      octets ++ replacement text start spot shift rest
  | shift, .group index :: rest =>
      let (octets, shift) := shift.octets (groupText text start spot index)
      octets ++ replacement text start spot shift rest

namespace Substitution

/-- The text from a position on with its matches replaced, and whether there were any. An empty match
right after another one does not count. -/
def apply (substitution : Substitution) (regular : Regular) (text : Array Char) :
    Nat → Nat → Nat → Option Nat → Octets × Bool
  | 0, position, _, _ => ((text.extract position text.size).toList, false)
  | fuel + 1, position, count, previous =>
      let part (first last : Nat) : Octets := (text.extract first last).toList
      match regular.search text position with
      | none => (part position text.size, false)
      | some (first, spot) =>
          let last := spot.position
          let next := if first = last then last + 1 else last
          let isExtra := first = last && previous = some first
          let count := if isExtra then count else count + 1
          let counts := !isExtra && substitution.number ≤ count
          let shown := if counts then replacement text first spot {} substitution.pieces
            else part first last
          if counts && !substitution.isGlobal then
            (part position first ++ shown ++ part last text.size, true)
          else
            let (rest, isReplaced) :=
              if text.size < next then ([], false)
              else apply substitution regular text fuel next count
                (if first = last then none else some last)
            (part position first ++ shown ++ part last next ++ rest, counts || isReplaced)

def replace (substitution : Substitution) (regular : Regular) (octets : Octets) : Octets × Bool :=
  let text := octets.toArray
  substitution.apply regular text (text.size + 2) 0 0 none

end Substitution

def spelledOctet (c : Char) : Octets :=
  if c = '\\' then ['\\', '\\']
  else if c = '\x08' then ['\\', 'b']
  else if isControl c then escapeOf c
  else [c]

def rows (limit : Nat) : Nat → List Octets → Octets
  | _, [] => ['$', '\n']
  | used, octets :: rest =>
      if limit < used + octets.length then
        '\\' :: '\n' :: octets ++ rows limit octets.length rest
      else octets ++ rows limit (used + octets.length) rest

/-- A text in full, in rows that fit a width. A width of zero sets no limit. -/
def spelled (width : Nat) (text : Octets) : Octets :=
  let octets := text.map spelledOctet
  if width = 0 then octets.flatten ++ ['$', '\n'] else rows (width - 1) 0 octets

end GoldenSuite.Utility.Editor
