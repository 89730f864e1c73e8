import GoldenSuite.Shell.Binding
import GoldenSuite.Utility.Wildcard

set_option autoImplicit false

namespace GoldenSuite.Shell

open Text (Octets)
open Utility (Marked Wildcard)

inductive Atom where
  | octet (isQuoted : Bool) (c : Char)
  | loose (c : Char)
  | space
  | cut
  | anchor
  | edge
  deriving DecidableEq, Repr

namespace Atom

def isBlank (c : Char) : Bool := c = ' ' || c = '\t' || c = '\n'

def ofQuoted (octets : Octets) : List Atom := .anchor :: octets.map (.octet true)

def ofValue (isQuoted splits : Bool) (value : Octets) : List Atom :=
  if isQuoted then value.map (.octet true)
  else if splits then .edge :: value.map .loose
  else value.map (.octet false)

def ofArguments (isQuoted : Bool) (arguments : List Octets) : List Atom :=
  if isQuoted then ((arguments.map ofQuoted).intersperse [.cut]).flatten
  else .edge :: ((arguments.map fun argument => argument.map .loose).intersperse [.space]).flatten

structure Cutting where
  begun : Option Marked := none
  passing : Option Bool := none
  done : List Marked := []

namespace Cutting

def close (cutting : Cutting) (passing : Option Bool) : Cutting :=
  { begun := none, passing, done := (cutting.begun.getD []).reverse :: cutting.done }

def push (cutting : Cutting) (octets : Marked) : Cutting :=
  { cutting with begun := some (octets ++ cutting.begun.getD []), passing := none }

def separate (cutting : Cutting) (isBlank : Bool) : Cutting :=
  if isBlank && cutting.begun.isNone then cutting else cutting.close (some isBlank)

def pass (cutting : Cutting) (isBlank : Bool) : Cutting :=
  match cutting.passing, isBlank with
  | some _, true => cutting
  | some true, false => { cutting with passing := some false }
  | _, _ => { cutting with passing := none }.separate isBlank

def step (separators : Octets) (cutting : Cutting) : Atom → Cutting
  | .octet isQuoted c => cutting.push [(isQuoted, c)]
  | .loose c =>
      if separators.contains c then cutting.pass (Atom.isBlank c) else cutting.push [(false, c)]
  | .space => cutting.pass true
  | .cut => cutting.close none
  | .anchor => cutting.push []
  | .edge => { cutting with passing := none }

end Cutting

def fields (separators : Octets) (atoms : List Atom) : List Marked :=
  let cutting := atoms.foldl (Cutting.step separators) {}
  let last := match cutting.begun with
    | some begun => [begun.reverse]
    | none => []
  cutting.done.reverse ++ last

def marked (atoms : List Atom) : Marked :=
  atoms.filterMap fun
    | .octet isQuoted c => some (isQuoted, c)
    | .loose c => some (false, c)
    | .space | .cut => some (true, ' ')
    | .anchor | .edge => none

end Atom

def Trim.apply (trim : Trim) (pattern : Marked) (value : Octets) : Octets :=
  let parts := Wildcard.parse pattern
  let lengths := List.range (value.length + 1)
  let splits := (if trim.longest = trim.atEnd then lengths else lengths.reverse).map value.splitAt
  let found := splits.find? fun (front, back) =>
    Wildcard.isMatch parts (if trim.atEnd then back else front)
  match found with
  | some (front, back) => if trim.atEnd then front else back
  | none => value

def matchesIn (disk : Disk) (directory : Octets) (pattern : Marked) : List Octets :=
  let parts := Wildcard.parse pattern
  let showsHidden := (pattern.dropWhile fun octet => octet = (false, '\\')).head?.any (·.2 = '.')
  match disk.lookup (Utility.pathOf (if directory.isEmpty then ['.'] else directory)) with
  | .ok (place, .directory) =>
      let names := (disk.children place).map fun child => Text.Octets.ofText child.1
      (['.'] :: ['.', '.'] :: names).filter fun name =>
        (name.head? ≠ some '.' || showsHidden) && Wildcard.isMatch parts name
  | _ => []

def stepsOf (field : Marked) : List Marked := field.splitOnP (·.2 = '/')

def namesBelow (disk : Disk) : Octets → List Marked → List Octets
  | _, [] => []
  | base, [last] =>
      if last.isPattern then (matchesIn disk base last).map (base ++ ·)
      else
        let name := base ++ last.text
        let isThere := match disk.slot (Utility.pathOf name) with
          | .ok (place, step) => Disk.isStep step || (disk.node? (place ++ [step])).isSome
          | .error _ => false
        if isThere then [name] else []
  | base, step :: rest =>
      if step.isPattern then
        (matchesIn disk base step).flatMap fun name => namesBelow disk (base ++ name ++ ['/']) rest
      else namesBelow disk (base ++ step.text ++ ['/']) rest

def compareNames : Octets → Octets → Bool
  | [], _ => true
  | _ :: _, [] => false
  | a :: left, b :: right => if a = b then compareNames left right else a.toNat < b.toNat

def fileNames (disk : Disk) (field : Marked) : List Octets :=
  if !field.isPattern then [field.text]
  else
    match (namesBelow disk [] (stepsOf field)).mergeSort compareNames with
    | [] => [field.text]
    | found => found

end GoldenSuite.Shell
