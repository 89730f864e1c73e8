import GoldenSuite.Utility.Options
import GoldenSuite.Utility.Regular

set_option autoImplicit false

namespace GoldenSuite.Utility.Translate

open Text (Octets)

inductive Part where
  | octets (members : Octets)
  | named (name : Octets)
  | filled (c : Char) (count : Option Nat)

def isOctal (c : Char) : Bool := '0' ≤ c && c ≤ '7'

def octetAt : Octets → Option (Char × Octets)
  | '\\' :: c :: rest =>
      if isOctal c then
        let digits := (c :: rest.take 2).takeWhile isOctal
        let code (digits : Octets) : Nat :=
          digits.foldl (fun code d => code * 8 + (d.toNat - '0'.toNat)) 0
        let digits := if 255 < code digits then digits.take 2 else digits
        some (Char.ofNat (code digits), (c :: rest).drop digits.length)
      else match "abtnvfr".toList.idxOf? c with
        | some index => some ((("\x07\x08\t\n\x0b\x0c\x0d".toList)[index]?).getD c, rest)
        | none => some (c, rest)
  | c :: rest => some (c, rest)
  | [] => none

def between (low high : Char) : Octets :=
  (List.range (high.toNat + 1 - low.toNat)).map fun offset => Char.ofNat (low.toNat + offset)

def bracketed? (mark : Char) : Octets → Option (Octets × Octets)
  | '[' :: c :: rest =>
      if c = mark then Regular.named? mark rest else none
  | _ => none

def filled? (rest : Octets) : Option (Part × Octets) :=
  match rest with
  | '[' :: inner =>
      match octetAt inner with
      | some (c, '*' :: after) =>
          let digits := after.takeWhile Char.isDigit
          let base := if digits.head? = some '0' then 8 else 10
          let count := digits.foldl (fun count d => count * base + (d.toNat - '0'.toNat)) 0
          match after.drop digits.length with
          | ']' :: after => some (.filled c (if count = 0 then none else some count), after)
          | _ => none
      | _ => none
  | _ => none

def partsFrom : Nat → Octets → Except Octets (List Part)
  | 0, _ | _, [] => .ok []
  | fuel + 1, rest => do
      if let some (name, after) := bracketed? ':' rest then
        if (classOf? (String.ofList name)).isNone then
          throw (say "invalid character class '" ++ name ++ ['\''])
        return .named name :: (← partsFrom fuel after)
      if let some (member, after) := bracketed? '=' rest then
        return .octets member :: (← partsFrom fuel after)
      if let some (part, after) := filled? rest then
        return part :: (← partsFrom fuel after)
      match octetAt rest with
      | none => return []
      | some (low, '-' :: after) =>
          match octetAt after with
          | none => return [.octets [low, '-']]
          | some (high, after) =>
              if high < low then
                throw (say "range-endpoints of '" ++ [low, '-', high]
                  ++ say "' are in reverse collating sequence order")
              return .octets (between low high) :: (← partsFrom fuel after)
      | some (c, after) => return .octets [c] :: (← partsFrom fuel after)

def allOctets : Octets := (List.range 256).map Char.ofNat

def members (wanted : Nat) (parts : List Part) : Octets :=
  let sizeOf : Part → Nat
    | .octets found => found.length
    | .named name => (allOctets.filter ((classOf? (String.ofList name)).getD fun _ => false)).length
    | .filled _ count => count.getD 0
  let missing := wanted - (parts.map sizeOf).foldl (· + ·) 0
  parts.flatMap fun
    | .octets found => found
    | .named name => allOctets.filter ((classOf? (String.ofList name)).getD fun _ => false)
    | .filled c count => List.replicate (count.getD missing) c

def squeezed (holds : Char → Bool) : Octets → Octets
  | c :: d :: rest =>
      if c = d && holds c then squeezed holds (d :: rest) else c :: squeezed holds (d :: rest)
  | rest => rest

def table (first second : Octets) (isCut : Bool) : List (Char × Char) :=
  match second.getLast? with
  | none => []
  | some last =>
      let filled :=
        if isCut then second
        else second ++ List.replicate (first.length - second.length) last
      (first.zip filled).reverse

def isNamed : Part → Bool
  | .named _ => true
  | _ => false

def isCaseClass : Part → Bool
  | .named name => name = say "upper" || name = say "lower"
  | _ => false

def form : Form :=
  .of "cCdst" [("complement", "c"), ("delete", "d"), ("squeeze-repeats", "s"), ("truncate-set1", "t")]

def refuse {α : Type} (text hint : Octets) : Task α := do
  Task.complain text
  if !hint.isEmpty then Task.warn (hint ++ ['\n'])
  Task.warn (say "Try 'tr --help' for more information.\n")
  Task.leave 1

def checkOperands (deletes squeezes : Bool) (operands : List Octets) : Task Unit := do
  let least := if deletes == squeezes then 2 else 1
  let most := if deletes && !squeezes then 1 else 2
  match operands with
  | [] => refuse (say "missing operand") []
  | [only] =>
      if least = 2 then
        refuse (say "missing operand after " ++ cited only)
          (if deletes then say "Two strings must be given when both deleting and squeezing repeats."
            else say "Two strings must be given when translating.")
  | _ =>
      if let some extra := operands[most]? then
        let hint := if operands.length = 2 && deletes
          then say "Only one string may be given when deleting without squeezing repeats." else []
        refuse (say "extra operand " ++ cited extra) hint

def task (arguments : List Octets) : Task Unit := do
  let choice ← Task.choose { form with isOrdered := true } arguments
  let deletes := choice.has "d"
  let squeezes := choice.has "s"
  checkOperands deletes squeezes choice.operands
  let sets := choice.operands.map fun operand => partsFrom (operand.length + 1) operand
  match sets.mapM id with
  | .error text => Task.give text
  | .ok parts =>
      let firstParts := parts.head?.getD []
      let secondParts := parts.tail.head?.getD []
      let isInverse := choice.has "c" || choice.has "C"
      let plain := members 0 firstParts
      let first := if isInverse then allOctets.filter (!plain.contains ·) else plain
      let second := members first.length secondParts
      let translates := !deletes && 1 < parts.length
      if translates then
        if second.isEmpty && !choice.has "t" && !first.isEmpty then
          Task.give (say "when not truncating set1, string2 must be non-empty")
        if secondParts.any fun part => isNamed part && !isCaseClass part then
          Task.give (say "when translating, the only character classes that may appear in\n"
            ++ say "string2 are 'upper' and 'lower'")
      let input ← Task.takeInput
      let kept := if deletes then input.filter (!first.contains ·) else input
      let moved :=
        if translates then
          let pairs := table first second (choice.has "t")
          kept.map fun c => (pairs.lookup c).getD c
        else kept
      let repeats := if translates || deletes then second else first
      Task.write (if squeezes then squeezed repeats.contains moved else moved)

end GoldenSuite.Utility.Translate
