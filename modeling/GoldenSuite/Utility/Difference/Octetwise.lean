import GoldenSuite.Utility.Difference.Comparison
import GoldenSuite.Utility.Format

set_option autoImplicit false

namespace GoldenSuite.Utility.Octetwise

open Text (Octets)

def form : Form :=
  .of "bci:ln:sv"
    [("print-bytes", "b"), ("print-chars", "b"), ("ignore-initial:", "i"), ("verbose", "l"),
      ("bytes:", "n"), ("silent", "s"), ("quiet", "s")]

def differences : Nat → Octets → Octets → List (Nat × Char × Char)
  | place, a :: left, b :: right =>
      if a = b then differences (place + 1) left right
      else (place, a, b) :: differences (place + 1) left right
  | _, _, _ => []

def octal (c : Char) : Octets :=
  let digits := Nat.toDigits 8 c.toNat
  List.replicate (3 - digits.length) ' ' ++ digits

def visible (c : Char) : Octets :=
  let plain (c : Char) : Octets :=
    if c.toNat = 127 then ['^', '?'] else if c.toNat < 32 then ['^', Char.ofNat (c.toNat + 64)]
    else [c]
  if 128 ≤ c.toNat then 'M' :: '-' :: plain (Char.ofNat (c.toNat - 128)) else plain c

def paddedTo (width : Nat) (octets : Octets) : Octets :=
  octets ++ List.replicate (width - octets.length) ' '

def row (shows : Bool) (width : Nat) (place : Nat) (a b : Char) : Octets :=
  let number := decimal place
  let numbered := List.replicate (width - number.length) ' ' ++ number
  if shows then
    numbered ++ ' ' :: octal a ++ ' ' :: paddedTo 4 (visible a) ++ ' ' :: octal b ++ ' ' :: visible b
  else numbered ++ ' ' :: octal a ++ ' ' :: octal b

def size (what : String) (written : Octets) : Task Nat := do
  match scaled? written with
  | some number => return number
  | none => Difference.misused (say s!"invalid --{what} value " ++ inQuotes written)

def skipped (choice : Choice) (operands : List Octets) : Task (Nat × Nat) := do
  let (left, right) ← match choice.last? "i" with
    | none => pure (0, 0)
    | some written =>
        let first := written.takeWhile (· ≠ ':')
        let left ← size "ignore-initial" first
        match written.drop first.length with
        | [] => pure (left, left)
        | _ :: second => do pure (left, ← size "ignore-initial" second)
  let given (written : Option Octets) (otherwise : Nat) : Task Nat :=
    match written with
    | some written => size "ignore-initial" written
    | none => return otherwise
  return (← given operands[2]? left, ← given operands[3]? right)

def tellEnd (isListed : Bool) (name shared : Octets) : Task Unit := do
  let lines := shared.count '\n'
  if shared.isEmpty then Task.complain (say "EOF on " ++ name ++ say " which is empty")
  else
    let place := say "EOF on " ++ name ++ say " after byte " ++ decimal shared.length
    let line :=
      if isListed then []
      else if shared.getLast? = some '\n' then say ", line " ++ decimal lines
      else say ", in line " ++ decimal (lines + 1)
    Task.complain (place ++ line)

def task (arguments : List Octets) : Task Unit := do
  let choice ← match form.read arguments with
    | .ok choice => pure choice
    | .error fault => Difference.misused fault.message
  let isSilent := choice.has "s"
  let isListed := choice.has "l"
  if isListed && isSilent then Difference.misused (say "options -l and -s are incompatible")
  let limit ← match choice.last? "n" with
    | none => pure none
    | some written => do pure (some (← size "bytes" written))
  let leftName ← match choice.operands.head? with
    | some name => pure name
    | none => Difference.misused (say "missing operand after "
        ++ inQuotes (arguments.getLast?.getD (say (← get).name)))
  let rightName := (choice.operands[1]?).getD ['-']
  let (leftSkip, rightSkip) ← skipped choice choice.operands
  if let some extra := choice.operands[4]? then
    Difference.misused (say "extra operand " ++ inQuotes extra)
  let contents (name : Octets) : Task Octets := do
    match ← Task.contentsOrInput name with
    | .ok octets => return octets
    | .error fault =>
        if isSilent then Task.leave 2
        Task.give (name ++ say ": " ++ reason fault) 2
  if leftName = rightName then return
  let cut (octets : Octets) (skip : Nat) : Octets :=
    match limit with
    | some limit => (octets.drop skip).take limit
    | none => octets.drop skip
  let left := cut (← contents leftName) leftSkip
  let right := cut (← contents rightName) rightSkip
  let found := differences 1 left right
  let width := (decimal (min left.length right.length)).length
  if !isSilent then
    if isListed then
      for (place, a, b) in found do Task.writeLine (row (choice.has "b") width place a b)
    else if let (place, a, b) :: _ := found then
      let line := (left.take (place - 1)).count '\n' + 1
      let unit := if choice.has "b" then "byte " else "char "
      Task.writeLine (leftName ++ ' ' :: rightName ++ say " differ: " ++ say unit ++ decimal place
        ++ say ", line " ++ decimal line
        ++ if choice.has "b" then say " is" ++ ' ' :: octal a ++ ' ' :: visible a ++ ' ' :: octal b ++ ' ' :: visible b
          else [])
  let shared := left.take (min left.length right.length)
  if left.length ≠ right.length && !isSilent && (isListed || found.isEmpty) then
    tellEnd isListed (if left.length < right.length then leftName else rightName) shared
  if !found.isEmpty || left.length ≠ right.length then Task.atLeast 1

end GoldenSuite.Utility.Octetwise
