import GoldenSuite.Shell.Flag

set_option autoImplicit false

namespace GoldenSuite.Shell

open Text (Octets)
open Utility (say)

def quoted (text : Octets) : Octets :=
  let runs := text.splitBy fun left right => (left = '\'') = (right = '\'')
  let shown := runs.map fun run =>
    if run.head? = some '\'' then '"' :: run ++ ['"'] else '\'' :: run ++ ['\'']
  if text.isEmpty || text.head? = some '\'' then say "''" ++ shown.flatten else shown.flatten

def byName {α : Type} (entries : List (Octets × α)) : List (Octets × α) :=
  entries.mergeSort fun left right => !right.1.lex left.1

namespace Script

def listing (front : String) (entries : List (Octets × Binding)) : Octets :=
  (byName entries).flatMap fun (name, binding) =>
    let value := match binding.value with
      | some value => '=' :: quoted value
      | none => []
    say front ++ name ++ value ++ ['\n']

def mark (change : Binding → Binding) (argument : Octets) : Script Unit := do
  let name := argument.takeWhile (· ≠ '=')
  match argument.drop name.length with
  | _ :: value => assign name value
  | [] => if !isName name then fail (name ++ say ": bad variable name")
  adjust fun settings =>
    settings.withBinding name (change ((settings.binding? name).getD {}))

def markAll (command : String) (isMarked : Binding → Bool) (change : Binding → Binding)
    (arguments : List Octets) : Script Unit := do
  let (options, names) ← options "p" arguments
  if options.isEmpty && !names.isEmpty then
    names.forM (mark change)
    setStatus 0
  else
    let entries := (← settings).bindings.filter fun entry => isMarked entry.2
    answer (listing (command ++ " ") entries)

def exportNames : List Octets → Script Unit :=
  markAll "export" (·.isExported) fun binding => { binding with isExported := true }

def protectNames : List Octets → Script Unit :=
  markAll "readonly" (·.isReadOnly) fun binding => { binding with isReadOnly := true }

def unsetNames (arguments : List Octets) : Script Unit := do
  let (options, names) ← options "vf" arguments
  names.forM fun name =>
    if (options.getLast?.map (·.1)) = some "f" then
      adjust fun settings =>
        { settings with functions := settings.functions.filter (·.1 ≠ name) }
    else unassign name
  setStatus 0

def setArguments (arguments : List Octets) : Script Unit :=
  adjust fun settings => { settings with arguments, optionIndex := 1, optionOffset := 0 }

def setOptions (arguments : List Octets) : Script Unit := do
  if arguments.isEmpty then
    let entries := (← settings).bindings.filter fun entry => entry.2.value.isSome
    answer (listing "" entries)
  else
    let reading ← Flag.read false (arguments.length + 1) arguments
    if reading.replaces || !reading.rest.isEmpty then setArguments reading.rest
    setStatus 0

def shiftArguments (arguments : List Octets) : Script Unit := do
  let count ← match arguments with
    | written :: _ => number written
    | [] => pure 1
  let held := (← settings).arguments
  if held.length < count then fail (say "can't shift that many")
  setArguments (held.drop count)
  setStatus 0

def localNames (arguments : List Octets) : Script Unit := do
  if (← settings).scopes.isEmpty then fail (say "not in a function")
  arguments.forM fun argument => do
    let name := argument.takeWhile (· ≠ '=')
    if name ≠ ['-'] && !isName name then fail (name ++ say ": bad variable name")
    makeLocal name
    match argument.drop name.length with
    | _ :: value => assign name value
    | [] => return
  setStatus 0

def aliasLine (name text : Octets) : Octets := name ++ '=' :: quoted text ++ ['\n']

def setAliases (arguments : List Octets) : Script Unit := do
  let held := (← settings).aliases
  if arguments.isEmpty then
    answer ((Settings.inDrawers 39 held).flatMap fun (name, text) => aliasLine name text)
  else
    setStatus 0
    arguments.forM fun argument => do
      let name := argument.take 1 ++ (argument.drop 1).takeWhile (· ≠ '=')
      let aliases := (← settings).aliases
      match argument.drop name.length, aliases.lookup name with
      | _ :: text, _ =>
          adjust fun settings =>
            { settings with aliases := aliases.filter (·.1 ≠ name) ++ [(name, text)] }
      | [], some text => writeOut (aliasLine name text)
      | [], none =>
          writeErr (say "alias: " ++ name ++ say " not found\n")
          setStatus 1

def unsetAliases (arguments : List Octets) : Script Unit := do
  let (options, names) ← options "a" arguments
  setStatus 0
  if !options.isEmpty then adjust fun settings => { settings with aliases := [] }
  else names.forM fun name => do
    if (← settings).aliases.any (·.1 = name) then
      adjust fun settings => { settings with aliases := settings.aliases.filter (·.1 ≠ name) }
    else
      writeErr (say "unalias: " ++ name ++ say " not found\n")
      setStatus 1

def maskLetters (mask : Nat) : Octets :=
  let group (name : String) (shift : Nat) : Octets :=
    let left (bit : Nat) (letter : String) : Octets :=
      if (mask >>> shift) &&& bit = 0 then say letter else []
    say name ++ left 4 "r" ++ left 2 "w" ++ left 1 "x"
  group "u=" 6 ++ group ",g=" 3 ++ group ",o=" 0 ++ ['\n']

def setMask (arguments : List Octets) : Script Unit := do
  let (options, operands) ← options "S" arguments
  let mask := (← settings).mask
  match operands with
  | [] =>
      let digit (place : Nat) : Char := Nat.digitChar (mask / place % 8)
      answer (if options.isEmpty then ['0', digit 64, digit 8, digit 1, '\n']
        else maskLetters mask)
  | written :: _ =>
      let mask ← if written.head?.any Char.isDigit then do
          if written.any fun c => c < '0' || '7' < c then
            fail (say "Illegal number: " ++ written)
          pure (written.foldl (fun mask c => mask * 8 + (c.toNat - '0'.toNat)) 0 % 0o1000)
        else match Utility.Mode.mode? false (0o777 - mask) written with
          | some mode => pure (0o777 - mode)
          | none => fail (say "Illegal mode: " ++ written)
      adjust fun settings => { settings with mask }
      setStatus 0

def tellLimits (arguments : List Octets) : Script Unit := do
  let (_, operands) ← options "HSatfdsmcnpvwlr" arguments
  if operands.isEmpty then answer (say "unlimited\n") else setStatus 0

def tellTimes : Script Unit :=
  let line := "0m0.000000s 0m0.000000s\n"
  answer (say line ++ say line)

def levels (arguments : List Octets) : Script Nat := do
  let count ← match arguments with
    | written :: _ => number written
    | [] => pure 1
  if count = 0 then fail (say "Illegal number: " ++ arguments.flatten)
  setStatus 0
  return min count (← settings).loops

def leaveLoops (arguments : List Octets) : Script Unit := do
  let count ← levels arguments
  if 0 < count then throw (.leave count)

def repeatLoop (arguments : List Octets) : Script Unit := do
  let count ← levels arguments
  if 0 < count then throw (.again count)

/-- Ends the script. A trap ends it with the status from before. -/
def exitScript (arguments : List Octets) : Script Unit := do
  let status ← match arguments with
    | written :: _ => number written
    | [] => do pure ((← settings).kept.getD (← status))
  throw (.exit (status % 256))

def goBack (arguments : List Octets) : Script Unit := do
  if let written :: _ := arguments then setStatus (← number written)
  throw .back

end Script

end GoldenSuite.Shell
