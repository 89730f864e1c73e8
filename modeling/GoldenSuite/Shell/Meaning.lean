import GoldenSuite.Shell.Builtin
import GoldenSuite.Shell.Program
import GoldenSuite.Shell.Word

set_option autoImplicit false

namespace GoldenSuite.Shell

open Text (Octets)
open Utility (say)

def plainBuiltins : List String :=
  ["[", "alias", "bg", "cd", "chdir", "command", "echo", "false", "fg", "getopts", "hash", "jobs",
    "kill", "printf", "pwd", "read", "test", "true", "type", "ulimit", "umask", "unalias", "wait"]

inductive Meaning where
  | keyword
  | replacement (text : Octets)
  | function
  | builtin (isSpecial : Bool)
  | program (path : Octets)
  | tracked (path : Octets)
  | nothing
  deriving DecidableEq, Repr

namespace Meaning

def isSpecial (name : Octets) : Bool := Reading.specialBuiltins.contains (String.ofList name)

def isBuiltin (name : Octets) : Bool := isSpecial name || plainBuiltins.contains (String.ofList name)

def pathOf (settings : Settings) : Octets := (settings.value? "PATH").getD []

def ofCommand (machine : Machine) (path : Octets) (name : Octets) : Meaning :=
  let settings := machine.settings
  if isSpecial name then .builtin true
  else if settings.functions.any (·.1 = name) then .function
  else if isBuiltin name then .builtin false
  else if name.contains '/' then
    if (machine.disk.lookup (Utility.pathOf name)).isOk then .program name else .nothing
  else match Program.searchFile machine.disk name .noEntry (Program.directories path) with
    | .ok path => .program path
    | .error _ => .nothing

def of (machine : Machine) (isCommonPath : Bool) (name : Octets) : Meaning :=
  let settings := machine.settings
  if Reading.keywords.contains (String.ofList name) then .keyword
  else match settings.aliases.lookup name, settings.tracked.lookup name with
    | some text, _ => .replacement text
    | none, some path =>
        if isCommonPath then ofCommand machine Program.commonPath name else .tracked path
    | none, none =>
        ofCommand machine (if isCommonPath then Program.commonPath else pathOf settings) name

def sentence (name : Octets) (meaning : Meaning) : Octets :=
  let rest := match meaning with
    | keyword => say " is a shell keyword"
    | replacement text => say " is an alias for " ++ text
    | function => say " is a shell function"
    | builtin true => say " is a special shell builtin"
    | builtin false => say " is a shell builtin"
    | program path => say " is " ++ path
    | tracked path => say " is a tracked alias for " ++ path
    | nothing => say ": not found"
  name ++ rest ++ ['\n']

def line (name : Octets) (meaning : Meaning) : Octets :=
  match meaning with
  | replacement text => say "alias " ++ Script.aliasLine name text
  | program path | tracked path => path ++ ['\n']
  | nothing => []
  | _ => name ++ ['\n']

end Meaning

namespace Script

def track (name path : Octets) : Script Unit :=
  adjust fun settings =>
    if name.contains '/' || settings.tracked.any (·.1 = name) then settings
    else { settings with tracked := settings.tracked ++ [(name, path)] }

/-- What a name stands for. A program that the search path leads to is remembered. -/
def meaning (isCommonPath : Bool) (name : Octets) : Script Meaning := do
  let meaning := Meaning.of (← get) isCommonPath name
  if let .program path := meaning then
    if !isCommonPath then track name path
  return meaning

def tellMeanings (names : List Octets) : Script Unit := do
  let meanings ← names.mapM fun name => do return (name, ← meaning false name)
  answer (meanings.flatMap fun (name, meaning) => meaning.sentence name)
  if meanings.any (·.2 = .nothing) then setStatus 127

def tellCommand (arguments : List Octets) : Script Unit := do
  let (options, names) ← options "pvV" arguments
  let has (key : String) : Bool := options.any (·.1 = key)
  match names with
  | [] => setStatus 0
  | name :: _ =>
      if !has "v" && !has "V" then setStatus 0
      else
        let meaning ← meaning (has "p") name
        answer (if has "V" then meaning.sentence name else meaning.line name)
        if meaning = .nothing then setStatus 127

def trackAll (arguments : List Octets) : Script Unit := do
  let (options, names) ← options "r" arguments
  setStatus 0
  if !options.isEmpty then adjust fun settings => { settings with tracked := [] }
  else if names.isEmpty then
    let found := Settings.inDrawers 31 (← settings).tracked
    answer (found.flatMap fun entry => entry.2 ++ ['\n'])
  else names.forM fun name => do
    let machine ← get
    match Meaning.ofCommand machine (Meaning.pathOf machine.settings) name with
    | .program path => track name path
    | .nothing =>
        complain (name ++ say ": not found")
        setStatus 1
    | _ => return

end Script

end GoldenSuite.Shell
