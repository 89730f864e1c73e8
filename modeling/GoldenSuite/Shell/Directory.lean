import GoldenSuite.Shell.Flag

set_option autoImplicit false

namespace GoldenSuite.Shell

open Text (Octets)
open Utility (say)

namespace Directory

def step (way : List Octets) (name : Octets) : List Octets :=
  if name.isEmpty || name = ['.'] then way
  else if name = ['.', '.'] then way.dropLast
  else way ++ [name]

def rootOf (path : Octets) : Octets :=
  match path with
  | '/' :: '/' :: '/' :: _ => ['/']
  | '/' :: '/' :: _ => ['/', '/']
  | _ => ['/']

def join (directory path : Octets) : Octets :=
  let base := if path.head? = some '/' then path else directory ++ '/' :: path
  let way := (base.splitOnP (· = '/')).foldl step []
  rootOf base ++ (way.intersperse ['/']).flatten

def ofPlace (place : Place) : Octets := say ("/" ++ String.intercalate "/" place)

def isFixed (path : Octets) : Bool :=
  let first := path.takeWhile (· ≠ '/')
  first.isEmpty || first = ['.'] || first = ['.', '.']

end Directory

namespace Script

def assignSeen (name : String) (value : Octets) : Script Unit := do
  assign name.toList value
  adjust fun settings =>
    settings.withBinding name.toList { value := some value, isExported := true }

def enter (isPlain : Bool) (path : Octets) : Script Bool := do
  let machine ← get
  let directory := machine.settings.directory
  let target := Directory.join directory path
  match machine.disk.lookup (Utility.pathOf (if isPlain then target else path)) with
  | .ok (place, .directory) =>
      let reached := if isPlain then target else Directory.ofPlace place
      set { machine with disk.here := place, settings.directory := reached }
      assignSeen "OLDPWD" directory
      assignSeen "PWD" reached
      return true
  | _ => return false

def hasDirectory (path : Octets) : Script Bool := do
  match (← get).disk.lookup (Utility.pathOf path) with
  | .ok (_, .directory) => return true
  | _ => return false

def searchDirectory (name : Octets) : List Octets → Script (Option (Octets × Bool))
  | [] => return none
  | base :: rest => do
      let path :=
        if base.isEmpty then name
        else if base.getLast? = some '/' then base ++ name else base ++ '/' :: name
      if ← hasDirectory path then return some (path, !base.isEmpty)
      searchDirectory name rest

def changeDirectory (arguments : List Octets) : Script Unit := do
  let (options, operands) ← options "LP" arguments
  let isPlain := (options.getLast?.map (·.1)) ≠ some "P"
  let settings ← settings
  let wanted := operands.head?
  let isBack := wanted = some ['-']
  let home := (settings.value? "HOME").getD []
  let named := if isBack then (settings.value? "OLDPWD").getD [] else wanted.getD home
  let target := if named.isEmpty then ['.'] else named
  let bases := ((settings.value? "CDPATH").getD []).splitOnP (· = ':')
  let (path, isElsewhere) ←
    if Directory.isFixed target then pure (target, false)
    else pure ((← searchDirectory target bases).getD (target, false))
  if !(← enter isPlain path) then fail (say "can't cd to " ++ named)
  if isBack || isElsewhere then answer ((← Script.settings).directory ++ ['\n']) else setStatus 0

def tellDirectory (arguments : List Octets) : Script Unit := do
  let (options, _) ← options "LP" arguments
  let machine ← get
  let directory :=
    if (options.getLast?.map (·.1)) = some "P" then Directory.ofPlace machine.disk.here
    else machine.settings.directory
  answer (directory ++ ['\n'])

end Script

end GoldenSuite.Shell
