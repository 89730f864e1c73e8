import GoldenSuite.Shell.Binding
import GoldenSuite.Utility.Catalogue

set_option autoImplicit false

namespace GoldenSuite.Shell

open Text (Octets)
open Utility (say)

inductive Program where
  | known (name : String)
  | interpreted (interpreter : Octets) (argument : Option Octets)
  | script
  deriving DecidableEq, Repr

namespace Program

def mark : Octets := ['\x7f', 'E', 'L', 'F']

def image (name : String) : ByteArray := Text.Octets.toBytes (mark ++ name.toList)

def isBlank (c : Char) : Bool := c = ' ' || c = '\t'

def ofLine (line : Octets) : Program :=
  let line := line.dropWhile isBlank
  let interpreter := line.takeWhile fun c => !isBlank c
  let rest := (line.drop interpreter.length).dropWhile isBlank
  let argument := (rest.reverse.dropWhile isBlank).reverse
  if interpreter.isEmpty then .script
  else .interpreted interpreter (if argument.isEmpty then none else some argument)

def ofContents (contents : Octets) : Program :=
  if mark.isPrefixOf contents then .known (String.ofList (contents.drop mark.length))
  else match contents with
    | '#' :: '!' :: rest => ofLine (rest.takeWhile (· ≠ '\n'))
    | _ => .script

def file (disk : Disk) (name : Octets) : Except FileFault Program :=
  match disk.lookup (Utility.pathOf name) with
  | .ok (_, .file data mode) =>
      if mode &&& 0o111 = 0 then .error .denied else .ok (ofContents (Text.Octets.ofBytes data))
  | .ok _ => .error .denied
  | .error fault => .error fault

def ofPath (disk : Disk) (name : Octets) : Except FileFault Program := do
  let program ← file disk name
  if let .interpreted interpreter _ := program then
    let _ ← file disk interpreter
  return program

def directories (path : Octets) : List Octets := path.splitOnP (· = ':')

def inDirectory (directory name : Octets) : Octets :=
  if directory.isEmpty then name else directory ++ '/' :: name

def commonPath : Octets :=
  "/usr/local/sbin:/usr/local/bin:/usr/sbin:/usr/bin:/sbin:/bin".toList

/-- The first program of a name in some directories. One that may not be run is passed over, but it is
told of if there is no other. -/
def search (disk : Disk) (name : Octets) (otherwise : FileFault) :
    List Octets → Except FileFault (Octets × Program)
  | [] => .error otherwise
  | directory :: rest =>
      let path := inDirectory directory name
      match ofPath disk path with
      | .ok program => .ok (path, program)
      | .error .denied => search disk name .denied rest
      | .error .noEntry | .error .notDirectory => search disk name otherwise rest
      | .error fault => .error fault

/-- The program that a name stands for. A name with a slash is a path. -/
def find (disk : Disk) (path name : Octets) : Except FileFault (Octets × Program) :=
  if name.contains '/' then (ofPath disk name).map fun program => (name, program)
  else if name.isEmpty then .error .noEntry
  else if Path.nameLimit < name.length then .error .nameTooLong
  else search disk name .noEntry (directories path)

def searchFile (disk : Disk) (name : Octets) (otherwise : FileFault) :
    List Octets → Except FileFault Octets
  | [] => .error otherwise
  | directory :: rest =>
      let path := inDirectory directory name
      match disk.lookup (Utility.pathOf path) with
      | .ok (_, .file ..) => .ok path
      | .ok _ => searchFile disk name .denied rest
      | .error .noEntry | .error .notDirectory => searchFile disk name otherwise rest
      | .error fault => searchFile disk name fault rest

def actors : List String :=
  ["sh", "dash", "env", "nice", "nohup", "setsid", "sleep", "timeout", "xargs", "yes"]

def names : List String := actors ++ Utility.catalogue.map (·.1)

def homes : List (Place × Disk.Node) :=
  [(["bin"], .link ⟨"usr/bin"⟩), (["sbin"], .link ⟨"usr/sbin"⟩), (["usr", "bin"], .directory),
    (["usr", "sbin"], .directory), (["usr", "local"], .directory),
    (["usr", "local", "bin"], .directory), (["usr", "local", "sbin"], .directory)]

def installed : Disk :=
  let files := names.map fun name =>
    (["usr", "bin", name], Disk.Node.file (image name) 0o755)
  (homes ++ files).foldl (fun disk (place, node) => disk.set place node) Disk.fresh

end Program

end GoldenSuite.Shell
