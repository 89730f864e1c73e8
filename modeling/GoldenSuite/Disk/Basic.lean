import GoldenSuite.Files.Error
import GoldenSuite.Path

/-!
A disk with directories, files and links, seen from a working directory. What a path leads to is
found name by name: a link is replaced by the steps of its target, a parent step leaves the
directory that the steps before it led to.
-/

set_option autoImplicit false

namespace GoldenSuite

abbrev Place := List String

def plainMode : Nat := 0o644

inductive Disk.Node where
  | directory
  | file (data : ByteArray) (mode : Nat := plainMode)
  | link (target : Path)

/-- What stands at each place; a place without an entry is free. The null device is a file that
stays empty. -/
structure Disk where
  entries : List (Place × Disk.Node) := []
  here : Place := []
  deriving Inhabited

namespace Path

/-- The steps of a path. A slash at the end asks for a directory, as a dot after it would. -/
def steps (path : Path) : List String :=
  let (lead, inner) := path.segments
  let all := lead :: inner
  let named := (all.filter fun segment => !segment.isEmpty).map String.ofList
  if inner.getLast? = some [] then named ++ ["."] else named

def endsInSlash (path : Path) : Bool := path.chars.getLast? == some '/'

def nameLimit : Nat := 255

def textLimit : Nat := 4095

def textFault? (path : Path) : Option FileFault :=
  if path.chars.contains '\x00' then some .nulByte
  else if path.text.isEmpty then some .noEntry
  else if textLimit < path.text.utf8ByteSize then some .nameTooLong
  else none

end Path

namespace Disk

def nullDevice : Place := ["dev", "null"]

def fresh : Disk where
  entries :=
    (["bin", "dev", "etc", "home", "lib", "mnt", "opt", "proc", "root", "run", "sbin", "srv", "sys",
        "tmp", "usr", "var"].map fun name => ([name], .directory))
      ++ [(nullDevice, .file .empty 0o666), (["tmp", "work"], .directory)]
  here := ["tmp", "work"]

def node? (disk : Disk) (place : Place) : Option Node :=
  if place.isEmpty then some .directory else disk.entries.lookup place

def set (disk : Disk) (place : Place) (node : Node) : Disk :=
  { disk with
    entries :=
      if disk.entries.any (·.1 == place) then
        disk.entries.map fun entry => if entry.1 == place then (place, node) else entry
      else disk.entries ++ [(place, node)] }

def free (disk : Disk) (place : Place) : Disk :=
  { disk with entries := disk.entries.filter (·.1 != place) }

def fill (disk : Disk) (place : Place) (data : ByteArray) : Disk :=
  if place = nullDevice then disk
  else match disk.node? place with
    | some (.file _ mode) => disk.set place (.file data mode)
    | _ => disk.set place (.file data)

def wayTo (place : Place) : List Place :=
  (List.range place.length).map fun depth => place.take depth

def makeDirectory (disk : Disk) (place : Place) : Disk :=
  if (disk.node? place).isSome then disk else disk.set place .directory

def plant (disk : Disk) (below : Place) (node : Node) : Disk :=
  let place := disk.here ++ below
  ((wayTo place).foldl makeDirectory disk).set place node

def linkLimit : Nat := 40

/-- Where steps lead from a directory. Only the last of them may lead to a free place. -/
def walk (disk : Disk) (links : Nat) (here : Place) (steps : List String) :
    Except FileFault Place :=
  match steps with
  | [] => .ok here
  | name :: rest =>
      if name = "." then walk disk links here rest
      else if name = ".." then walk disk links here.dropLast rest
      else if Path.nameLimit < name.utf8ByteSize then .error .nameTooLong
      else
        let next := here ++ [name]
        match disk.node? next with
        | some .directory => walk disk links next rest
        | some (.link target) =>
            match links with
            | 0 => .error .tooManyLinks
            | links + 1 =>
                walk disk links (if target.isAbsolute then [] else here) (target.steps ++ rest)
        | some (.file ..) => if rest.isEmpty then .ok next else .error .notDirectory
        | none => if rest.isEmpty then .ok next else .error .noEntry
termination_by (links, steps.length)

def origin (disk : Disk) (path : Path) : Place := if path.isAbsolute then [] else disk.here

def locate (disk : Disk) (path : Path) : Except FileFault Place :=
  match path.textFault? with
  | some fault => .error fault
  | none => disk.walk linkLimit (disk.origin path) path.steps

def lookup (disk : Disk) (path : Path) : Except FileFault (Place × Node) := do
  let place ← disk.locate path
  match disk.node? place with
  | some node => return (place, node)
  | none => throw .noEntry

def slot (disk : Disk) (path : Path) : Except FileFault (Place × String) := do
  if let some fault := path.textFault? then throw fault
  let names := (if path.endsInSlash then path.steps.dropLast else path.steps)
  let name := names.getLast?.getD "."
  if Path.nameLimit < name.utf8ByteSize then throw .nameTooLong
  return (← disk.walk linkLimit (disk.origin path) (names.dropLast ++ ["."]), name)

def isStep (name : String) : Bool := name = "." || name = ".."

def bytes (disk : Disk) (path : Path) : Except FileFault ByteArray := do
  match ← disk.lookup path with
  | (_, .file data _) => return data
  | (_, .directory) => throw .isDirectory
  | (_, .link _) => throw .tooManyLinks

def put (disk : Disk) (path : Path) (data : ByteArray) : Except FileFault Disk := do
  let place ← disk.locate path
  match disk.node? place with
  | some .directory => throw .isDirectory
  | _ => return disk.fill place data

def unlink (disk : Disk) (path : Path) : Except FileFault Disk := do
  let (directory, name) ← disk.slot path
  if isStep name then throw .isDirectory
  let place := directory ++ [name]
  match disk.node? place with
  | none => throw .noEntry
  | some .directory => throw .isDirectory
  | some _ => if path.endsInSlash then throw .notDirectory else return disk.free place

def children (disk : Disk) (directory : Place) : List (String × Node) :=
  let found := disk.entries.filterMap fun (place, node) =>
    match place.getLast? with
    | some name => if place.dropLast = directory then some (name, node) else none
    | none => none
  found.mergeSort fun left right => decide (left.1 ≤ right.1)

def files (disk : Disk) : List (Path × ByteArray) :=
  disk.entries.filterMap fun
    | (place, .file data _) =>
        if disk.here.isPrefixOf place
        then some (⟨String.intercalate "/" (place.drop disk.here.length)⟩, data) else none
    | _ => none

end Disk

end GoldenSuite
