import GoldenSuite.Disk.Change
import GoldenSuite.Files.FileSystem
import GoldenSuite.Text.Utf8

set_option autoImplicit false

namespace GoldenSuite

namespace Disk

def read (disk : Disk) (path : Path) : Except FileError String :=
  match disk.bytes path with
  | .error fault => .error (.io fault)
  | .ok data =>
      match Text.Utf8.strict data with
      | .ok text => .ok text
      | .error _ => .error (.io .notText)

def stagingPath (path : Path) : Path :=
  path.withFileName (path.fileName?.getD "" ++ ".tmp")

def write (disk : Disk) (path : Path) (data : ByteArray) : Except FileError Unit × Disk :=
  let staging := stagingPath path
  match disk.put staging data with
  | .error fault => (.error (.io fault), disk)
  | .ok staged =>
      match staged.move staging path with
      | .ok moved => (.ok (), moved)
      | .error fault => (.error (.io fault), (staged.unlink staging).toOption.getD staged)

def remove (disk : Disk) (path : Path) : Except FileError Unit × Disk :=
  match disk.unlink path with
  | .ok rest => (.ok (), rest)
  | .error fault => (.error (.io fault), disk)

def holds (disk : Disk) (path : Path) : Bool := (disk.lookup path).isOk

/-- The files at and below a node at a place, each with its path from the root. The places above
are the directories on the way here, which no link may lead back to. -/
def filesBelow (disk : Disk) (root : Path) :
    Nat → List Place → Path → Place → Node → Except FileError (List Path)
  | 0, _, _, _, _ => .ok []
  | _ + 1, _, path, _, .file .. => .ok [path]
  | fuel + 1, above, path, place, .directory => do
      let found ← (disk.children place).mapM fun (name, node) =>
        filesBelow disk root fuel (place :: above) (path.join ⟨name⟩) (place ++ [name]) node
      return found.flatten
  | fuel + 1, above, path, place, .link target => do
      let start := if target.isAbsolute then [] else place.dropLast
      let goal ← (disk.walk linkLimit start target.steps).mapError .io
      match disk.node? goal with
      | none => throw (.io .noEntry)
      | some .directory =>
          if above.contains goal then throw (.path s!"filesystem loop under {root.text}")
          else filesBelow disk root fuel above path goal .directory
      | some node => filesBelow disk root fuel above path goal node

def depthLimit (disk : Disk) : Nat := (disk.entries.length + 2) * (disk.entries.length + 2)

def list (disk : Disk) (root : Path) (glob : Glob) : Except FileError (List Path) := do
  match disk.lookup root with
  | .error _ => return []
  | .ok (place, node) =>
      let files ← disk.filesBelow root disk.depthLimit [] root place node
      return Path.sort (files.filter (·.nameMatches glob))

instance : FileSystem Disk where
  read := read
  write := write
  remove := remove
  holds := holds
  list := list

end Disk

end GoldenSuite
