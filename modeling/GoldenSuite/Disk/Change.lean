import GoldenSuite.Disk.Basic

set_option autoImplicit false

namespace GoldenSuite.Disk

def below (disk : Disk) (place : Place) : List (Place × Node) :=
  disk.entries.filterMap fun (other, node) =>
    if place.isPrefixOf other then some (other.drop place.length, node) else none

def clear (disk : Disk) (place : Place) : Disk :=
  { disk with entries := disk.entries.filter fun entry => !place.isPrefixOf entry.1 }

def graft (disk : Disk) (place : Place) (branches : List (Place × Node)) : Disk :=
  branches.foldl (fun disk (rest, node) => disk.set (place ++ rest) node) disk

def isOccupied (disk : Disk) (directory : Place) : Bool := !(disk.children directory).isEmpty

def isDirectory (disk : Disk) (place : Place) : Bool := disk.node? place matches some .directory

def makeDir (disk : Disk) (path : Path) : Except FileFault Disk := do
  let (directory, name) ← disk.slot path
  let place := directory ++ [name]
  if isStep name || (disk.node? place).isSome then throw .alreadyExists
  return disk.set place .directory

def removeDir (disk : Disk) (path : Path) : Except FileFault Disk := do
  let (directory, name) ← disk.slot path
  if name = "." then throw .invalidArgument
  if name = ".." then throw .notEmpty
  let place := directory ++ [name]
  match disk.node? place with
  | none => throw .noEntry
  | some .directory =>
      if disk.isOccupied place then throw .notEmpty else return disk.free place
  | some _ => throw .notDirectory

def makeLink (disk : Disk) (path target : Path) : Except FileFault Disk := do
  let (directory, name) ← disk.slot path
  let place := directory ++ [name]
  if isStep name || (disk.node? place).isSome then throw .alreadyExists
  if path.endsInSlash then throw .noEntry
  return disk.set place (.link target)

/-- Moves what stands at a place. A file takes the place of another, a directory only that of one
with nothing in it. -/
def move (disk : Disk) (source target : Path) : Except FileFault Disk := do
  let (sourceDirectory, sourceName) ← disk.slot source
  let (targetDirectory, targetName) ← disk.slot target
  if isStep sourceName || isStep targetName then throw .busy
  let place := sourceDirectory ++ [sourceName]
  let goal := targetDirectory ++ [targetName]
  match disk.node? place, disk.node? goal with
  | none, _ => throw .noEntry
  | some .directory, found =>
      if place = goal then return disk
      if place.isPrefixOf goal then throw .invalidArgument
      match found with
      | none => pure ()
      | some .directory => if disk.isOccupied goal then throw .notEmpty
      | some _ => throw .notDirectory
      return (disk.clear place).graft goal (disk.below place)
  | some node, found =>
      if target.endsInSlash then throw .notDirectory
      else if found matches some .directory then throw .isDirectory
      else return (disk.free place).set goal node

end GoldenSuite.Disk
