import GoldenSuite.Files.FileSystem
import GoldenSuite.Text.Search

/-!
Choosing fixtures: the files below a root that match a pattern, the ones that filters pick among
them, and the ones that share a base path and so would share their siblings.
-/

set_option autoImplicit false

namespace GoldenSuite.Selection

def discover {φ : Type} [FileSystem φ] (files : φ) (root : Path) (pattern : String) :
    Except FileError (List Path) :=
  match Glob.parse pattern with
  | .error error => .error (.pattern pattern error.message)
  | .ok glob =>
      match FileSystem.list files root glob with
      | .error error => .error error
      | .ok found => .ok (Path.sort (found.map fun path => (path.below? root).getD path))

/-- A filter without what follows its last dot, so that a fixture can be named by any of its files.
A dot in front is part of the name. -/
def needle (filter : String) : List Char := (Path.splitExtension filter.toList).1

def picks (filter : String) (path : Path) : Bool := Text.occurs (needle filter) path.chars

def claim : List String → List Path → List Path
  | [], _ => []
  | filter :: filters, pool =>
      pool.filter (picks filter) ++ claim filters (pool.filter fun path => !picks filter path)

def select (all : List Path) (filters : List String) : List Path :=
  if filters.isEmpty then all else claim filters all

structure Collision where
  base : Path
  first : Path
  second : Path
  deriving DecidableEq, Repr

def collisionsAfter : List Path → List Path → List Collision
  | _, [] => []
  | seen, path :: paths =>
      match seen.find? fun earlier => earlier.base.same path.base with
      | some first => ⟨path.base, first, path⟩ :: collisionsAfter seen paths
      | none => collisionsAfter (seen ++ [path]) paths

def collisions (paths : List Path) : List Collision := collisionsAfter [] paths

end GoldenSuite.Selection
