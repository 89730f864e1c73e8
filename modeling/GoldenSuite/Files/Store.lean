import GoldenSuite.Files.FileSystem
import GoldenSuite.Text.Utf8

set_option autoImplicit false

namespace GoldenSuite

namespace Store

abbrev Entry := Path × ByteArray

def places (entries : List Entry) : List (List Path.Component) :=
  entries.map fun entry => entry.1.components

/-- Contents put at a path. A path at the same place keeps its spelling. -/
def put (path : Path) (data : ByteArray) : List Entry → List Entry
  | [] => [(path, data)]
  | (held, old) :: rest =>
      if held.components = path.components then (held, data) :: rest
      else (held, old) :: put path data rest

def drop (path : Path) (entries : List Entry) : List Entry :=
  entries.filter fun entry => entry.1.components ≠ path.components

def lookup (path : Path) (entries : List Entry) : Option ByteArray :=
  (entries.find? fun entry => entry.1.components = path.components).map (·.2)

theorem mem_places_put {path : Path} {data : ByteArray} {entries : List Entry}
    {place : List Path.Component} :
    place ∈ places (put path data entries) ↔ place = path.components ∨ place ∈ places entries := by
  induction entries with
  | nil => simp [put, places]
  | cons entry rest ih =>
    obtain ⟨held, old⟩ := entry
    simp only [put]
    split
    next same => simp [places, same]
    next => simp only [places, List.map_cons, List.mem_cons] at ih ⊢; rw [ih]; grind

theorem nodup_places_put (path : Path) (data : ByteArray) {entries : List Entry}
    (distinct : (places entries).Nodup) : (places (put path data entries)).Nodup := by
  induction entries with
  | nil => simp [put, places]
  | cons entry rest ih =>
    obtain ⟨held, old⟩ := entry
    simp only [places, List.map_cons, List.nodup_cons] at distinct
    simp only [put]
    split
    next => simpa [places] using distinct
    next other =>
      have tail : held.components ∈ places (put path data rest) ↔ _ := mem_places_put
      simp only [places, List.map_cons, List.nodup_cons] at ih tail ⊢
      exact ⟨fun found => (tail.1 found).elim other distinct.1, ih distinct.2⟩

theorem nodup_places_drop (path : Path) {entries : List Entry}
    (distinct : (places entries).Nodup) : (places (drop path entries)).Nodup :=
  distinct.sublist (List.Sublist.map _ List.filter_sublist)

theorem lookup_put (path other : Path) (data : ByteArray) (entries : List Entry) :
    lookup other (put path data entries) =
      if other.components = path.components then some data else lookup other entries := by
  induction entries with
  | nil => simp only [lookup, put]; grind
  | cons entry rest ih =>
    obtain ⟨held, old⟩ := entry
    simp only [lookup, put] at ih ⊢
    grind

theorem lookup_drop (path other : Path) (entries : List Entry) :
    lookup other (drop path entries) =
      if other.components = path.components then none else lookup other entries := by
  induction entries with
  | nil => simp [lookup, drop]
  | cons entry rest ih =>
    simp only [lookup, drop] at ih ⊢
    grind

end Store

structure Store where
  entries : List Store.Entry := []
  distinct : (Store.places entries).Nodup := by simp [Store.places]
  isSealed : Bool := false

namespace Store

def empty : Store := {}

instance : Inhabited Store := ⟨empty⟩

def find? (store : Store) (path : Path) : Option ByteArray := lookup path store.entries

def insert (store : Store) (path : Path) (data : ByteArray) : Store where
  entries := put path data store.entries
  distinct := nodup_places_put path data store.distinct
  isSealed := store.isSealed

def erase (store : Store) (path : Path) : Store where
  entries := drop path store.entries
  distinct := nodup_places_drop path store.distinct
  isSealed := store.isSealed

def refuseWrites (store : Store) : Store := { store with isSealed := true }

def size (store : Store) : Nat := store.entries.length

def paths (store : Store) : List Path := Path.sort (store.entries.map (·.1))

def text? (store : Store) (path : Path) : Option String := (store.find? path).map Text.Utf8.lenient

@[simp] theorem find?_insert (store : Store) (path other : Path) (data : ByteArray) :
    (store.insert path data).find? other =
      if other.components = path.components then some data else store.find? other :=
  lookup_put path other data store.entries

@[simp] theorem find?_erase (store : Store) (path other : Path) :
    (store.erase path).find? other =
      if other.components = path.components then none else store.find? other :=
  lookup_drop path other store.entries

def read (store : Store) (path : Path) : Except FileError String :=
  match store.find? path with
  | none => .error (.io (.missing path.text))
  | some data =>
      match Text.Utf8.strict data with
      | .ok text => .ok text
      | .error flaw => .error (.path s!"invalid utf8: {flaw.message}")

def write (store : Store) (path : Path) (data : ByteArray) : Except FileError Unit × Store :=
  if store.isSealed then (.error (.io (.readOnly path.text)), store)
  else (.ok (), store.insert path data)

def remove (store : Store) (path : Path) : Except FileError Unit × Store :=
  match store.find? path with
  | none => (.error (.io (.missing path.text)), store)
  | some _ => (.ok (), store.erase path)

def holds (store : Store) (path : Path) : Bool := (store.find? path).isSome

def isWholeTree (root : Path) : Bool := root.text.isEmpty || root.same ⟨"."⟩

def list (store : Store) (root : Path) (glob : Glob) : List Path :=
  Path.sort <| (store.entries.map (·.1)).filter fun path =>
    (isWholeTree root || path.startsWith root) && path.nameMatches glob

instance : FileSystem Store where
  read := read
  write := write
  remove := remove
  holds := holds
  list store root glob := .ok (store.list root glob)

end Store

end GoldenSuite
