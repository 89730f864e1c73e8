import GoldenSuite.Files.Store
import GoldenSuite.Fixture.TestCase

set_option autoImplicit false

namespace GoldenSuite

class ReadsBack (φ : Type) [FileSystem φ] : Prop where
  read_of_write {before after : φ} {path : Path} {text : String}
    (written : FileSystem.write before path text.toUTF8 = (.ok (), after)) :
    FileSystem.read after path = .ok text

theorem TestCase.files_removeAll {φ : Type} [FileSystem φ] (path : Path) (paths : List Path)
    (files : φ) :
    (removeAll (path :: paths) files).2 =
      match FileSystem.remove files path with
      | (.ok (), left) => (removeAll paths left).2
      | (.error error, left) => if error.isNotFound then (removeAll paths left).2 else left := by
  rw [removeAll]
  rcases FileSystem.remove files path with ⟨error | _, left⟩
  next => dsimp only; split <;> rfl
  next =>
    dsimp only
    split
    next removed => rw [removed]
    next => rfl

theorem Fixture.load_eq_ok_iff {φ : Type} [FileSystem φ] {files : φ} {path : Path}
    {fixture : Fixture} :
    Fixture.load files path = .ok fixture ↔
      ∃ text, FileSystem.read files path = .ok text ∧ Fixture.parse text = .ok fixture := by
  unfold Fixture.load
  cases read : FileSystem.read files path with
  | error cause => simp
  | ok text => cases parsed : Fixture.parse text <;> simp [parsed]

namespace Store

theorem strict_eq_ok_iff {data : ByteArray} {text : String} :
    Text.Utf8.strict data = .ok text ↔ data = text.toUTF8 := by
  constructor
  next =>
    intro read
    simp only [Text.Utf8.strict, String.fromUTF8?] at read
    split at read
    next found valid =>
      split at valid
      next => cases valid; cases read; rfl
      next => cases valid
    next => cases read
  next =>
    rintro rfl
    exact Text.Utf8.strict_toByteArray text

theorem read_eq_ok_iff {files : Store} {path : Path} {text : String} :
    FileSystem.read files path = .ok text ↔ files.find? path = some text.toUTF8 := by
  change read files path = .ok text ↔ _
  unfold read
  rcases found : files.find? path with _ | data
  next => simp
  next =>
    rw [Option.some.injEq, ← strict_eq_ok_iff]
    cases read : Text.Utf8.strict data <;> simp [read]

theorem write_eq_ok_iff {before after : Store} {path : Path} {data : ByteArray} :
    FileSystem.write before path data = (.ok (), after) ↔
      before.isSealed = false ∧ after = before.insert path data := by
  change write before path data = (.ok (), after) ↔ _
  unfold write
  cases sealed : before.isSealed <;> simp [eq_comm]

theorem write_of_open {files : Store} (isOpen : files.isSealed = false) (path : Path)
    (data : ByteArray) : FileSystem.write files path data = (.ok (), files.insert path data) :=
  write_eq_ok_iff.2 ⟨isOpen, rfl⟩

theorem write_of_sealed {files : Store} (sealed : files.isSealed = true) (path : Path)
    (data : ByteArray) :
    FileSystem.write files path data = (.error (.io (.readOnly path.text)), files) := by
  change write files path data = _
  simp [write, sealed]

theorem eq_of_refused {before after : Store} {path : Path} {data : ByteArray} {error : FileError}
    (refused : FileSystem.write before path data = (.error error, after)) : after = before := by
  cases sealed : before.isSealed with
  | true =>
    rw [write_of_sealed sealed] at refused
    exact (congrArg Prod.snd refused).symm
  | false =>
    rw [write_of_open sealed] at refused
    cases refused

theorem find?_congr (files : Store) {path other : Path}
    (same : path.components = other.components) : files.find? path = files.find? other := by
  simp only [find?, lookup, same]

theorem load_eq_ok_congr (files : Store) {path other : Path}
    (same : path.components = other.components) (fixture : Fixture) :
    Fixture.load files path = .ok fixture ↔ Fixture.load files other = .ok fixture := by
  simp only [Fixture.load_eq_ok_iff, read_eq_ok_iff, find?_congr files same]

theorem load_congr {left right : Store} {path : Path}
    (same : left.find? path = right.find? path) :
    Fixture.load left path = Fixture.load right path := by
  have read : FileSystem.read left path = FileSystem.read right path := by
    change Store.read left path = Store.read right path
    rw [Store.read, Store.read, same]
  rw [Fixture.load, Fixture.load, read]

instance : ReadsBack Store where
  read_of_write written := by
    obtain ⟨-, rfl⟩ := write_eq_ok_iff.1 written
    simp [read_eq_ok_iff]

theorem find?_remove (files : Store) (path other : Path) :
    (FileSystem.remove files path).2.find? other =
      if other.components = path.components then none else files.find? other := by
  change (Store.remove files path).2.find? other = _
  unfold Store.remove
  split
  next held =>
    by_cases same : other.components = path.components
    next => rw [if_pos same, files.find?_congr same, held]
    next => rw [if_neg same]
  next => exact find?_erase files path other

-- Only a file that is not there can be kept from being removed.
theorem isNotFound_of_remove {files left : Store} {path : Path} {error : FileError}
    (failed : FileSystem.remove files path = (.error error, left)) : error.isNotFound = true := by
  change Store.remove files path = _ at failed
  unfold Store.remove at failed
  split at failed <;> cases failed
  rfl

theorem find?_removeAll (paths : List Path) (files : Store) (other : Path) :
    (TestCase.removeAll paths files).2.find? other =
      if other.components ∈ paths.map Path.components then none else files.find? other := by
  induction paths generalizing files with
  | nil => rfl
  | cons path rest ih =>
    have goesOn : (TestCase.removeAll (path :: rest) files).2 =
        (TestCase.removeAll rest (FileSystem.remove files path).2).2 := by
      rw [TestCase.files_removeAll]
      rcases removed : FileSystem.remove files path with ⟨error | _, left⟩
      next => simp [isNotFound_of_remove removed]
      next => rfl
    rw [goesOn, ih, find?_remove]
    simp only [List.map_cons, List.mem_cons]
    by_cases among : other.components ∈ rest.map Path.components
    next => simp [among]
    next => simp [among]

structure ChangesOnly (paths : List Path) (before after : Store) : Prop where
  isSealed_eq : after.isSealed = before.isSealed
  find?_eq (path : Path) (other : path.components ∉ paths.map Path.components) :
    after.find? path = before.find? path

namespace ChangesOnly

variable {paths : List Path} {before between after : Store}

theorem refl (paths : List Path) (files : Store) : ChangesOnly paths files files :=
  ⟨rfl, fun _ _ => rfl⟩

theorem trans (first : ChangesOnly paths before between)
    (second : ChangesOnly paths between after) : ChangesOnly paths before after where
  isSealed_eq := second.isSealed_eq.trans first.isSealed_eq
  find?_eq path other := (second.find?_eq path other).trans (first.find?_eq path other)

theorem symm (change : ChangesOnly paths before after) : ChangesOnly paths after before where
  isSealed_eq := change.isSealed_eq.symm
  find?_eq path other := (change.find?_eq path other).symm

theorem mono {more : List Path} (change : ChangesOnly paths before after) (fewer : paths ⊆ more) :
    ChangesOnly more before after where
  isSealed_eq := change.isSealed_eq
  find?_eq path other := change.find?_eq path fun among => other (List.map_subset _ fewer among)

theorem insert {path : Path} (among : path ∈ paths) (files : Store) (data : ByteArray) :
    ChangesOnly paths files (files.insert path data) where
  isSealed_eq := rfl
  find?_eq other apart := by
    have elsewhere : other.components ≠ path.components :=
      fun same => apart (same ▸ List.mem_map_of_mem among)
    simp [elsewhere]

theorem erase {path : Path} (among : path ∈ paths) (files : Store) :
    ChangesOnly paths files (files.erase path) where
  isSealed_eq := rfl
  find?_eq other apart := by
    have elsewhere : other.components ≠ path.components :=
      fun same => apart (same ▸ List.mem_map_of_mem among)
    simp [elsewhere]

theorem remove {path : Path} (among : path ∈ paths) (files : Store) :
    ChangesOnly paths files (FileSystem.remove files path).2 := by
  change ChangesOnly paths files (Store.remove files path).2
  unfold Store.remove
  cases files.find? path with
  | none => exact refl paths files
  | some data => exact erase among files

theorem write {path : Path} (among : path ∈ paths) (files : Store) (data : ByteArray) :
    ChangesOnly paths files (FileSystem.write files path data).2 := by
  change ChangesOnly paths files (Store.write files path data).2
  unfold Store.write
  cases files.isSealed with
  | true => exact refl paths files
  | false => exact insert among files data

theorem removeAll {removed : List Path} (among : removed ⊆ paths) (files : Store) :
    ChangesOnly paths files (TestCase.removeAll removed files).2 := by
  induction removed generalizing files with
  | nil => exact refl paths files
  | cons path rest ih =>
    obtain ⟨head, tail⟩ := List.cons_subset.1 among
    have first := remove head files
    unfold TestCase.removeAll
    rcases removed : FileSystem.remove files path with ⟨error | done, left⟩
    next =>
      -- A file that is not there is passed over; any other error ends the removal.
      simp only [removed] at first ⊢
      split
      next => exact first.trans (ih tail left)
      next => exact first
    next =>
      have others := ih tail left
      simp only [removed] at first ⊢
      rcases removedRest : TestCase.removeAll rest left with ⟨error | count, final⟩
      all_goals
        simp only [removedRest] at others ⊢
        exact first.trans others

end ChangesOnly

end Store

end GoldenSuite
