import GoldenSuite.Proofs.Files.Contents
import Mathlib.Data.List.Basic

set_option autoImplicit false

namespace GoldenSuite

/-- A file system whose operations do not go by the contents of other places. -/
class Separate (φ : Type) [FileSystem φ] extends Contents φ where
  Alike : φ → φ → Prop
  equivalence : Equivalence Alike
  bytes?_congr (files : φ) {path other : Path} (same : path.components = other.components) :
    bytes? files path = bytes? files other
  read_congr {left right : φ} {path : Path} (known : Alike left right)
      (same : bytes? left path = bytes? right path) :
    FileSystem.read left path = FileSystem.read right path
  holds_congr {left right : φ} {path : Path} (known : Alike left right)
      (same : bytes? left path = bytes? right path) :
    FileSystem.holds left path = FileSystem.holds right path
  write_congr {left right : φ} (known : Alike left right) (path : Path) (data : ByteArray) :
    (FileSystem.write left path data).1 = (FileSystem.write right path data).1
  write_alike (files : φ) (path : Path) (data : ByteArray) :
    Alike files (FileSystem.write files path data).2
  remove_congr {left right : φ} {path : Path} (known : Alike left right)
      (same : bytes? left path = bytes? right path) :
    (FileSystem.remove left path).1 = (FileSystem.remove right path).1 ∧
      bytes? (FileSystem.remove left path).2 path = bytes? (FileSystem.remove right path).2 path
  remove_alike (files : φ) (path : Path) : Alike files (FileSystem.remove files path).2

instance : Separate Store where
  Alike left right := left.isSealed = right.isSealed
  equivalence := ⟨fun _ => rfl, Eq.symm, Eq.trans⟩
  bytes?_congr files _ _ same := files.find?_congr same
  read_congr {left right path} _ same := by
    change Store.read left path = Store.read right path
    change left.find? path = right.find? path at same
    rw [Store.read, Store.read, same]
  holds_congr {left right path} _ same := congrArg Option.isSome same
  write_congr {left right} known path data := by
    change (Store.write left path data).1 = (Store.write right path data).1
    unfold Store.write
    rw [known]
    split <;> rfl
  write_alike files path data :=
    (Store.ChangesOnly.write (List.mem_singleton_self path) files data).isSealed_eq.symm
  remove_congr {left right path} _ same := by
    change left.find? path = right.find? path at same
    change (Store.remove left path).1 = (Store.remove right path).1 ∧
      (Store.remove left path).2.find? path = (Store.remove right path).2.find? path
    unfold Store.remove
    rw [same]
    cases found : right.find? path with
    | none => exact ⟨rfl, same⟩
    | some data => exact ⟨rfl, by simp⟩
  remove_alike files path :=
    (Store.ChangesOnly.remove (List.mem_singleton_self path) files).isSealed_eq.symm

namespace Separate

open Contents

variable {φ : Type} [FileSystem φ] [Separate φ] {paths more : List Path}
  {files left right next : φ}

structure SameAt (paths : List Path) (left right : φ) : Prop where
  alike : Alike left right
  bytes?_eq (path : Path) (among : path ∈ paths) : bytes? left path = bytes? right path

structure SameOff (paths : List Path) (left right : φ) : Prop where
  alike : Alike left right
  bytes?_eq (path : Path) (apart : path.components ∉ paths.map Path.components) :
    bytes? left path = bytes? right path

structure Same (left right : φ) : Prop where
  alike : Alike left right
  bytes?_eq (path : Path) : bytes? left path = bytes? right path

namespace SameAt

theorem refl (paths : List Path) (files : φ) : SameAt paths files files :=
  ⟨equivalence.refl files, fun _ _ => rfl⟩

theorem symm (same : SameAt paths left right) : SameAt paths right left :=
  ⟨equivalence.symm same.alike, fun path among => (same.bytes?_eq path among).symm⟩

theorem trans (first : SameAt paths left next) (second : SameAt paths next right) :
    SameAt paths left right :=
  ⟨equivalence.trans first.alike second.alike, fun path among =>
    (first.bytes?_eq path among).trans (second.bytes?_eq path among)⟩

end SameAt

namespace SameOff

theorem refl (paths : List Path) (files : φ) : SameOff paths files files :=
  ⟨equivalence.refl files, fun _ _ => rfl⟩

theorem symm (same : SameOff paths left right) : SameOff paths right left :=
  ⟨equivalence.symm same.alike, fun path apart => (same.bytes?_eq path apart).symm⟩

theorem trans (first : SameOff paths left next) (second : SameOff paths next right) :
    SameOff paths left right :=
  ⟨equivalence.trans first.alike second.alike, fun path apart =>
    (first.bytes?_eq path apart).trans (second.bytes?_eq path apart)⟩

theorem mono (same : SameOff paths left right)
    (sub : paths.map Path.components ⊆ more.map Path.components) : SameOff more left right :=
  ⟨same.alike, fun path apart => same.bytes?_eq path fun among => apart (sub among)⟩

-- What is the same off some paths is the same at others.
theorem sameAt (same : SameOff paths left right)
    (apart : (more.map Path.components).Disjoint (paths.map Path.components)) :
    SameAt more left right :=
  ⟨same.alike, fun path among => same.bytes?_eq path (apart (List.mem_map_of_mem among))⟩

-- What is the same at some paths and off them is the same everywhere.
theorem same (off : SameOff paths left right) (here : SameAt paths left right) :
    Same left right := by
  refine ⟨off.alike, fun path => ?_⟩
  by_cases among : path.components ∈ paths.map Path.components
  next =>
    obtain ⟨other, member, place⟩ := List.mem_map.1 among
    rw [← bytes?_congr left place, ← bytes?_congr right place]
    exact here.bytes?_eq other member
  next => exact off.bytes?_eq path among

end SameOff

-- An operation at a path changes nothing elsewhere.
theorem write_sameOff {path : Path} (among : path ∈ paths) (files : φ) (data : ByteArray) :
    SameOff paths files (FileSystem.write files path data).2 :=
  ⟨write_alike files path data, fun _ apart => Eq.symm <|
    bytes?_write files data fun same => apart (same ▸ List.mem_map_of_mem among)⟩

theorem remove_sameOff {path : Path} (among : path ∈ paths) (files : φ) :
    SameOff paths files (FileSystem.remove files path).2 :=
  ⟨remove_alike files path, fun _ apart => Eq.symm <|
    bytes?_remove files fun same => apart (same ▸ List.mem_map_of_mem among)⟩

namespace SameAt

theorem read_eq (same : SameAt paths left right) {path : Path} (among : path ∈ paths) :
    FileSystem.read left path = FileSystem.read right path :=
  read_congr same.alike (same.bytes?_eq path among)

theorem holds_eq (same : SameAt paths left right) {path : Path} (among : path ∈ paths) :
    FileSystem.holds left path = FileSystem.holds right path :=
  holds_congr same.alike (same.bytes?_eq path among)

theorem write (same : SameAt paths left right) (path : Path) (data : ByteArray) :
    (FileSystem.write left path data).1 = (FileSystem.write right path data).1 ∧
      SameAt paths (FileSystem.write left path data).2 (FileSystem.write right path data).2 := by
  have answers := write_congr same.alike path data
  refine ⟨answers, ?_, ?_⟩
  next =>
    exact equivalence.trans (equivalence.symm (write_alike left path data))
      (equivalence.trans same.alike (write_alike right path data))
  next =>
    intro other among
    rcases wrote : FileSystem.write left path data with ⟨answer, left'⟩
    rcases wrote' : FileSystem.write right path data with ⟨answer', right'⟩
    rw [wrote, wrote'] at answers
    obtain rfl : answer = answer' := answers
    cases answer with
    | error error =>
      rw [bytes?_refused wrote, bytes?_refused wrote']
      exact same.bytes?_eq other among
    | ok _ =>
      rw [bytes?_written wrote, bytes?_written wrote']
      split
      next => rfl
      next => exact same.bytes?_eq other among

theorem remove (same : SameAt paths left right) {path : Path} (among : path ∈ paths) :
    (FileSystem.remove left path).1 = (FileSystem.remove right path).1 ∧
      SameAt paths (FileSystem.remove left path).2 (FileSystem.remove right path).2 := by
  obtain ⟨answers, here⟩ := remove_congr same.alike (same.bytes?_eq path among)
  refine ⟨answers, ?_, ?_⟩
  next =>
    exact equivalence.trans (equivalence.symm (remove_alike left path))
      (equivalence.trans same.alike (remove_alike right path))
  next =>
    intro other member
    by_cases place : other.components = path.components
    next => rw [bytes?_congr _ place, bytes?_congr _ place, here]
    next =>
      rw [bytes?_remove left place, bytes?_remove right place]
      exact same.bytes?_eq other member

end SameAt

end Separate

end GoldenSuite
