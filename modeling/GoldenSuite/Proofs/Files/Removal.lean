import GoldenSuite.Proofs.Files.Store
import Mathlib.Data.List.Nodup

set_option autoImplicit false

namespace GoldenSuite.Store

variable {files left right : Store} {paths more : List Path}

theorem eq_of_entries (entries : left.entries = right.entries)
    (isSealed : left.isSealed = right.isSealed) : left = right := by
  cases left
  cases right
  cases entries
  cases isSealed
  rfl

/-- The store but for the files at these paths. -/
def without (files : Store) (paths : List Path) : Store where
  entries := files.entries.filter fun entry => entry.1.components ∉ paths.map Path.components
  distinct := files.distinct.sublist (List.Sublist.map _ List.filter_sublist)
  isSealed := files.isSealed

section Without

theorem without_congr (same : ∀ place, place ∈ paths.map Path.components ↔
    place ∈ more.map Path.components) (files : Store) : files.without paths = files.without more :=
  eq_of_entries (List.filter_congr fun entry _ => by simp only [same]) rfl

theorem without_append (files : Store) (paths more : List Path) :
    files.without (paths ++ more) = (files.without paths).without more := by
  refine eq_of_entries ?_ rfl
  simp only [without, List.filter_filter]
  apply List.filter_congr
  intro entry _
  simp only [List.map_append, List.mem_append, not_or, Bool.decide_and, Bool.and_comm]

theorem without_nil (files : Store) : files.without [] = files :=
  eq_of_entries (by simp [without]) rfl

theorem without_without (files : Store) (paths : List Path) :
    (files.without paths).without paths = files.without paths := by
  rw [← without_append]
  exact without_congr (by simp) files

theorem without_singleton (files : Store) (path : Path) :
    files.without [path] = files.erase path := by
  refine eq_of_entries ?_ rfl
  simp [without, erase, drop]

theorem without_cons (files : Store) (path : Path) (paths : List Path) :
    files.without (path :: paths) = (files.erase path).without paths := by
  rw [← without_singleton, ← without_append, List.singleton_append]

end Without

section Changes

-- What is put at a path that goes away goes away with it.
theorem filter_put (keeps : List Path.Component → Bool) {path : Path}
    (goes : keeps path.components = false) (data : ByteArray) (entries : List Entry) :
    (put path data entries).filter (fun entry => keeps entry.1.components) =
      entries.filter fun entry => keeps entry.1.components := by
  induction entries with
  | nil => simp [put, goes]
  | cons entry rest ih =>
    obtain ⟨held, old⟩ := entry
    unfold put
    split
    next same => simp [same, goes]
    next => simp only [List.filter_cons, ih]

theorem without_write {path : Path} (among : path.components ∈ paths.map Path.components)
    (files : Store) (data : ByteArray) :
    (FileSystem.write files path data).2.without paths = files.without paths := by
  rcases wrote : FileSystem.write files path data with ⟨error | _, after⟩
  next => rw [eq_of_refused wrote]
  next =>
    obtain ⟨-, rfl⟩ := write_eq_ok_iff.1 wrote
    exact eq_of_entries (filter_put (fun place => place ∉ paths.map Path.components)
      (by simpa using among) data files.entries) rfl

theorem without_remove {path : Path} (among : path.components ∈ paths.map Path.components)
    (files : Store) : (FileSystem.remove files path).2.without paths = files.without paths := by
  change (Store.remove files path).2.without paths = _
  unfold Store.remove
  split
  next => rfl
  next =>
    rw [← without_cons]
    exact without_congr (fun place => by simp only [List.map_cons, List.mem_cons]; grind) files

def SameWithout (paths : List Path) (left right : Store) : Prop :=
  left.without paths = right.without paths

theorem SameWithout.write {path : Path} (same : SameWithout paths left right)
    (among : path.components ∈ paths.map Path.components) (data : ByteArray) :
    SameWithout paths (FileSystem.write left path data).2 right :=
  (without_write among left data).trans same

theorem SameWithout.remove {path : Path} (same : SameWithout paths left right)
    (among : path.components ∈ paths.map Path.components) :
    SameWithout paths (FileSystem.remove left path).2 right :=
  (without_remove among left).trans same

end Changes

section Removal

theorem erase_of_missing {path : Path} (missing : files.find? path = none) :
    files.erase path = files := by
  refine eq_of_entries (List.filter_eq_self.2 fun entry among => ?_) rfl
  have elsewhere := List.find?_eq_none.1 (Option.map_eq_none_iff.1 missing) entry among
  simpa using elsewhere

theorem size_erase {path : Path} {data : ByteArray} (held : files.find? path = some data) :
    (files.erase path).size + 1 = files.size := by
  obtain ⟨entry, found, -⟩ := Option.map_eq_some_iff.1 held
  have place : path.components ∈ places files.entries := by
    have same : entry.1.components = path.components := by simpa using List.find?_some found
    exact List.mem_map.2 ⟨entry, List.mem_of_find?_eq_some found, same⟩
  -- No place is held twice, so one entry goes.
  have once : files.entries.countP (fun entry => entry.1.components == path.components) = 1 := by
    rw [← List.count_eq_one_of_mem files.distinct place, places, List.count, List.countP_map]
    rfl
  have all := List.length_eq_countP_add_countP (l := files.entries)
    fun entry => entry.1.components == path.components
  simp only [size, erase, drop, ne_eq, ← List.countP_eq_length_filter]
  simp only [once, beq_iff_eq] at all
  omega

theorem removeAll_eq (paths : List Path) (files : Store) :
    ∃ count, TestCase.removeAll paths files = (.ok count, files.without paths) ∧
      count + (files.without paths).size = files.size := by
  induction paths generalizing files with
  | nil =>
    rw [without_nil]
    exact ⟨0, rfl, Nat.zero_add _⟩
  | cons path paths ih =>
    obtain ⟨count, removed, counted⟩ := ih (files.erase path)
    rw [← without_cons] at removed counted
    cases found : files.find? path with
    | none =>
      have passed : FileSystem.remove files path = (.error (.io (.missing path.text)), files) := by
        change Store.remove files path = _
        simp [Store.remove, found]
      rw [erase_of_missing found] at removed counted
      refine ⟨count, ?_, counted⟩
      rw [TestCase.removeAll, passed]
      exact removed
    | some data =>
      have done : FileSystem.remove files path = (.ok (), files.erase path) := by
        change Store.remove files path = _
        simp [Store.remove, found]
      have smaller := size_erase found
      refine ⟨count + 1, ?_, by omega⟩
      simp only [TestCase.removeAll, done, removed]

end Removal

end GoldenSuite.Store
