import GoldenSuite.Proofs.Files.Removal
import GoldenSuite.Proofs.Suite.Siblings

set_option autoImplicit false

namespace GoldenSuite.Suite

def generatedOf (config : Config) (root : Path) (fixtures : List Path) : List Path :=
  fixtures.flatMap fun fixture => (caseOf config root fixture).generated

variable (config : Config) (root : Path) (fixtures : List Path)

section Cleaning

theorem removeGenerated_eq (files : Store) :
    ∃ count, removeGenerated config root fixtures files =
        (.ok count, files.without (generatedOf config root fixtures)) ∧
      count + (files.without (generatedOf config root fixtures)).size = files.size := by
  induction fixtures generalizing files with
  | nil =>
    have nothing : files.without (generatedOf config root []) = files := Store.without_nil files
    rw [nothing]
    exact ⟨0, rfl, Nat.zero_add _⟩
  | cons fixture fixtures ih =>
    obtain ⟨first, removed, counted⟩ :=
      Store.removeAll_eq (caseOf config root fixture).generated files
    obtain ⟨more, removedRest, countedRest⟩ :=
      ih (files.without (caseOf config root fixture).generated)
    have whole : files.without (generatedOf config root (fixture :: fixtures)) =
        (files.without (caseOf config root fixture).generated).without
          (generatedOf config root fixtures) := by
      rw [generatedOf, List.flatMap_cons, Store.without_append]
      rfl
    rw [whole]
    refine ⟨first + more, ?_, by omega⟩
    simp only [removeGenerated, TestCase.clean, removed, removedRest]

theorem clean_eq (world : World Store) :
    ∃ count, (clean config root fixtures world).1 = .ok count ∧
      (clean config root fixtures world).2.files =
        world.files.without (generatedOf config root fixtures) ∧
      count + (world.files.without (generatedOf config root fixtures)).size =
        world.files.size := by
  obtain ⟨count, removed, counted⟩ := removeGenerated_eq config root fixtures world.files
  refine ⟨count, ?_, ?_, counted⟩
  next => rw [fst_clean, removed]
  next => rw [files_clean, removed]

theorem without_generatedOf_congr {order : List Path}
    (same : ∀ fixture, fixture ∈ order ↔ fixture ∈ fixtures) (files : Store) :
    files.without (generatedOf config root order) =
      files.without (generatedOf config root fixtures) := by
  refine Store.without_congr (fun place => ?_) files
  simp only [generatedOf, List.mem_map, List.mem_flatMap, same]

end Cleaning

section Dumping

-- What a dump changes, a clean takes away, whether the dump succeeded or not.
theorem without_dump (world : World Store) :
    (dump config root fixtures world).2.files.without (generatedOf config root fixtures) =
      world.files.without (generatedOf config root fixtures) := by
  refine each_invariant
    (fun _ files => Store.SameWithout (generatedOf config root fixtures) files world.files)
    "dumped" (fun fixture among _ _ known => ?_) rfl
  have own (path : Path) (generated : path ∈ (caseOf config root fixture).generated) :
      path.components ∈ (generatedOf config root fixtures).map Path.components :=
    List.mem_map_of_mem (List.mem_flatMap.2 ⟨fixture, among, generated⟩)
  have upheld : (Trial.Course.untilUpdate fun files =>
      Store.SameWithout (generatedOf config root fixtures) files world.files).Upheld
        (idleSetup Store) (caseOf config root fixture) := by
    refine Trial.Course.untilUpdate_upheld ?_ ?_ ?_ ?_
    next => exact fun history invocation files kept => kept
    next => exact fun path generated files data kept => kept.write (own path generated) data
    next => exact fun path generated files kept => kept.remove (own path generated)
    next => exact fun files data error after kept failed => Store.eq_of_refused failed ▸ kept
  exact upheld.dump.files known

end Dumping

/-- A clean succeeds, leaves the files that are generated for none of the fixtures, and counts the
others. Cleaning again removes nothing, the same fixtures in another order or given more than once
make no difference, and neither does a dump of them before. -/
theorem clean_exact (world : World Store) :
    let cleaned := clean config root fixtures world
    ∃ count, cleaned.1 = .ok count ∧
      cleaned.2.files = world.files.without (generatedOf config root fixtures) ∧
      count + cleaned.2.files.size = world.files.size ∧
      ((clean config root fixtures cleaned.2).1 = .ok 0 ∧
        (clean config root fixtures cleaned.2).2.files = cleaned.2.files) ∧
      (∀ order : List Path, (∀ fixture, fixture ∈ order ↔ fixture ∈ fixtures) →
        (clean config root order world).1 = .ok count ∧
          (clean config root order world).2.files = cleaned.2.files) ∧
      (clean config root fixtures (dump config root fixtures world).2).2.files =
        cleaned.2.files := by
  intro cleaned
  obtain ⟨count, answer, files, counted⟩ := clean_eq config root fixtures world
  have files' : cleaned.2.files = world.files.without (generatedOf config root fixtures) := files
  rw [← files'] at counted
  refine ⟨count, answer, files', counted, ?_, fun order same => ?_, ?_⟩
  next =>
    obtain ⟨again, answerAgain, filesAgain, countedAgain⟩ :=
      clean_eq config root fixtures cleaned.2
    have unchanged : cleaned.2.files.without (generatedOf config root fixtures) =
        cleaned.2.files := by rw [files', Store.without_without]
    rw [unchanged] at filesAgain countedAgain
    obtain rfl : again = 0 := by omega
    exact ⟨answerAgain, filesAgain⟩
  next =>
    obtain ⟨number, answerOther, filesOther, countedOther⟩ := clean_eq config root order world
    rw [without_generatedOf_congr config root fixtures same, ← files'] at filesOther countedOther
    obtain rfl : number = count := by omega
    exact ⟨answerOther, filesOther⟩
  next =>
    obtain ⟨-, -, filesAfter, -⟩ :=
      clean_eq config root fixtures (dump config root fixtures world).2
    rw [filesAfter, without_dump, files']

section Samples

def bothFixtures : List Path := [⟨"a.test"⟩, ⟨"b.test"⟩]

-- The formatted source that was left over goes, however often it is asked for.
theorem clean_exact_leftover :
    (∀ fixture, fixture ∈ bothFixtures.reverse ++ bothFixtures ↔ fixture ∈ bothFixtures) ∧
      (clean {} sampleRoot (bothFixtures.reverse ++ bothFixtures) sampleSuite).1 = .ok 1 ∧
      (clean {} sampleRoot bothFixtures (dump {} sampleRoot bothFixtures sampleSuite).2).2.files =
        sampleSuite.files.without (generatedOf {} sampleRoot bothFixtures) := by
  have same : ∀ fixture, fixture ∈ bothFixtures.reverse ++ bothFixtures ↔
      fixture ∈ bothFixtures := by simp
  obtain ⟨count, -, files, counted, -, anyOrder, dumped⟩ :=
    clean_exact {} sampleRoot bothFixtures sampleSuite
  have left : (sampleSuite.files.without (generatedOf {} sampleRoot bothFixtures)).size = 2 := by
    decide +kernel
  have before : sampleSuite.files.size = 3 := by decide +kernel
  rw [files, left, before] at counted
  obtain rfl : count = 1 := by omega
  exact ⟨same, (anyOrder _ same).1, dumped.trans files⟩

end Samples

end GoldenSuite.Suite
