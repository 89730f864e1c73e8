import GoldenSuite.Proofs.Path.Base
import GoldenSuite.Proofs.Suite.Siblings

set_option autoImplicit false

namespace GoldenSuite

/-- No ending ends in another one, and none leads into another directory. -/
structure SiblingEndings.SuffixFree (endings : SiblingEndings) : Prop where
  clear : ∀ ending ∈ endings.all, '/' ∉ ending.toList
  free : ∀ ending ∈ endings.all, ∀ other ∈ endings.all,
    ending.toList <:+ other.toList → ending = other

namespace Selection

theorem collisionsAfter_eq_nil_iff {seen paths : List Path} :
    collisionsAfter seen paths = [] ↔
      (paths.map fun path => path.base.components).Nodup ∧
        ∀ earlier ∈ seen, ∀ path ∈ paths, earlier.base.components ≠ path.base.components := by
  induction paths generalizing seen with
  | nil => simp [collisionsAfter]
  | cons path paths ih =>
    unfold collisionsAfter
    cases found : seen.find? fun earlier => earlier.base.same path.base with
    | some first =>
      -- The path collides with one that was seen.
      have among := List.mem_of_find?_eq_some found
      have same : first.base.components = path.base.components := by
        simpa [Path.same] using List.find?_some found
      refine iff_of_false (List.cons_ne_nil _ _) fun apart => ?_
      exact apart.2 first among path List.mem_cons_self same
    | none =>
      have apart : ∀ earlier ∈ seen, earlier.base.components ≠ path.base.components := by
        simpa [Path.same] using List.find?_eq_none.1 found
      dsimp only
      rw [ih]
      simp only [List.map_cons, List.nodup_cons, List.mem_map, List.forall_mem_append,
        List.forall_mem_cons, List.not_mem_nil, false_implies, implies_true, and_true]
      grind

theorem collisions_eq_nil_iff {paths : List Path} :
    collisions paths = [] ↔ (paths.map fun path => path.base.components).Nodup := by
  simp [collisions, collisionsAfter_eq_nil_iff]

end Selection

namespace Suite

variable {config : Config}

-- What two fixtures have in common tells that their base paths come to one place under the root.
theorem base_eq_of_shared (free : config.endings.SuffixFree) {root first second path other : Path}
    (named : first.base.fileName? ≠ none) (namedToo : second.base.fileName? ≠ none)
    (made : path ∈ (caseOf config root first).generated)
    (madeToo : other ∈ (caseOf config root second).generated)
    (same : path.components = other.components) :
    (root.join first.base).components = (root.join second.base).components := by
  rw [caseOf, TestCase.generated_of, List.mem_map] at made madeToo
  obtain ⟨ending, given, rfl⟩ := made
  obtain ⟨ending', given', rfl⟩ := madeToo
  obtain ⟨-, sameBase⟩ := Path.components_withSuffix_decode (Path.base_join_endsSolid root named)
    (Path.base_join_endsSolid root namedToo) (free.clear _ given) (free.clear _ given')
    (free.free _ given _ given') (free.free _ given' _ given) same
  rwa [Path.base_join root (Path.lastName?_ne_none named),
    Path.base_join root (Path.lastName?_ne_none namedToo)] at sameBase

/-- Fixtures without a collision have no generated file in common, unless their base paths differ
by a step to the directory itself alone and a root comes in front. -/
theorem disjoint_generated_of_collisions (free : config.endings.SuffixFree) {fixtures : List Path}
    (relative : ∀ fixture ∈ fixtures, fixture.isAbsolute = false)
    (named : ∀ fixture ∈ fixtures, fixture.base.fileName? ≠ none)
    (checked : Selection.collisions fixtures = []) (root : Path) :
    fixtures.Pairwise fun first second =>
      ((caseOf config root first).generated.map Path.components).Disjoint
          ((caseOf config root second).generated.map Path.components) ∨
        root.text ≠ "" ∧ (first.base.components = .here :: second.base.components ∨
          second.base.components = .here :: first.base.components) := by
  have apart := List.pairwise_map.1 (Selection.collisions_eq_nil_iff.1 checked)
  refine apart.imp_of_mem fun {first second} among amongOther different => ?_
  refine or_iff_not_imp_right.2 fun usual => List.disjoint_left.2 fun place made madeToo => ?_
  obtain ⟨path, isMade, rfl⟩ := List.mem_map.1 made
  obtain ⟨other, isMadeToo, same⟩ := List.mem_map.1 madeToo
  have stillRelative {fixture : Path} (given : fixture ∈ fixtures) :
      fixture.base.isAbsolute = false :=
    (Path.isAbsolute_base (Path.lastName?_ne_none (named fixture given))).trans
      (relative fixture given)
  have sameBase := base_eq_of_shared free (named first among) (named second amongOther) isMade
    isMadeToo same.symm
  rcases Path.components_of_join (stillRelative among) (stillRelative amongOther) sameBase with
    alike | step
  next => exact different alike
  next => exact usual step

end Suite

section Samples

theorem defaultEndings_suffixFree : SiblingEndings.SuffixFree {} where
  clear := defaultEndings_apart.clear
  free := by decide

-- The second base path goes on where the first one ends.
def chainedFixtures : List Path := [⟨"d/a.test"⟩, ⟨"d/a.syp.test"⟩]

theorem disjoint_generated_of_collisions_chained :
    (∀ fixture ∈ chainedFixtures, fixture.isAbsolute = false) ∧
      (∀ fixture ∈ chainedFixtures, fixture.base.fileName? ≠ none) ∧
      Selection.collisions chainedFixtures = [] ∧
      ((Suite.caseOf {} sampleRoot ⟨"d/a.test"⟩).generated.map Path.components).Disjoint
        ((Suite.caseOf {} sampleRoot ⟨"d/a.syp.test"⟩).generated.map Path.components) := by
  have relative : ∀ fixture ∈ chainedFixtures, fixture.isAbsolute = false := by decide +kernel
  have named : ∀ fixture ∈ chainedFixtures, fixture.base.fileName? ≠ none := by decide +kernel
  have checked : Selection.collisions chainedFixtures = [] := by decide +kernel
  have free : SiblingEndings.SuffixFree ({} : Config).endings := defaultEndings_suffixFree
  have apart := Suite.disjoint_generated_of_collisions free relative named checked sampleRoot
  obtain ⟨usual, -⟩ := List.pairwise_cons.1 apart
  have noStep : ¬ (sampleRoot.text ≠ "" ∧
      ((Path.mk "d/a.test").base.components = .here :: (Path.mk "d/a.syp.test").base.components ∨
        (Path.mk "d/a.syp.test").base.components =
          .here :: (Path.mk "d/a.test").base.components)) := by decide +kernel
  exact ⟨relative, named, checked, (usual _ (by simp)).resolve_right noStep⟩

-- The same fixture base twice, once with a step in front.
def steppedFixtures : List Path := [⟨"./a.test"⟩, ⟨"a.tst"⟩]

-- Fixtures without a collision that have all their generated files in common.
theorem steppedFixtures_share :
    SiblingEndings.SuffixFree ({} : Config).endings ∧
      (∀ fixture ∈ steppedFixtures, fixture.isAbsolute = false) ∧
      (∀ fixture ∈ steppedFixtures, fixture.base.fileName? ≠ none) ∧
      Selection.collisions steppedFixtures = [] ∧
      (Suite.caseOf {} sampleRoot ⟨"./a.test"⟩).generated.map Path.components =
        (Suite.caseOf {} sampleRoot ⟨"a.tst"⟩).generated.map Path.components ∧
      ¬ ((Suite.caseOf {} sampleRoot ⟨"./a.test"⟩).generated.map Path.components).Disjoint
        ((Suite.caseOf {} sampleRoot ⟨"a.tst"⟩).generated.map Path.components) := by
  have shared : (Suite.caseOf {} sampleRoot ⟨"./a.test"⟩).generated.map Path.components =
      (Suite.caseOf {} sampleRoot ⟨"a.tst"⟩).generated.map Path.components := by decide +kernel
  refine ⟨defaultEndings_suffixFree, by decide +kernel, by decide +kernel, by decide +kernel,
    shared, fun disjoint => ?_⟩
  rw [shared] at disjoint
  exact List.disjoint_left.1 disjoint List.mem_cons_self List.mem_cons_self

end Samples

end GoldenSuite
