import GoldenSuite.Proofs.Suite.Collisions
import Mathlib.Data.Finset.Card
import Mathlib.Data.List.FinRange

set_option autoImplicit false

namespace GoldenSuite.Selection

section Positions

variable (paths : List Path)

def Shares (i j : Fin paths.length) : Prop :=
  (paths.get i).base.components = (paths.get j).base.components

instance (i j : Fin paths.length) : Decidable (Shares paths i j) :=
  inferInstanceAs (Decidable (_ = _))

def repeated : List (Fin paths.length) :=
  (List.finRange paths.length).filter fun i => ∃ j < i, Shares paths j i

/-- The collision tells of the path at a position, and of the first one with its base path. -/
structure Reports (i : Fin paths.length) (collision : Collision) : Prop where
  base : collision.base = (paths.get i).base
  second : collision.second = paths.get i
  first : ∃ j < i, collision.first = paths.get j ∧ Shares paths j i ∧ ∀ k < j, ¬ Shares paths k i

end Positions

section Earlier

def firstOf (base : Path) (paths : List Path) : Option Path :=
  paths.find? fun path => path.base.same base

def collision? (before : List Path) (path : Path) : Option Collision :=
  (firstOf path.base before).map fun first => ⟨path.base, first, path⟩

theorem collisionsAfter_cons (seen : List Path) (path : Path) (paths : List Path) :
    collisionsAfter seen (path :: paths) =
      match firstOf path.base seen with
      | some first => ⟨path.base, first, path⟩ :: collisionsAfter seen paths
      | none => collisionsAfter (seen ++ [path]) paths := rfl

theorem firstOf_congr {base other : Path} (same : base.components = other.components)
    (paths : List Path) : firstOf base paths = firstOf other paths := by
  simp only [firstOf, Path.same, same]

theorem firstOf_append (base : Path) (before : List Path) (path : Path) :
    firstOf base (before ++ [path]) =
      (firstOf base before).or (if path.base.same base then some path else none) := by
  simp only [firstOf, List.find?_append, List.find?_singleton]

-- Where the first path of each base is known, the others of that base do not matter.
theorem firstOf_append_of_some {before : List Path} {path first : Path}
    (found : firstOf path.base before = some first) (base : Path) :
    firstOf base (before ++ [path]) = firstOf base before := by
  rw [firstOf_append]
  by_cases same : path.base.same base = true
  next =>
    have alike : path.base.components = base.components := by simpa [Path.same] using same
    rw [← firstOf_congr alike, found]
    rfl
  next => simp [same]

theorem collisionsAfter_eq {seen before : List Path}
    (known : ∀ base, firstOf base seen = firstOf base before) (paths : List Path) :
    collisionsAfter seen paths = (List.finRange paths.length).filterMap fun i : Fin paths.length =>
      collision? (before ++ paths.take i) (paths.get i) := by
  induction paths generalizing seen before with
  | nil => rfl
  | cons path paths ih =>
    have rest (other : List Path) (knownNext : ∀ base, firstOf base other =
        firstOf base (before ++ [path])) :
        collisionsAfter other paths =
          ((List.finRange paths.length).map Fin.succ).filterMap
            fun i : Fin (path :: paths).length =>
              collision? (before ++ (path :: paths).take i) ((path :: paths).get i) := by
      rw [ih knownNext, List.filterMap_map]
      simp [Function.comp_def]
    have positions : List.finRange (path :: paths).length =
        ⟨0, Nat.succ_pos _⟩ :: (List.finRange paths.length).map Fin.succ := List.finRange_succ
    rw [positions, collisionsAfter_cons]
    rcases found : firstOf path.base seen with _ | first
    next =>
      have none : collision? before path = none := by simp [collision?, ← known, found]
      rw [List.filterMap_cons_none (by simpa using none)]
      refine rest _ fun base => ?_
      rw [firstOf_append, firstOf_append, known]
    next =>
      have some : collision? before path = some ⟨path.base, first, path⟩ := by
        simp [collision?, ← known, found]
      rw [List.filterMap_cons_some (by simpa using some)]
      have again := firstOf_append_of_some ((known path.base).symm.trans found)
      exact congrArg (_ :: ·) (rest _ fun base => by rw [again, known])

theorem collisions_eq (paths : List Path) :
    collisions paths = (List.finRange paths.length).filterMap fun i : Fin paths.length =>
      collision? (paths.take i) (paths.get i) :=
  collisionsAfter_eq (fun _ => rfl) paths

end Earlier

section Reporting

variable {paths : List Path}

theorem firstOf_take_eq_some_iff {i : Fin paths.length} {first : Path} :
    firstOf (paths.get i).base (paths.take i) = some first ↔
      ∃ j < i, first = paths.get j ∧ Shares paths j i ∧ ∀ k < j, ¬ Shares paths k i := by
  simp only [firstOf, List.find?_eq_some_iff_getElem, Path.same, beq_iff_eq, List.length_take,
    List.getElem_take, Shares, Bool.not_eq_true', beq_eq_false_iff_ne]
  constructor
  next =>
    rintro ⟨same, j, within, rfl, none⟩
    have before : j < i := (Nat.lt_min.1 within).1
    exact ⟨⟨j, before.trans i.isLt⟩, before, rfl, same, fun k earlier => none k earlier⟩
  next =>
    rintro ⟨j, before, rfl, same, none⟩
    refine ⟨same, j, Nat.lt_min.2 ⟨before, j.isLt⟩, rfl, fun k earlier => ?_⟩
    exact none ⟨k, earlier.trans j.isLt⟩ earlier

theorem collision?_take_eq_some_iff {i : Fin paths.length} {collision : Collision} :
    collision? (paths.take i) (paths.get i) = some collision ↔ Reports paths i collision := by
  rw [collision?, Option.map_eq_some_iff]
  constructor
  next =>
    rintro ⟨first, found, rfl⟩
    exact ⟨rfl, rfl, firstOf_take_eq_some_iff.1 found⟩
  next =>
    rintro ⟨sameBase, sameSecond, first⟩
    refine ⟨collision.first, firstOf_take_eq_some_iff.2 first, ?_⟩
    rw [← sameBase, ← sameSecond]

theorem repeated_eq : repeated paths = (List.finRange paths.length).filter
    fun i : Fin paths.length => (collision? (paths.take i) (paths.get i)).isSome := by
  refine List.filter_congr fun i _ => ?_
  rw [Bool.eq_iff_iff, decide_eq_true_iff, collision?, Option.isSome_map, firstOf,
    List.find?_isSome]
  simp only [List.mem_take_iff_getElem, Path.same, beq_iff_eq, Shares]
  constructor
  next =>
    rintro ⟨j, before, same⟩
    exact ⟨paths.get j, ⟨j, Nat.lt_min.2 ⟨before, j.isLt⟩, rfl⟩, same⟩
  next =>
    rintro ⟨_, ⟨j, within, rfl⟩, same⟩
    exact ⟨⟨j, (Nat.lt_min.1 within).2⟩, (Nat.lt_min.1 within).1, same⟩

-- What an element gives stands in the place of the element.
theorem forall₂_filterMap {α β : Type} (give : α → Option β) (all : List α) :
    List.Forall₂ (fun element given => give element = some given)
      (all.filter fun element => (give element).isSome) (all.filterMap give) := by
  induction all with
  | nil => exact .nil
  | cons element rest ih =>
    rcases given : give element with _ | answer
    next => simpa [given] using ih
    next => simpa [given] using ih

theorem forall₂_collisions (paths : List Path) :
    List.Forall₂ (Reports paths) (repeated paths) (collisions paths) := by
  have each := forall₂_filterMap
    (fun i : Fin paths.length => collision? (paths.take i) (paths.get i))
    (List.finRange paths.length)
  rw [collisions_eq, repeated_eq]
  exact each.imp fun i collision told => collision?_take_eq_some_iff.1 told

end Reporting

section Counting

def bases (paths : List Path) : List (List Path.Component) :=
  paths.map fun path => path.base.components

theorem toFinset_bases_insert (seen : List Path) (path : Path) (paths : List Path) :
    (bases (seen ++ path :: paths)).toFinset =
      insert path.base.components (bases (seen ++ paths)).toFinset := by
  ext place
  simp [bases]

theorem length_collisionsAfter (seen paths : List Path) :
    (collisionsAfter seen paths).length + (bases (seen ++ paths)).toFinset.card =
      paths.length + (bases seen).toFinset.card := by
  induction paths generalizing seen with
  | nil => simp [collisionsAfter]
  | cons path paths ih =>
    rw [collisionsAfter_cons]
    cases found : firstOf path.base seen with
    | some first =>
      -- The base path is known, so there is a collision and no new place.
      have known : path.base.components ∈ (bases (seen ++ paths)).toFinset := by
        have same : first.base.components = path.base.components := by
          simpa [Path.same] using List.find?_some found
        rw [← same, List.mem_toFinset]
        exact List.mem_map_of_mem (List.mem_append_left _ (List.mem_of_find?_eq_some found))
      have counted := ih seen
      rw [toFinset_bases_insert, Finset.insert_eq_of_mem known, List.length_cons, List.length_cons]
      omega
    | none =>
      have fresh : path.base.components ∉ (bases (seen ++ [])).toFinset := by
        simpa [Path.same, bases] using List.find?_eq_none.1 found
      have counted := ih (seen ++ [path])
      rw [toFinset_bases_insert, Finset.card_insert_of_notMem fresh, List.append_nil,
        List.append_assoc, List.singleton_append] at counted
      rw [List.length_cons]
      dsimp only
      omega

end Counting

/-- Exactly the paths whose base path an earlier one has as well are reported, each once, in the
order of the list and with the first path of its base. So nothing is reported exactly if the base
paths lead to different places, and one path for each of these places is left over. -/
theorem collisions_report_repeated (paths : List Path) :
    List.Forall₂ (Reports paths) (repeated paths) (collisions paths) ∧
      (collisions paths = [] ↔ (bases paths).Nodup) ∧
      (collisions paths).length + (bases paths).toFinset.card = paths.length :=
  ⟨forall₂_collisions paths, collisions_eq_nil_iff, by
    simpa [collisions, bases] using length_collisionsAfter [] paths⟩

-- The third path of a base is reported with the first one, not with the second.
example :
    collisions [⟨"a/x.test"⟩, ⟨"b"⟩, ⟨"a//x.tst"⟩, ⟨"b.c"⟩, ⟨"a/x"⟩] =
      [⟨⟨"a//x"⟩, ⟨"a/x.test"⟩, ⟨"a//x.tst"⟩⟩, ⟨⟨"b"⟩, ⟨"b"⟩, ⟨"b.c"⟩⟩,
        ⟨⟨"a/x"⟩, ⟨"a/x.test"⟩, ⟨"a/x"⟩⟩] := by
  decide +kernel

end GoldenSuite.Selection
