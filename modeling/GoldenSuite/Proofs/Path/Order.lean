import Mathlib.Data.List.Lex
import GoldenSuite.Path

set_option autoImplicit false

namespace GoldenSuite.Path

theorem Component.key_injective : Function.Injective Component.key := by
  intro left right same
  cases left <;> cases right
  case name.name text other =>
    have letters : Function.Injective Char.toNat := fun c d => Char.toNat_inj.1
    have texts : text.toList = other.toList :=
      List.map_injective_iff.2 letters (List.tail_eq_of_cons_eq same)
    exact congrArg name (String.toList_inj.1 texts)
  all_goals simp_all [key]

variable {left right : Path}

theorem key_inj : left.key = right.key ↔ left.components = right.components :=
  (List.map_injective_iff.2 Component.key_injective).eq_iff

theorem le_iff_key_le : left.le right = true ↔ left.key ≤ right.key := by
  rw [← not_lt]
  simp [le]

theorem pairwise_le_sort (paths : List Path) :
    (sort paths).Pairwise fun left right => left.key ≤ right.key := by
  have transitive (first second third : Path) (low : first.le second = true)
      (high : second.le third = true) : first.le third = true := by
    rw [le_iff_key_le] at low high ⊢
    exact low.trans high
  have total (first second : Path) : (first.le second || second.le first) = true := by
    rw [Bool.or_eq_true, le_iff_key_le, le_iff_key_le]
    exact le_total first.key second.key
  exact (List.pairwise_mergeSort transitive total paths).imp le_iff_key_le.1

theorem pairwise_lt_sort_iff {paths : List Path} :
    ((sort paths).Pairwise fun left right => left.key < right.key) ↔
      (paths.map components).Nodup := by
  have reordered : ((sort paths).map components).Perm (paths.map components) :=
    (List.mergeSort_perm paths le).map components
  rw [← reordered.nodup_iff, List.Nodup, List.pairwise_map]
  constructor
  next =>
    intro increasing
    exact increasing.imp fun before same => before.ne (key_inj.2 same)
  next =>
    intro apart
    refine (pairwise_le_sort paths).imp₂ (fun _ _ low different => ?_) apart
    exact lt_of_le_of_ne low fun same => different (key_inj.1 same)

end GoldenSuite.Path
