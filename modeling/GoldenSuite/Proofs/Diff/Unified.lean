import GoldenSuite.Diff.Unified
import GoldenSuite.Proofs.Diff.Script
import GoldenSuite.Symbols

set_option autoImplicit false

namespace GoldenSuite

namespace Diff

variable {α : Type}

theorem consHunk_ne_nil (run : Placed α) (later : List (Hunk α)) : consHunk run later ≠ [] := by
  cases later <;> simp [consHunk]

theorem splitAtGaps_ne_nil (context : Nat) {runs : List (Placed α)} (solid : runs ≠ []) :
    splitAtGaps context runs ≠ [] := by
  cases runs with
  | nil => exact absurd rfl solid
  | cons run runs =>
    simp only [splitAtGaps]
    split
    next => simp
    next => exact consHunk_ne_nil _ _

theorem mapFirst_ne_nil (f : Placed α → Placed α) {runs : List (Placed α)} (solid : runs ≠ []) :
    mapFirst f runs ≠ [] := by
  cases runs <;> simp_all [mapFirst]

theorem mapLast_ne_nil (f : Placed α → Placed α) {runs : List (Placed α)} (solid : runs ≠ []) :
    mapLast f runs ≠ [] := by
  fun_cases mapLast f runs <;> simp_all

theorem hunks_eq_nil_iff (context : Nat) (runs : List (Run α)) :
    hunks context runs = [] ↔ runs.all Run.isSame = true := by
  unfold hunks
  split
  next same => simp [same]
  next different =>
    have solid : place 0 0 runs ≠ [] := by
      cases runs with
      | nil => simp at different
      | cons run runs => simp [place]
    have split := splitAtGaps_ne_nil context
      (mapLast_ne_nil (Placed.takeFirst context) (mapFirst_ne_nil (Placed.takeLast context) solid))
    simp [split, different]

theorem unifiedLines_eq_nil_iff (old new : List String) (oldLabel newLabel : String) :
    unifiedLines old new oldLabel newLabel = [] ↔ old = new := by
  rw [← all_isSame_script_iff old new, ← hunks_eq_nil_iff contextLines]
  unfold unifiedLines
  split
  next nothing => simp [nothing]
  next something => exact iff_of_false (List.cons_ne_nil _ _) something

theorem isEmpty_join_lines_iff (lines : List String) :
    (String.join (lines.map (· ++ "\n"))).isEmpty = true ↔ lines = [] := by
  cases lines with
  | nil => simp
  | cons line lines => simp [String.isEmpty_iff]

theorem isEmpty_unified_iff (old new : List String) (oldLabel newLabel : String) :
    (unified old new oldLabel newLabel).isEmpty = true ↔ old = new := by
  rw [unified, isEmpty_join_lines_iff, unifiedLines_eq_nil_iff]

end Diff

namespace Symbols

theorem compare_eq_agree_iff (expected actual : String) :
    compare expected actual = .agree ↔ entries expected = entries actual := by
  rw [← Diff.isEmpty_unified_iff _ _ "expected.sym" "actual.sym"]
  simp only [compare]
  split
  next same => simp [same]
  next different => simp [different]

end Symbols

end GoldenSuite
