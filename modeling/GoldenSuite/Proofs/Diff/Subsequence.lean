import GoldenSuite.Proofs.Diff.Script
import Mathlib.Data.List.Infix
import Mathlib.Order.Bounds.Defs

set_option autoImplicit false

namespace GoldenSuite.Diff

variable {α : Type} [DecidableEq α]

def lcsLength : List α → List α → Nat
  | [], _ => 0
  | _ :: _, [] => 0
  | x :: old, y :: new =>
      if x = y then lcsLength old new + 1
      else max (lcsLength old (y :: new)) (lcsLength (x :: old) new)
  termination_by old new => old.length + new.length

section Length

@[simp] theorem lcsLength_nil_left (new : List α) : lcsLength [] new = 0 := by
  rw [lcsLength]

@[simp] theorem lcsLength_nil_right (old : List α) : lcsLength old [] = 0 := by
  cases old <;> rw [lcsLength]

theorem lcsLength_cons_cons (x y : α) (old new : List α) :
    lcsLength (x :: old) (y :: new) =
      if x = y then lcsLength old new + 1
      else max (lcsLength old (y :: new)) (lcsLength (x :: old) new) := by
  rw [lcsLength]

theorem exists_common (old new : List α) :
    ∃ common : List α, common.Sublist old ∧ common.Sublist new ∧
      common.length = lcsLength old new := by
  induction old generalizing new with
  | nil => exact ⟨[], by simp⟩
  | cons x old deleted =>
    induction new with
    | nil => exact ⟨[], by simp⟩
    | cons y new inserted =>
      rw [lcsLength_cons_cons]
      by_cases same : x = y
      next =>
        subst same
        obtain ⟨common, inOld, inNew, length⟩ := deleted new
        exact ⟨x :: common, inOld.cons_cons x, inNew.cons_cons x, by simp [length]⟩
      next =>
        rw [if_neg same]
        rcases Nat.le_total (lcsLength (x :: old) new) (lcsLength old (y :: new)) with less | less
        next =>
          obtain ⟨common, inOld, inNew, length⟩ := deleted (y :: new)
          exact ⟨common, inOld.cons x, inNew, by rw [length, Nat.max_eq_left less]⟩
        next =>
          obtain ⟨common, inOld, inNew, length⟩ := inserted
          exact ⟨common, inOld, inNew.cons y, by rw [length, Nat.max_eq_right less]⟩

theorem length_le_lcsLength {old new common : List α} (inOld : common.Sublist old)
    (inNew : common.Sublist new) : common.length ≤ lcsLength old new := by
  induction old generalizing new common with
  | nil => simp [List.sublist_nil.1 inOld]
  | cons x old deleted =>
    induction new generalizing common with
    | nil => simp [List.sublist_nil.1 inNew]
    | cons y new inserted =>
      rw [lcsLength_cons_cons]
      by_cases same : x = y
      next =>
        -- What is kept first costs a common subsequence no more than its own first element.
        have later := deleted inOld.tail inNew.tail
        rw [if_pos same]
        simp only [List.length_tail, List.tail_cons] at later
        omega
      next =>
        rw [if_neg same]
        cases inOld with
        | cons _ inOld =>
          exact (deleted inOld inNew).trans (Nat.le_max_left _ _)
        | cons_cons _ inOld =>
          have later := (List.cons_sublist_cons'.1 inNew).resolve_right fun both => same both.1
          exact (inserted (inOld.cons_cons x) later).trans (Nat.le_max_right _ _)

theorem isGreatest_lcsLength (old new : List α) :
    IsGreatest {length | ∃ common : List α,
      common.Sublist old ∧ common.Sublist new ∧ common.length = length} (lcsLength old new) := by
  refine ⟨exists_common old new, ?_⟩
  rintro _ ⟨common, inOld, inNew, rfl⟩
  exact length_le_lcsLength inOld inNew

end Length

def row (old new : List α) : List Nat := new.tails.map (lcsLength old)

def table (old new : List α) : List (List Nat) := old.tails.map fun ending => row ending new

section Table

@[simp] theorem row_nil (old : List α) : row old [] = [0] := by
  simp [row]

@[simp] theorem row_cons (old new : List α) (y : α) :
    row old (y :: new) = lcsLength old (y :: new) :: row old new := by
  simp [row]

@[simp] theorem table_nil (new : List α) : table [] new = [row [] new] := by
  simp [table]

theorem table_cons (x : α) (old new : List α) :
    table (x :: old) new = row (x :: old) new :: table old new := by
  simp [table]

theorem head?_row (old new : List α) : (row old new).head? = some (lcsLength old new) := by
  cases new <;> simp

theorem head?_table (old new : List α) : (table old new).head? = some (row old new) := by
  cases old <;> simp [table_cons]

theorem row_nil_left (new : List α) : row [] new = List.replicate (new.length + 1) 0 := by
  induction new with
  | nil => simp
  | cons y new ih => simp [ih, List.replicate_succ]

theorem map_tail_table (y : α) (old new : List α) :
    (table old (y :: new)).map List.tail = table old new := by
  simp [table, List.map_map, Function.comp_def]

theorem lcsRow_eq (x : α) (old new : List α) :
    lcsRow x new (row old new) = row (x :: old) new := by
  induction new with
  | nil => simp [lcsRow]
  | cons y new ih =>
    have diagonal := head?_row old new
    have right := head?_row (x :: old) new
    simp [lcsRow, ih, List.headD_eq_head?_getD, diagonal, right, lcsLength_cons_cons]

theorem lcsRows_eq (old new : List α) : lcsRows old new = table old new := by
  induction old with
  | nil => simp [lcsRows, row_nil_left]
  | cons x old ih =>
    simp [lcsRows, ih, List.headD_eq_head?_getD, head?_table, lcsRow_eq, table_cons]

theorem corner_table (old new : List α) : corner (table old new) = lcsLength old new := by
  simp [corner, List.headD_eq_head?_getD, head?_table, head?_row]

end Table

section Walk

theorem edits_nil_left (rows : List (List Nat)) (new : List α) :
    edits rows [] new = new.map .insert := by
  rw [edits]

theorem edits_nil_right (rows : List (List Nat)) (old : List α) :
    edits rows old [] = old.map .delete := by
  cases old with
  | nil => rw [edits, List.map_nil, List.map_nil]
  | cons x old => rw [edits]

theorem edits_table_cons_cons (x y : α) (old new : List α) :
    edits (table (x :: old) (y :: new)) (x :: old) (y :: new) =
      if x = y then .keep x :: edits (table old new) old new
      else if lcsLength (x :: old) new ≤ lcsLength old (y :: new) then
        .delete x :: edits (table old (y :: new)) old (y :: new)
      else .insert y :: edits (table (x :: old) new) (x :: old) new := by
  have down : (table (x :: old) (y :: new)).tail = table old (y :: new) := by
    rw [table_cons, List.tail_cons]
  rw [edits, down, map_tail_table, map_tail_table, corner_table, corner_table]

def Edit.kept : Edit α → List α
  | keep line => [line]
  | delete _ => []
  | insert _ => []

theorem length_kept_edits (old new : List α) :
    ((edits (table old new) old new).flatMap Edit.kept).length = lcsLength old new := by
  induction old generalizing new with
  | nil => simp [edits_nil_left, List.flatMap_map, Edit.kept]
  | cons x old deleted =>
    induction new with
    | nil => simp [edits_nil_right, List.flatMap_map, Edit.kept]
    | cons y new inserted =>
      rw [edits_table_cons_cons, lcsLength_cons_cons]
      split_ifs with same less
      next => rw [List.flatMap_cons, List.length_append, deleted, Nat.add_comm]; rfl
      next => rw [List.flatMap_cons, Nat.max_eq_left less]; exact deleted (y :: new)
      next =>
        rw [List.flatMap_cons, Nat.max_eq_right (Nat.le_of_not_le less)]
        exact inserted

end Walk

section Checked

def lcsRow? (x : α) : List α → List Nat → Option (List Nat)
  | [], _ => some [0]
  | y :: ys, below => do
      let right ← lcsRow? x ys below.tail
      if x = y then
        let diagonal ← below.tail.head?
        some ((diagonal + 1) :: right)
      else
        let down ← below.head?
        let across ← right.head?
        some (max down across :: right)

def lcsRows? : List α → List α → Option (List (List Nat))
  | [], new => some [List.replicate (new.length + 1) 0]
  | x :: old, new => do
      let rows ← lcsRows? old new
      let below ← rows.head?
      let first ← lcsRow? x new below
      some (first :: rows)

def cell? (rows : List (List Nat)) (i j : Nat) : Option Nat := do
  let entries ← rows[i]?
  entries[j]?

def walk? (rows : List (List Nat)) (old new : List α) (i j : Nat) : Option (List (Edit α)) :=
  if i < old.length then do
    let x ← old[i]?
    if j < new.length then
      let y ← new[j]?
      if x = y then
        let changes ← walk? rows old new (i + 1) (j + 1)
        some (.keep x :: changes)
      else
        let down ← cell? rows (i + 1) j
        let across ← cell? rows i (j + 1)
        if across ≤ down then
          let changes ← walk? rows old new (i + 1) j
          some (.delete x :: changes)
        else
          let changes ← walk? rows old new i (j + 1)
          some (.insert y :: changes)
    else
      let changes ← walk? rows old new (i + 1) j
      some (.delete x :: changes)
  else if j < new.length then do
    let y ← new[j]?
    let changes ← walk? rows old new i (j + 1)
    some (.insert y :: changes)
  else some []
  termination_by (old.length - i) + (new.length - j)

def script? (old new : List α) : Option (List (Run α)) := do
  let rows ← lcsRows? old new
  let changes ← walk? rows old new 0 0
  some (changes.foldr consEdit [])

theorem lcsRow?_eq (x : α) (old new : List α) :
    lcsRow? x new (row old new) = some (row (x :: old) new) := by
  induction new with
  | nil => simp [lcsRow?]
  | cons y new ih =>
    simp only [lcsRow?, row_cons, List.tail_cons, ih, head?_row, Option.bind_eq_bind,
      Option.bind_some, List.head?_cons, lcsLength_cons_cons]
    split <;> rfl

theorem lcsRows?_eq (old new : List α) : lcsRows? old new = some (table old new) := by
  induction old with
  | nil => simp [lcsRows?, row_nil_left]
  | cons x old ih => simp [lcsRows?, ih, head?_table, lcsRow?_eq, table_cons]

theorem getElem?_row (old : List α) {new : List α} {j : Nat} (within : j ≤ new.length) :
    (row old new)[j]? = some (lcsLength old (new.drop j)) := by
  induction new generalizing j with
  | nil => simp_all
  | cons y new ih =>
    cases j with
    | zero => simp
    | succ j => simpa using ih (Nat.le_of_succ_le_succ within)

theorem getElem?_table {old : List α} (new : List α) {i : Nat} (within : i ≤ old.length) :
    (table old new)[i]? = some (row (old.drop i) new) := by
  induction old generalizing i with
  | nil => simp_all
  | cons x old ih =>
    cases i with
    | zero => simp [table_cons]
    | succ i => simpa [table_cons] using ih (Nat.le_of_succ_le_succ within)

theorem cell?_table {old new : List α} {i j : Nat} (inOld : i ≤ old.length)
    (inNew : j ≤ new.length) :
    cell? (table old new) i j = some (lcsLength (old.drop i) (new.drop j)) := by
  simp [cell?, getElem?_table new inOld, getElem?_row _ inNew]

theorem walk?_eq {old new : List α} {i j : Nat} (inOld : i ≤ old.length)
    (inNew : j ≤ new.length) :
    walk? (table old new) old new i j =
      some (edits (table (old.drop i) (new.drop j)) (old.drop i) (new.drop j)) := by
  induction left : (old.length - i) + (new.length - j) using Nat.strongRecOn generalizing i j with
  | ind left ih =>
    have oldDone (out : ¬ i < old.length) : old.drop i = [] :=
      List.drop_eq_nil_of_le (Nat.le_of_not_lt out)
    have newDone (out : ¬ j < new.length) : new.drop j = [] :=
      List.drop_eq_nil_of_le (Nat.le_of_not_lt out)
    rw [walk?]
    split_ifs with oldLeft newLeft newLeft
    next =>
      have kept := ih _ (by omega) (Nat.succ_le_of_lt oldLeft) (Nat.succ_le_of_lt newLeft) rfl
      have deleted := ih _ (by omega) (Nat.succ_le_of_lt oldLeft) inNew rfl
      have inserted := ih _ (by omega) inOld (Nat.succ_le_of_lt newLeft) rfl
      have down := cell?_table (Nat.succ_le_of_lt oldLeft) inNew
      have across := cell?_table inOld (Nat.succ_le_of_lt newLeft)
      rw [List.drop_eq_getElem_cons newLeft] at down deleted
      rw [List.drop_eq_getElem_cons oldLeft] at across inserted
      rw [List.drop_eq_getElem_cons oldLeft, List.drop_eq_getElem_cons newLeft,
        edits_table_cons_cons]
      simp only [oldLeft, newLeft, List.getElem?_eq_getElem, Option.bind_eq_bind,
        Option.bind_some, kept, deleted, inserted, down, across]
      split_ifs <;> rfl
    next =>
      have deleted := ih _ (by omega) (Nat.succ_le_of_lt oldLeft) inNew rfl
      rw [newDone newLeft, edits_nil_right] at deleted ⊢
      rw [List.drop_eq_getElem_cons oldLeft, List.getElem?_eq_getElem oldLeft, deleted]
      rfl
    next =>
      have inserted := ih _ (by omega) inOld (Nat.succ_le_of_lt newLeft) rfl
      rw [oldDone oldLeft, edits_nil_left] at inserted ⊢
      rw [List.drop_eq_getElem_cons newLeft, List.getElem?_eq_getElem newLeft, inserted]
      rfl
    next =>
      rw [oldDone oldLeft, newDone newLeft, edits_nil_left]
      rfl

theorem script?_eq (old new : List α) : script? old new = some (script old new) := by
  simp [script?, script, lcsRows?_eq, lcsRows_eq, walk?_eq]

end Checked

end GoldenSuite.Diff
