import GoldenSuite.Selection
import Mathlib.Data.List.FinRange
import Mathlib.Data.List.Nodup
import Mathlib.Data.List.TakeWhile

set_option autoImplicit false

namespace GoldenSuite.Selection

section Needles

/-- What is left of a filter without its extension. A dot in front of everything starts none. -/
inductive Stem : List Char → List Char → Prop
  | cut {stem ending : List Char} (solid : stem ≠ []) (last : '.' ∉ ending) :
      Stem (stem ++ '.' :: ending) stem
  | whole {name : List Char} (plain : '.' ∉ name.tail) : Stem name name

theorem takeWhile_reverse_of_notMem {name : List Char} (plain : '.' ∉ name)
    (rest : List Char) :
    (name.reverse ++ rest).takeWhile (· != '.') = name.reverse ++ rest.takeWhile (· != '.') := by
  apply List.takeWhile_append_of_pos
  intro c among
  have other : c ≠ '.' := fun same => plain (same ▸ List.mem_reverse.1 among)
  simpa using other

theorem splitExtension_of_notMem {name : List Char} (plain : '.' ∉ name) :
    Path.splitExtension name = (name, none) := by
  have ending := takeWhile_reverse_of_notMem plain []
  simp only [List.append_nil, List.takeWhile_nil] at ending
  simp [Path.splitExtension, ending]

theorem splitExtension_append_dot (stem : List Char) {ending : List Char} (last : '.' ∉ ending) :
    Path.splitExtension (stem ++ '.' :: ending) =
      if stem.isEmpty then (stem ++ '.' :: ending, none) else (stem, some ending) := by
  have found := takeWhile_reverse_of_notMem last ('.' :: stem.reverse)
  have turned : (stem ++ '.' :: ending).reverse = ending.reverse ++ '.' :: stem.reverse := by simp
  simp [Path.splitExtension, turned, found]

theorem stem_splitExtension (name : List Char) : Stem name (Path.splitExtension name).1 := by
  by_cases dotted : '.' ∈ name
  next =>
    obtain ⟨behind, before, turned, last⟩ :=
      List.eq_append_cons_of_mem (List.mem_reverse.2 dotted)
    obtain rfl : name = before.reverse ++ '.' :: behind.reverse := by
      rw [← List.reverse_reverse name, turned]
      simp
    have last' : '.' ∉ behind.reverse := by simpa using last
    rw [splitExtension_append_dot _ last']
    rcases stem : before.reverse with _ | ⟨c, more⟩
    next => exact .whole (by simpa using last')
    next => exact .cut (List.cons_ne_nil c more) last'
  next =>
    rw [splitExtension_of_notMem dotted]
    exact .whole fun among => dotted (List.mem_of_mem_tail among)

theorem splitExtension_of_notMem_tail {name : List Char} (plain : '.' ∉ name.tail) :
    Path.splitExtension name = (name, none) := by
  rcases name with _ | ⟨c, rest⟩
  next => rfl
  next =>
    by_cases dot : c = '.'
    next =>
      subst dot
      have front := splitExtension_append_dot [] plain
      simpa using front
    next =>
      have bare : '.' ∉ c :: rest := by simpa [Ne.symm dot] using plain
      exact splitExtension_of_notMem bare

theorem Stem.eq_splitExtension {name stem : List Char} (found : Stem name stem) :
    stem = (Path.splitExtension name).1 := by
  cases found with
  | cut solid last => simp [splitExtension_append_dot _ last, solid]
  | whole plain => rw [splitExtension_of_notMem_tail plain]

theorem picks_iff (filter : String) (path : Path) :
    picks filter path = true ↔ ∃ stem, Stem filter.toList stem ∧ stem <:+: path.chars := by
  rw [picks, Text.occurs_iff]
  constructor
  next => exact fun inside => ⟨_, stem_splitExtension _, inside⟩
  next =>
    rintro ⟨stem, found, inside⟩
    rwa [found.eq_splitExtension] at inside

end Needles

section Parts

variable (filters : List String) (pool : List Path)

def claimant? (path : Path) : Option Nat := filters.findIdx? fun filter => picks filter path

theorem claimant?_cons (filter : String) (path : Path) :
    claimant? (filter :: filters) path =
      if picks filter path then some 0 else (claimant? filters path).map (· + 1) :=
  List.findIdx?_cons

theorem exists_claimant?_iff (path : Path) :
    (∃ place, claimant? filters path = some place) ↔
      ∃ filter ∈ filters, picks filter path = true := by
  rw [← Option.isSome_iff_exists, claimant?, List.findIdx?_isSome, List.any_eq_true]

theorem claimant?_lt {path : Path} {place : Nat} (claimed : claimant? filters path = some place) :
    place < filters.length := by
  obtain ⟨within, -⟩ := List.findIdx?_eq_some_iff_getElem.1 claimed
  exact within

def part (place : Nat) : List Path := pool.filter fun path => claimant? filters path = some place

theorem claim_eq_flatMap :
    claim filters pool = (List.range filters.length).flatMap (part filters pool) := by
  induction filters generalizing pool with
  | nil => rfl
  | cons filter filters ih =>
    have first : part (filter :: filters) pool 0 = pool.filter (picks filter) := by
      apply List.filter_congr
      intro path _
      cases picked : picks filter path <;> simp [claimant?_cons, picked]
    -- A later filter only gets what the first one left over.
    have later (place : Nat) : part (filter :: filters) pool (place + 1) =
        part filters (pool.filter fun path => !picks filter path) place := by
      rw [part, part, List.filter_filter]
      apply List.filter_congr
      intro path _
      cases picked : picks filter path <;> simp [claimant?_cons, picked]
    rw [claim, ih, List.length_cons, List.range_succ_eq_map, List.flatMap_cons, List.flatMap_map,
      first]
    congr 1
    exact List.flatMap_congr fun place _ => (later place).symm

theorem mem_claim_iff (path : Path) :
    path ∈ claim filters pool ↔ path ∈ pool ∧ ∃ filter ∈ filters, picks filter path = true := by
  rw [claim_eq_flatMap, ← exists_claimant?_iff]
  simp only [part, List.mem_flatMap, List.mem_range, List.mem_filter, decide_eq_true_eq]
  constructor
  next =>
    rintro ⟨place, -, among, claimed⟩
    exact ⟨among, place, claimed⟩
  next =>
    rintro ⟨among, place, claimed⟩
    exact ⟨place, claimant?_lt filters claimed, among, claimed⟩

/-- The places of a list in the order in which filters take them. -/
def claimOrder (all : List Path) : List (Fin all.length) :=
  (List.range filters.length).flatMap fun place =>
    (List.finRange all.length).filter fun i => claimant? filters all[i] = some place

theorem claim_eq_map_claimOrder (all : List Path) :
    claim filters all = (claimOrder filters all).map fun i => all[i] := by
  rw [claim_eq_flatMap, claimOrder, List.map_flatMap]
  apply List.flatMap_congr
  intro place _
  have whole := List.map_getElem_finRange all
  conv_lhs => rw [part, ← whole, List.filter_map]
  rfl

theorem nodup_claimOrder (all : List Path) : (claimOrder filters all).Nodup := by
  rw [claimOrder, List.nodup_flatMap]
  constructor
  next => exact fun place _ => (List.nodup_finRange _).filter _
  next =>
    -- No path has two first filters.
    refine List.Pairwise.imp ?_ List.nodup_range
    intro place other apart i first second
    simp only [List.mem_filter, decide_eq_true_eq] at first second
    exact apart (Option.some.inj (first.2.symm.trans second.2))

theorem mem_claimOrder_iff (all : List Path) (i : Fin all.length) :
    i ∈ claimOrder filters all ↔ ∃ filter ∈ filters, picks filter all[i] = true := by
  rw [← exists_claimant?_iff]
  simp only [claimOrder, List.mem_flatMap, List.mem_range, List.mem_filter, List.mem_finRange,
    true_and, decide_eq_true_eq]
  constructor
  next =>
    rintro ⟨place, -, claimed⟩
    exact ⟨place, claimed⟩
  next =>
    rintro ⟨place, claimed⟩
    exact ⟨place, claimant?_lt filters claimed, claimed⟩

theorem claim_claim : claim filters (claim filters pool) = claim filters pool := by
  induction filters generalizing pool with
  | nil => rfl
  | cons filter filters ih =>
    have taken : ∀ path ∈ pool.filter (picks filter), picks filter path = true :=
      fun path among => (List.mem_filter.1 among).2
    have passed : ∀ path ∈ claim filters (pool.filter fun path => !picks filter path),
        (!picks filter path) = true := by
      intro path among
      have left := ((mem_claim_iff _ _ path).1 among).1
      exact (List.mem_filter.1 left).2
    have again : (claim (filter :: filters) pool).filter (picks filter) =
        pool.filter (picks filter) := by
      have nothing : (claim filters (pool.filter fun path => !picks filter path)).filter
          (picks filter) = [] :=
        List.filter_eq_nil_iff.2 fun path among => by simpa using passed path among
      rw [claim, List.filter_append, List.filter_eq_self.2 taken, nothing, List.append_nil]
    have rest : (claim (filter :: filters) pool).filter (fun path => !picks filter path) =
        claim filters (pool.filter fun path => !picks filter path) := by
      have nothing : (pool.filter (picks filter)).filter (fun path => !picks filter path) = [] :=
        List.filter_eq_nil_iff.2 fun path among => by simp [taken path among]
      rw [claim, List.filter_append, nothing, List.filter_eq_self.2 passed, List.nil_append]
    rw [claim, again, rest, ih, claim]

end Parts

/-- A selection is the list of all paths parted by the filters: each path stands in the part of the
first filter whose stem occurs in it, and nowhere else. Selecting from it again changes nothing. -/
theorem select_partitions (all : List Path) {filters : List String} (given : filters ≠ []) :
    (∀ filter path, picks filter path = true ↔
        ∃ stem, Stem filter.toList stem ∧ stem <:+: path.chars) ∧
      select all filters = (List.range filters.length).flatMap (part filters all) ∧
      (∃ order : List (Fin all.length), order.Nodup ∧
        (∀ i, i ∈ order ↔ ∃ filter ∈ filters, picks filter all[i] = true) ∧
        select all filters = order.map fun i => all[i]) ∧
      select (select all filters) filters = select all filters := by
  have chosen (pool : List Path) : select pool filters = claim filters pool := by
    simp [select, given]
  simp only [chosen]
  exact ⟨picks_iff, claim_eq_flatMap filters all,
    ⟨claimOrder filters all, nodup_claimOrder filters all, mem_claimOrder_iff filters all,
      claim_eq_map_claimOrder filters all⟩, claim_claim filters all⟩

section Samples

-- The second filter would pick the first fixture of the other directory as well, were it not taken.
def sampleAll : List Path := [⟨"a/x.test"⟩, ⟨"b/x.test"⟩, ⟨"b/y.test"⟩]

def sampleFilters : List String := ["b/", "x.syp", ""]

theorem select_partitions_overlapping :
    sampleFilters ≠ [] ∧
      select sampleAll sampleFilters = [⟨"b/x.test"⟩, ⟨"b/y.test"⟩, ⟨"a/x.test"⟩] ∧
      select (select sampleAll sampleFilters) sampleFilters = select sampleAll sampleFilters := by
  have given : sampleFilters ≠ [] := List.cons_ne_nil _ _
  obtain ⟨-, parted, -, again⟩ := select_partitions sampleAll given
  exact ⟨given, parted.trans (by decide), again⟩

end Samples

end GoldenSuite.Selection
