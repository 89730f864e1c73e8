import GoldenSuite.Proofs.Path.Order
import GoldenSuite.Proofs.Suite.Siblings

set_option autoImplicit false

namespace GoldenSuite.Selection

/-- A path under a root: it starts with the root, or the root is the directory itself, under which
every path is. -/
def LiesUnder (root path : Path) : Prop :=
  root.components <+: path.components ∨ root.components = [.here]

def relative (root path : Path) : Path := (path.below? root).getD path

/-- A path that the directory itself can be put in front of: it stays what it was. -/
def Anchored (path : Path) : Prop :=
  path.isAbsolute = true ∨ path.components.head? = some .here

instance (path : Path) : Decidable (Anchored path) :=
  inferInstanceAs (Decidable (_ ∨ _))

section Relative

variable {root path : Path}

theorem liesUnder_iff :
    LiesUnder root path ↔ (Store.isWholeTree root || path.startsWith root) = true := by
  have current : (Path.mk ".").components = [.here] := by rfl
  simp only [LiesUnder, Store.isWholeTree, Path.startsWith, Path.same, current, Bool.or_eq_true,
    List.isPrefixOf_iff_prefix, beq_iff_eq, String.isEmpty_iff]
  constructor
  next => tauto
  next =>
    rintro ((empty | here) | starts)
    next =>
      -- The empty path has no components, so every path starts with it.
      have nothing : root.components = [] := by
        rw [show root = ⟨""⟩ from congrArg Path.mk empty]
        rfl
      exact .inl (nothing ▸ List.nil_prefix)
    next => exact .inr here
    next => exact .inl starts

theorem components_join_relative (under : LiesUnder root path)
    (anchored : root.components = [.here] → Anchored path) :
    (root.join (relative root path)).components = path.components := by
  rcases found : path.below? root with _ | rest
  next =>
    have apart : ¬ root.components <+: path.components := by
      intro starts
      have holds : path.startsWith root = true := List.isPrefixOf_iff_prefix.2 starts
      simp only [Path.below?, holds, if_true] at found
      split at found <;> cases found
    have current : root.components = [.here] := under.resolve_left apart
    have absolute : path.isAbsolute = true := by
      refine (anchored current).resolve_right fun first => apart ?_
      obtain ⟨more, split⟩ := List.head?_eq_some_iff.1 first
      exact ⟨more, by rw [current, split]; rfl⟩
    rw [relative, found, Option.getD_none, Path.join_of_isAbsolute absolute]
  next => rw [relative, found, Option.getD_some, Path.components_join_below? found]

-- Behind the directory itself comes only what is anchored.
theorem anchored_of_components_join {fixture : Path} (current : root.components = [.here])
    (leads : (root.join fixture).components = path.components) : Anchored path := by
  cases absolute : fixture.isAbsolute with
  | true =>
    rw [Path.join_of_isAbsolute absolute] at leads
    exact .inl (Path.isAbsolute_iff.2 (leads ▸ Path.isAbsolute_iff.1 absolute))
  | false =>
    have solid : root.text ≠ "" := by
      intro empty
      rw [show root = ⟨""⟩ from congrArg Path.mk empty] at current
      cases current
    rw [Path.components_join absolute solid, current] at leads
    exact .inr (leads ▸ rfl)

end Relative

section Found

variable {files : Store} {root : Path} {glob : Glob} {pattern : String}

-- What is stored under the root with a name that matches, in the order of the store.
def stored (files : Store) (root : Path) (glob : Glob) : List Path :=
  (files.entries.map (·.1)).filter fun path =>
    (Store.isWholeTree root || path.startsWith root) && path.nameMatches glob

theorem mem_stored {path : Path} :
    path ∈ stored files root glob ↔
      path ∈ files.paths ∧ LiesUnder root path ∧ path.nameMatches glob = true := by
  rw [stored, List.mem_filter, Bool.and_eq_true, ← liesUnder_iff, Store.paths, Path.mem_sort]

theorem discover_eq (parsed : Glob.parse pattern = .ok glob) (files : Store) (root : Path) :
    discover files root pattern =
      .ok (Path.sort ((Path.sort (stored files root glob)).map (relative root))) := by
  simp only [discover, parsed]
  rfl

theorem holds_of_mem_paths {path other : Path} (among : path ∈ files.paths)
    (same : other.components = path.components) : files.holds other = true := by
  obtain ⟨entry, given, rfl⟩ := List.mem_map.1 (Path.mem_sort.1 among)
  rw [Store.holds, Store.find?, Store.lookup, Option.isSome_map, List.find?_isSome]
  exact ⟨entry, given, by simpa using same.symm⟩

/-- What a list of the fixtures below a root has to tell: it goes up strictly in the order of paths,
it leads from the root to the files under it with a name that matches and to no other place, and
each file that it leads to can be opened there. -/
structure Tells (files : Store) (root : Path) (glob : Glob) (found : List Path) : Prop where
  increasing : found.Pairwise fun left right => left.key < right.key
  exact (place : List Path.Component) :
    (∃ fixture ∈ found, (root.join fixture).components = place) ↔
      ∃ path ∈ files.paths, LiesUnder root path ∧ path.nameMatches glob = true ∧
        path.components = place
  held : ∀ fixture ∈ found, files.holds (root.join fixture) = true

theorem nodup_relative
    (leadBack : ∀ path ∈ stored files root glob,
      (root.join (relative root path)).components = path.components) :
    (((Path.sort (stored files root glob)).map (relative root)).map Path.components).Nodup := by
  have places : ((stored files root glob).map Path.components).Nodup := by
    have all : ((files.entries.map (·.1)).map Path.components).Nodup := by
      rw [List.map_map]
      exact files.distinct
    exact all.sublist (List.filter_sublist.map _)
  have sorted : ((Path.sort (stored files root glob)).map Path.components).Nodup :=
    (((List.mergeSort_perm _ _).map _).nodup_iff).2 places
  rw [List.map_map, List.Nodup, List.pairwise_map] at *
  refine sorted.imp_of_mem fun among amongOther different same => different ?_
  rw [← leadBack _ (Path.mem_sort.1 among), ← leadBack _ (Path.mem_sort.1 amongOther)]
  exact Path.components_join_congr same root

/-- Fixtures are always found, and they tell what is below the root exactly if the root is not the
directory itself or each file that they come from is anchored. -/
theorem discover_tells_iff (parsed : Glob.parse pattern = .ok glob) (files : Store) (root : Path) :
    ∃ found, discover files root pattern = .ok found ∧
      (Tells files root glob found ↔
        (root.components = [.here] →
          ∀ path ∈ files.paths, path.nameMatches glob = true → Anchored path)) := by
  refine ⟨_, discover_eq parsed files root, fun tells current path among named => ?_,
    fun anchored => ?_⟩
  next =>
    obtain ⟨fixture, -, leads⟩ := (tells.exact path.components).2
      ⟨path, among, .inr current, named, rfl⟩
    exact anchored_of_components_join current leads
  next =>
    have leadBack (path : Path) (kept : path ∈ stored files root glob) :
        (root.join (relative root path)).components = path.components := by
      obtain ⟨among, under, named⟩ := mem_stored.1 kept
      exact components_join_relative under fun current => anchored current path among named
    have isFound {fixture : Path} :
        fixture ∈ Path.sort ((Path.sort (stored files root glob)).map (relative root)) ↔
          ∃ path ∈ stored files root glob, relative root path = fixture := by
      simp only [Path.mem_sort, List.mem_map]
    refine ⟨Path.pairwise_lt_sort_iff.2 (nodup_relative leadBack), fun place => ?_,
      fun fixture among => ?_⟩
    next =>
      constructor
      next =>
        rintro ⟨fixture, among, rfl⟩
        obtain ⟨path, kept, rfl⟩ := isFound.1 among
        obtain ⟨given, under, named⟩ := mem_stored.1 kept
        exact ⟨path, given, under, named, (leadBack path kept).symm⟩
      next =>
        rintro ⟨path, given, under, named, rfl⟩
        have kept := mem_stored.2 ⟨given, under, named⟩
        exact ⟨_, isFound.2 ⟨path, kept, rfl⟩, leadBack path kept⟩
    next =>
      obtain ⟨path, kept, rfl⟩ := isFound.1 among
      exact holds_of_mem_paths (mem_stored.1 kept).1 (leadBack path kept)

end Found

section Samples

-- What matches is below the directory by an absolute path and by one with a step to it.
def anchoredFiles : Store :=
  ((Store.empty.insert ⟨"/a.test"⟩ "first".toUTF8).insert ⟨"./t//b.test"⟩ "second".toUTF8).insert
    ⟨"c.txt"⟩ "other".toUTF8

theorem discover_tells_iff_anchored :
    Glob.parse "*.test" = .ok (.ending ".test") ∧
      (∀ path ∈ anchoredFiles.paths, path.nameMatches (.ending ".test") = true → Anchored path) ∧
      discover anchoredFiles ⟨"./"⟩ "*.test" = .ok [⟨"/a.test"⟩, ⟨"t//b.test"⟩] ∧
      Tells anchoredFiles ⟨"./"⟩ (.ending ".test") [⟨"/a.test"⟩, ⟨"t//b.test"⟩] := by
  have kept : stored anchoredFiles ⟨"./"⟩ (.ending ".test") = [⟨"/a.test"⟩, ⟨"./t//b.test"⟩] := by
    decide +kernel
  have below : [⟨"/a.test"⟩, ⟨"./t//b.test"⟩].map (relative ⟨"./"⟩) =
      [⟨"/a.test"⟩, ⟨"t//b.test"⟩] := by
    decide +kernel
  have listed : discover anchoredFiles ⟨"./"⟩ "*.test" = .ok [⟨"/a.test"⟩, ⟨"t//b.test"⟩] :=
    below ▸ discover_of_sorted parse_defaultPattern kept (by decide +kernel) (by decide +kernel)
  have anchored : ∀ path ∈ anchoredFiles.paths, path.nameMatches (.ending ".test") = true →
      Anchored path := by
    simp only [Store.paths, Path.mem_sort]
    decide +kernel
  obtain ⟨found, told, tells⟩ := discover_tells_iff parse_defaultPattern anchoredFiles ⟨"./"⟩
  cases listed.symm.trans told
  exact ⟨parse_defaultPattern, anchored, listed, tells.2 fun _ => anchored⟩

-- A file that is below the directory without a step to it, alone and beside one with a step.
def plainFiles : Store := Store.empty.insert ⟨"a.test"⟩ "plain".toUTF8

def twiceFiles : Store :=
  (Store.empty.insert ⟨"./a.test"⟩ "stepped".toUTF8).insert ⟨"a.test"⟩ "plain".toUTF8

-- A fixture that is found below the directory itself and cannot be opened there; and two files of
-- which the one is found twice and the other not at all.
theorem plainFiles_not_told :
    (discover plainFiles ⟨"."⟩ "*.test" = .ok [⟨"a.test"⟩] ∧
      plainFiles.holds ((Path.mk ".").join ⟨"a.test"⟩) = false ∧
      ¬ Tells plainFiles ⟨"."⟩ (.ending ".test") [⟨"a.test"⟩]) ∧
    (discover twiceFiles ⟨"."⟩ "*.test" = .ok [⟨"a.test"⟩, ⟨"a.test"⟩] ∧
      ¬ Tells twiceFiles ⟨"."⟩ (.ending ".test") [⟨"a.test"⟩, ⟨"a.test"⟩]) := by
  have kept : stored plainFiles ⟨"."⟩ (.ending ".test") = [⟨"a.test"⟩] := by decide +kernel
  have listed : discover plainFiles ⟨"."⟩ "*.test" = .ok [⟨"a.test"⟩] :=
    discover_of_sorted parse_defaultPattern kept (by decide +kernel) (by decide +kernel)
  have shut : plainFiles.holds ((Path.mk ".").join ⟨"a.test"⟩) = false := by decide +kernel
  have both : stored twiceFiles ⟨"."⟩ (.ending ".test") = [⟨"./a.test"⟩, ⟨"a.test"⟩] := by
    decide +kernel
  have below : [⟨"./a.test"⟩, ⟨"a.test"⟩].map (relative ⟨"."⟩) = [⟨"a.test"⟩, ⟨"a.test"⟩] := by
    decide +kernel
  have twice : discover twiceFiles ⟨"."⟩ "*.test" = .ok [⟨"a.test"⟩, ⟨"a.test"⟩] :=
    below ▸ discover_of_sorted parse_defaultPattern both (by decide +kernel) (by decide +kernel)
  refine ⟨⟨listed, shut, fun tells => ?_⟩, twice, fun tells => ?_⟩
  next => simpa [shut] using tells.held ⟨"a.test"⟩ (by simp)
  next => simpa using tells.increasing

end Samples

end GoldenSuite.Selection
