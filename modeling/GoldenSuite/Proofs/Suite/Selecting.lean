import GoldenSuite.Command
import GoldenSuite.Files.Store
import GoldenSuite.Proofs.Path.Below
import GoldenSuite.Proofs.Path.Sibling
import GoldenSuite.Proofs.Selection.Partition
import GoldenSuite.Proofs.Trial.Passage

set_option autoImplicit false

namespace GoldenSuite

namespace Path

theorem nameMatches_congr {path other : Path} (same : path.components = other.components)
    (glob : Glob) : path.nameMatches glob = other.nameMatches glob := by
  simp only [nameMatches, fileName?_eq, same]

theorem nameMatches_join {path : Path} {glob : Glob} (base : Path)
    (named : path.nameMatches glob = true) : (base.join path).nameMatches glob = true := by
  unfold nameMatches at named ⊢
  obtain ⟨name, found, named⟩ := (Option.any_eq_true _ _).1 named
  rw [fileName?_join found]
  exact named

theorem mem_sort {path : Path} {paths : List Path} : path ∈ sort paths ↔ path ∈ paths :=
  List.mem_mergeSort

theorem sort_of_sorted {paths : List Path}
    (sorted : paths.Pairwise fun left right => left.le right) : sort paths = paths :=
  List.mergeSort_of_pairwise sorted

end Path

namespace Selection

theorem claim_subset (filters : List String) (pool : List Path) : claim filters pool ⊆ pool :=
  fun path among => ((mem_claim_iff filters pool path).1 among).1

theorem select_subset (all : List Path) (filters : List String) : select all filters ⊆ all := by
  unfold select
  split
  next => exact List.Subset.refl all
  next => exact claim_subset filters all

theorem exists_glob_of_discover {files : Store} {root : Path} {pattern : String} {all : List Path}
    (found : discover files root pattern = .ok all) :
    ∃ glob, Glob.parse pattern = .ok glob ∧
      all = Path.sort ((files.list root glob).map fun path => (path.below? root).getD path) := by
  unfold discover at found
  rcases parsed : Glob.parse pattern with error | glob
  next => simp [parsed] at found
  next =>
    simp only [parsed] at found
    exact ⟨glob, rfl, (Except.ok.inj found).symm⟩

theorem discover_of_sorted {files : Store} {root : Path} {pattern : String} {glob : Glob}
    {found : List Path} (parsed : Glob.parse pattern = .ok glob)
    (kept : (files.entries.map (·.1)).filter (fun path =>
      (Store.isWholeTree root || path.startsWith root) && path.nameMatches glob) = found)
    (sorted : found.Pairwise fun left right => left.le right)
    (sortedBelow : (found.map fun path => (path.below? root).getD path).Pairwise
      fun left right => left.le right) :
    discover files root pattern = .ok (found.map fun path => (path.below? root).getD path) := by
  have listed : FileSystem.list files root glob = .ok found := by
    change Except.ok (files.list root glob) = _
    rw [Store.list, kept, Path.sort_of_sorted sorted]
  simp only [discover, parsed, listed, Path.sort_of_sorted sortedBelow]

theorem nameMatches_of_discover {files : Store} {root : Path} {pattern : String} {glob : Glob}
    {all : List Path} (parsed : Glob.parse pattern = .ok glob)
    (found : discover files root pattern = .ok all) {fixture : Path} (among : fixture ∈ all) :
    (root.join fixture).nameMatches glob = true := by
  obtain ⟨glob', parsed', rfl⟩ := exists_glob_of_discover found
  obtain rfl := Except.ok.inj (parsed.symm.trans parsed')
  obtain ⟨path, listed, rfl⟩ := List.mem_map.1 (Path.mem_sort.1 among)
  have named : path.nameMatches glob = true := by
    have kept := (List.mem_filter.1 (Path.mem_sort.1 listed)).2
    simp only [Bool.and_eq_true] at kept
    exact kept.2
  rcases below : path.below? root with _ | rest
  next => exact Path.nameMatches_join root named
  next =>
    rw [Option.getD_some, Path.nameMatches_congr (Path.components_join_below? below)]
    exact named

end Selection

namespace Command

variable {φ α β : Type}

def attempt (command : Attempt φ α) (world : World φ) : Except CommandError α × World φ :=
  Id.run (StateT.run (ExceptT.run command) world)

theorem attempt_bind (first : Attempt φ α) (next : α → Attempt φ β) (world : World φ) :
    attempt (first >>= next) world =
      match attempt first world with
      | (.ok answer, left) => attempt (next answer) left
      | (.error error, left) => (.error error, left) := by
  simp only [attempt, ExceptT.run_bind, StateT.run_bind, Id.run_bind]
  obtain ⟨answer | error, left⟩ := (StateT.run (ExceptT.run first) world).run <;> rfl

theorem attempt_lift (action : Action φ α) (world : World φ) :
    attempt (ExceptT.lift action) world = (.ok (action world).1, (action world).2) := rfl

variable [FileSystem φ]

theorem attempt_select (config : Config) (root : Path) (filters : List String) (world : World φ) :
    attempt (select config root filters) world =
      match Selection.discover world.files root config.fixturePattern with
      | .error error => (.error (.files error), world)
      | .ok all =>
          let chosen := Selection.select all filters
          let noted := (Action.note .verbose
            s!"selected {chosen.length} of {all.length} fixtures under {root.text}" world).2
          if chosen.isEmpty then (.error .noTests, noted)
          else if (Selection.collisions chosen).isEmpty then (.ok chosen, noted)
          else (.error (.collision (Selection.collisions chosen)), noted) := by
  unfold select
  have got : attempt get world = (.ok world, world) := rfl
  rw [attempt_bind, got]
  dsimp only
  rcases Selection.discover world.files root config.fixturePattern with error | all
  next => rfl
  next =>
    dsimp only
    rw [note, attempt_bind, attempt_lift]
    dsimp only
    split
    next => rfl
    next =>
      split
      next => rfl
      next => rfl

-- Selecting only reads and notes.
theorem select_spec {config : Config} {root : Path} {filters : List String} {world left : World φ}
    {answer : Except CommandError (List Path)}
    (selected : attempt (select config root filters) world = (answer, left)) :
    left.scene = world.scene ∧ ∀ fixtures, answer = .ok fixtures → ∃ all,
      Selection.discover world.files root config.fixturePattern = .ok all ∧
        fixtures = Selection.select all filters ∧ fixtures ≠ [] ∧
        Selection.collisions fixtures = [] := by
  rw [attempt_select] at selected
  split at selected
  next =>
    cases selected
    exact ⟨rfl, by simp⟩
  next all found =>
    dsimp only at selected
    split at selected
    next =>
      cases selected
      exact ⟨rfl, by simp⟩
    next solid =>
      split at selected
      next clear =>
        cases selected
        refine ⟨rfl, fun fixtures same => ?_⟩
        cases same
        exact ⟨all, found, rfl, by simpa using solid, by simpa using clear⟩
      next =>
        cases selected
        exact ⟨rfl, by simp⟩

theorem select_of_discover {config : Config} {root : Path} {filters : List String}
    {world : World φ} {all : List Path}
    (found : Selection.discover world.files root config.fixturePattern = .ok all)
    (solid : Selection.select all filters ≠ [])
    (clear : Selection.collisions (Selection.select all filters) = []) :
    (attempt (select config root filters) world).1 = .ok (Selection.select all filters) := by
  simp [attempt_select, found, solid, clear]

end Command

end GoldenSuite
