import GoldenSuite.Proofs.Trial.Rewriting
import GoldenSuite.Suite

set_option autoImplicit false

namespace GoldenSuite

namespace Suite

section Invariant

variable {φ : Type} {config : Config} {root : Path} {fixtures : List Path}
  {tryCase : TestCase → Action φ Outcome}

theorem results_cons (config : Config) (root : Path) (width : Nat) (fixture : Path)
    (fixtures : List Path) (world : World φ) :
    results config root width tryCase (fixture :: fixtures) world =
      let tried := tryCase (caseOf config root fixture) world
      let result : TestResult := ⟨fixture, tried.1⟩
      let noted := (Action.note .normal (result.statusLine width) tried.2).2
      let rest := results config root width tryCase fixtures noted
      (result :: rest.1, rest.2) := rfl

theorem results_invariant (holds : List TestResult → φ → Prop) (width : Nat)
    (step : ∀ fixture ∈ fixtures, ∀ done world, holds done world.files →
      holds (done ++ [⟨fixture, (tryCase (caseOf config root fixture) world).1⟩])
        (tryCase (caseOf config root fixture) world).2.files)
    {done : List TestResult} {world : World φ} (known : holds done world.files) :
    holds (done ++ (results config root width tryCase fixtures world).1)
      (results config root width tryCase fixtures world).2.files := by
  induction fixtures generalizing done world with
  | nil => exact (List.append_nil done).symm ▸ known
  | cons fixture rest ih =>
    obtain ⟨first, others⟩ := List.forall_mem_cons.1 step
    have tried := first done world known
    rw [results_cons]
    generalize tryCase (caseOf config root fixture) world = run at tried ⊢
    let result : TestResult := ⟨fixture, run.1⟩
    have noted : holds (done ++ [result])
        (Action.note .normal (result.statusLine width) run.2).2.files := tried
    have whole := ih others noted
    rwa [List.append_assoc] at whole

theorem each_invariant (holds : List TestResult → φ → Prop) (verb : String)
    (step : ∀ fixture ∈ fixtures, ∀ done world, holds done world.files →
      holds (done ++ [⟨fixture, (tryCase (caseOf config root fixture) world).1⟩])
        (tryCase (caseOf config root fixture) world).2.files)
    {world : World φ} (known : holds [] world.files) :
    holds (each config root fixtures verb tryCase world).1.results
      (each config root fixtures verb tryCase world).2.files := by
  exact results_invariant holds (columnWidth fixtures) step known

variable [FileSystem φ]

theorem removeGenerated_keeps (holds : φ → Prop)
    (removed : ∀ fixture ∈ fixtures, ∀ path ∈ (caseOf config root fixture).generated, ∀ files,
      holds files → holds (FileSystem.remove files path).2) {files : φ} (known : holds files) :
    holds (removeGenerated config root fixtures files).2 := by
  induction fixtures generalizing files with
  | nil => exact known
  | cons fixture rest ih =>
    obtain ⟨first, others⟩ := List.forall_mem_cons.1 removed
    have left : holds ((caseOf config root fixture).clean files).2 :=
      TestCase.removeAll_keeps first known
    unfold removeGenerated
    rcases cleaned : (caseOf config root fixture).clean files with ⟨error | count, after⟩
    next => rwa [cleaned] at left
    next =>
      rw [cleaned] at left
      have final := ih others left
      dsimp only
      split
      next more files' same => rwa [same] at final
      next failed same => exact final

theorem fst_clean (config : Config) (root : Path) (fixtures : List Path) (world : World φ) :
    (clean config root fixtures world).1 = (removeGenerated config root fixtures world.files).1 := by
  rcases removed : removeGenerated config root fixtures world.files with ⟨error | count, files⟩
  all_goals
    unfold clean
    simp only [bind, StateT.bind, Action.onFiles, removed]
    rfl

theorem files_clean (config : Config) (root : Path) (fixtures : List Path) (world : World φ) :
    (clean config root fixtures world).2.files =
      (removeGenerated config root fixtures world.files).2 := by
  rcases removed : removeGenerated config root fixtures world.files with ⟨error | count, files⟩
  all_goals
    unfold clean
    simp only [bind, StateT.bind, Action.onFiles, removed]
    rfl

end Invariant

section Elsewhere

open Contents Trial

def Misses (config : Config) (root : Path) (fixtures : List Path) (path : Path) : Prop :=
  ∀ fixture ∈ fixtures,
    path.components ∉ (caseOf config root fixture).generated.map Path.components

-- Tools that never start.
def idleTools (φ : Type) : Tools φ :=
  fun _ invocation files => (.error ⟨invocation.program, "", .launch⟩, files)

-- A dump asks for no tools.
def idleSetup (φ : Type) : Setup φ := ⟨{}, ⟨[]⟩, idleTools φ⟩

variable {φ : Type} [FileSystem φ] [Contents φ] {config : Config} {root : Path}
  {fixtures : List Path} {path : Path}

def SameFile (path : Path) (before after : φ) : Prop := bytes? after path = bytes? before path

theorem bytes?_run {setup : Setup φ} {options : RunOptions} (plain : options.update = false)
    (misses : Misses setup.config root fixtures path) (spared : Spares setup.tools path)
    (world : World φ) :
    bytes? (run setup options root fixtures world).2.files path = bytes? world.files path := by
  refine each_invariant (fun _ => SameFile path world.files) "passed"
    (fun fixture among done world' known => ?_) rfl
  have kept := Action.execute_keeps
    (unchanged_upheld (misses fixture among) spared (bytes? world.files path)) options known
  exact kept.files (execute_ne_updated setup _ plain world')

theorem bytes?_dump (misses : Misses config root fixtures path) (world : World φ) :
    bytes? (dump config root fixtures world).2.files path = bytes? world.files path := by
  refine each_invariant (fun _ => SameFile path world.files) "dumped"
    (fun fixture among done world' known => ?_) rfl
  have idle : Spares (idleSetup φ).tools path := fun _ _ _ => rfl
  have upheld := unchanged_upheld (misses fixture among) idle (bytes? world.files path)
  exact upheld.dump.files known

theorem bytes?_clean (misses : Misses config root fixtures path) (world : World φ) :
    bytes? (clean config root fixtures world).2.files path = bytes? world.files path := by
  rw [files_clean]
  refine removeGenerated_keeps (SameFile path world.files)
    (fun fixture among own generated files => ?_) rfl
  exact (bytes?_remove_generated (misses fixture among) generated files).trans

end Elsewhere

end Suite

end GoldenSuite
