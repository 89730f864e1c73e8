import GoldenSuite.Proofs.Suite.Frame
import GoldenSuite.Proofs.Trial.Parallel

set_option autoImplicit false

namespace GoldenSuite

def TestCase.places (test : TestCase) : List (List Path.Component) :=
  test.files.map Path.components

def Suite.Disjoint (config : Config) (root : Path) (fixtures : List Path) : Prop :=
  fixtures.Pairwise fun fixture other =>
    (caseOf config root fixture).places.Disjoint (caseOf config root other).places

namespace Suite

open Separate Trial

variable {φ : Type} [FileSystem φ] [Separate φ] {setup : Setup φ} {options : RunOptions}
  {root : Path} {fixtures : List Path}

-- The files of all tests of a suite.
def files (config : Config) (root : Path) (fixtures : List Path) : List Path :=
  fixtures.flatMap fun fixture => (caseOf config root fixture).files

theorem disjoint_files {config : Config} {fixture : Path} (disjoint : ∀ other ∈ fixtures,
      (caseOf config root fixture).places.Disjoint (caseOf config root other).places) :
    (caseOf config root fixture).places.Disjoint
      ((files config root fixtures).map Path.components) := by
  intro place own among
  obtain ⟨path, inside, rfl⟩ := List.mem_map.1 among
  obtain ⟨other, member, inside⟩ := List.mem_flatMap.1 inside
  exact disjoint other member own (List.mem_map_of_mem inside)

theorem results_independent (disjoint : Disjoint setup.config root fixtures)
    (localTo : ∀ fixture ∈ fixtures, LocalTo setup.tools (caseOf setup.config root fixture))
    (world : World φ) (width : Nat) {now : World φ}
    (same : ∀ fixture ∈ fixtures,
      SameAt (caseOf setup.config root fixture).files world.files now.files) :
    let alone fixture := Action.execute setup options (caseOf setup.config root fixture) world
    let run := results setup.config root width (Action.execute setup options) fixtures now
    run.1 = fixtures.map (fun fixture => ⟨fixture, (alone fixture).1⟩) ∧
      (∀ fixture ∈ fixtures,
        SameAt (caseOf setup.config root fixture).files (alone fixture).2.files run.2.files) ∧
      SameOff (files setup.config root fixtures) now.files run.2.files := by
  induction fixtures generalizing now with
  | nil => exact ⟨rfl, by simp, .refl _ _⟩
  | cons fixture rest ih =>
    obtain ⟨apart, disjoint⟩ := List.pairwise_cons.1 disjoint
    obtain ⟨localHere, localTo⟩ := List.forall_mem_cons.1 localTo
    obtain ⟨sameHere, same⟩ := List.forall_mem_cons.1 same
    obtain ⟨outcome, agree, kept⟩ := execute_local localHere options sameHere.symm
    intro alone run
    simp only [run, results_cons]
    generalize ran : Action.execute setup options (caseOf setup.config root fixture) now = tried
      at outcome agree kept ⊢
    let result : TestResult := ⟨fixture, tried.1⟩
    let noted := (Action.note .normal (result.statusLine width) tried.2).2
    have others : ∀ other ∈ rest,
        SameAt (caseOf setup.config root other).files world.files noted.files :=
      fun other among => (same other among).trans (kept.sameAt (List.disjoint_symm (apart other among)))
    obtain ⟨outcomes, agrees, keptLater⟩ := ih disjoint localTo others
    refine ⟨?_, ?_, ?_⟩
    next => rw [List.map_cons, outcomes, outcome]
    next =>
      have final := agree.symm.trans (keptLater.sameAt (disjoint_files apart))
      exact List.forall_mem_cons.2 ⟨final, agrees⟩
    next =>
      have here : SameOff (files setup.config root (fixture :: rest)) now.files tried.2.files :=
        kept.mono (by simp [files])
      exact here.trans (keptLater.mono (by simp [files]))

theorem Disjoint.perm {config : Config} {order : List Path} (perm : order.Perm fixtures)
    (disjoint : Disjoint config root fixtures) : Disjoint config root order :=
  (perm.pairwise_iff fun apart => List.disjoint_symm apart).2 disjoint

-- In whatever order the tests are tried, they leave what each of them leaves on its own.
theorem run_leaves (disjoint : Disjoint setup.config root fixtures)
    (localTo : ∀ fixture ∈ fixtures, LocalTo setup.tools (caseOf setup.config root fixture))
    (world : World φ) {order : List Path} (perm : order.Perm fixtures) :
    let alone fixture := Action.execute setup options (caseOf setup.config root fixture) world
    let tried := run setup options root order world
    tried.1.results = order.map (fun fixture => ⟨fixture, (alone fixture).1⟩) ∧
      (∀ fixture ∈ fixtures,
        SameAt (caseOf setup.config root fixture).files (alone fixture).2.files tried.2.files) ∧
      SameOff (files setup.config root fixtures) world.files tried.2.files := by
  have localToOrder (fixture : Path) (among : fixture ∈ order) :
      LocalTo setup.tools (caseOf setup.config root fixture) :=
    localTo fixture (perm.subset among)
  obtain ⟨outcomes, agrees, kept⟩ := results_independent (disjoint.perm perm) localToOrder world
    (columnWidth order) fun fixture _ => SameAt.refl _ world.files
  refine ⟨outcomes, fun fixture among => agrees fixture (perm.symm.subset among), ?_⟩
  exact kept.mono (List.map_subset _ (perm.flatMap_right _).subset)

/-- The tests of a suite have the outcomes and leave the files that they have and leave on their
own, in whatever order they are tried; so the order makes no difference to all the files. -/
theorem run_independent (setup : Setup φ) (options : RunOptions) (root : Path)
    (disjoint : Disjoint setup.config root fixtures)
    (localTo : ∀ fixture ∈ fixtures, LocalTo setup.tools (caseOf setup.config root fixture))
    (world : World φ) :
    let alone fixture := Action.execute setup options (caseOf setup.config root fixture) world
    let whole := run setup options root fixtures world
    ∀ order, order.Perm fixtures →
      let tried := run setup options root order world
      tried.1.results = order.map (fun fixture => ⟨fixture, (alone fixture).1⟩) ∧
        (∀ fixture ∈ fixtures,
          SameAt (caseOf setup.config root fixture).files (alone fixture).2.files tried.2.files) ∧
        Same tried.2.files whole.2.files := by
  intro alone whole order perm tried
  obtain ⟨outcomes, agrees, kept⟩ := run_leaves disjoint localTo world perm
  obtain ⟨-, agrees', kept'⟩ := run_leaves disjoint localTo world (.refl fixtures)
  refine ⟨outcomes, agrees, ?_⟩
  have off : SameOff (files setup.config root fixtures) tried.2.files whole.2.files :=
    kept.symm.trans kept'
  refine off.same ⟨off.alike, fun path among => ?_⟩
  obtain ⟨fixture, member, inside⟩ := List.mem_flatMap.1 among
  exact ((agrees fixture member).symm.trans (agrees' fixture member)).bytes?_eq path inside

section Samples

-- A compiler that rejects its source and shows it, and a comparison that finds a difference.
def echoingSetup : Setup Store where
  config := { compiler := "cc", formatter := none, volatileMarkers := [] }
  volatile := ⟨[]⟩
  tools := fun _ invocation files =>
    match invocation.args with
    | [source] =>
        match FileSystem.read files ⟨source⟩ with
        | .ok text => (.ok ⟨.status 1, "", text⟩, files)
        | .error _ => (.ok ⟨.status 2, "", ""⟩, files)
    | _ => (.ok ⟨.status 1, "", ""⟩, files)

theorem echoingSetup_localTo (test : TestCase) : LocalTo echoingSetup.tools test where
  answers {invocation} names left right same _ _ := by
    obtain ⟨path, own, named⟩ := names
    simp only [echoingSetup]
    split
    next source args =>
      obtain rfl : path = ⟨source⟩ := congrArg Path.mk (List.mem_singleton.1 (args ▸ named))
      rw [same.read_eq own]
      split <;> exact ⟨rfl, same⟩
    next => exact ⟨rfl, same⟩
  touches {invocation} _ _ files := by
    simp only [echoingSetup]
    split
    next => split <;> exact .refl _ files
    next => exact .refl _ files

def twoFixtures : List Path := [⟨"a.test"⟩, ⟨"b.test"⟩]

def twoWorld : World Store where
  files := (Store.empty.insert ⟨"a.test"⟩ "\nint f;\n\n========\n\nold\n".toUTF8).insert ⟨"b.test"⟩
    "\nint g;\n\n========\n\nint g;\n".toUTF8
  log := ⟨.normal, []⟩

theorem twoFixtures_disjoint : Disjoint echoingSetup.config ⟨""⟩ twoFixtures := by
  refine List.pairwise_pair.2 fun place here there => ?_
  revert place
  decide +kernel

def updateAlone (fixture : Path) : Outcome :=
  (Action.execute echoingSetup { update := true } (caseOf echoingSetup.config ⟨""⟩ fixture)
    twoWorld).1

theorem updateAlone_updated {fixture : Path} (among : fixture ∈ twoFixtures) :
    updateAlone fixture = .ok (.updated .artifact) := by
  have updated : (updateAlone fixture).toOption = some (.updated .artifact) := by
    revert fixture
    decide +kernel
  cases outcome : updateAlone fixture <;> simp_all [Except.toOption]

-- Two fixtures, brought up to date in either order.
theorem run_independent_two :
    (run echoingSetup { update := true } ⟨""⟩ twoFixtures.reverse twoWorld).1.results =
        twoFixtures.reverse.map (fun fixture => ⟨fixture, .ok (.updated .artifact)⟩) ∧
      Same (run echoingSetup { update := true } ⟨""⟩ twoFixtures.reverse twoWorld).2.files
        (run echoingSetup { update := true } ⟨""⟩ twoFixtures twoWorld).2.files := by
  have independent := run_independent echoingSetup { update := true } ⟨""⟩
    twoFixtures_disjoint (fun fixture _ => echoingSetup_localTo _) twoWorld
    twoFixtures.reverse twoFixtures.reverse_perm
  dsimp only at independent
  obtain ⟨outcomes, -, same⟩ := independent
  refine ⟨outcomes.trans (List.map_congr_left fun fixture among => ?_), same⟩
  exact congrArg (TestResult.mk fixture) (updateAlone_updated (List.mem_reverse.1 among))

end Samples

end Suite

end GoldenSuite
