import GoldenSuite.Proofs.Trial.Leftovers
import GoldenSuite.Proofs.Trial.Transcript

set_option autoImplicit false

namespace GoldenSuite

namespace Store

-- Every file is still there, though maybe with other contents.
def Retains (before after : Store) : Prop :=
  ∀ path, (before.find? path).isSome → (after.find? path).isSome

theorem Retains.refl (files : Store) : Retains files files := fun _ held => held

theorem Retains.trans {before between after : Store} (first : Retains before between)
    (second : Retains between after) : Retains before after :=
  fun path held => second path (first path held)

theorem Retains.insert (files : Store) (path : Path) (data : ByteArray) :
    Retains files (files.insert path data) := by
  intro other held
  rw [find?_insert]
  by_cases same : other.components = path.components
  next => simp [same]
  next => simpa [same] using held

inductive Written (paths : List Path) (before : Store) : Store → Prop
  | rest : Written paths before before
  | write {files : Store} (onward : Written paths before files) {path : Path}
      (among : path ∈ paths) (data : ByteArray) :
      Written paths before (FileSystem.write files path data).2

namespace Written

variable {paths : List Path} {before between after : Store}

theorem trans (first : Written paths before between) (second : Written paths between after) :
    Written paths before after := by
  induction second with
  | rest => exact first
  | write onward among data ih => exact .write ih among data

theorem changesOnly (written : Written paths before after) : ChangesOnly paths before after := by
  induction written with
  | rest => exact .refl _ _
  | write onward among data ih => exact ih.trans (.write among _ data)

theorem retains (written : Written paths before after) : Retains before after := by
  induction written with
  | rest => exact .refl _
  | @write files onward path among data ih =>
    refine ih.trans ?_
    cases sealed : files.isSealed with
    | true => rw [write_of_sealed sealed]; exact .refl _
    | false => rw [write_of_open sealed]; exact .insert _ _ _

end Written

end Store

namespace Trial

-- Whatever holds of a call and between the calls holds of a whole record, if it is passed on.
theorem Recorded.total {φ : Type} {tools : Tools φ} {between related : φ → φ → Prop}
    {before after : Scene φ} {exchanges : List (Exchange φ)}
    (recorded : Recorded tools between before exchanges after)
    (trans : ∀ files next last, related files next → related next last → related files last)
    (kept : ∀ files left, between files left → related files left)
    (called : ∀ history invocation files, related files (tools history invocation files).2) :
    related before.files after.files := by
  induction recorded with
  | rest calls files => exact kept _ _ files
  | @call before after exchange exchanges files answers onward ih =>
    have left : related exchange.seen exchange.left := by
      have reached := called before.calls exchange.invocation exchange.seen
      rwa [answers] at reached
    exact trans _ _ _ (trans _ _ _ (kept _ _ files) left) ih

theorem Recorded.extend {φ : Type} {tools : Tools φ} {between : φ → φ → Prop}
    {before after last : Scene φ} {exchanges : List (Exchange φ)}
    (recorded : Recorded tools between before exchanges after)
    (trans : ∀ files next left, between files next → between next left → between files left)
    (calls : last.calls = after.calls) (files : between after.files last.files) :
    Recorded tools between before exchanges last := by
  induction recorded with
  | rest same kept => exact .rest (calls.trans same) (trans _ _ _ kept files)
  | call kept answers onward ih => exact .call kept answers (ih calls files)

variable {setup : Setup Store} {options : RunOptions} {test : TestCase}

theorem ownWrites_written (test : TestCase) : OwnWrites (Store.Written test.generated) test where
  refl _ := .rest
  trans first second := first.trans second
  written own files data := .write .rest own data
  refused failed := by
    rw [Store.eq_of_refused failed]
    exact .rest

-- After a failure at most the log is written.
theorem conclude_written (options : RunOptions) (test : TestCase) (failure : Failure)
    (world : World Store) :
    let left := (Action.conclude options test (.error failure) world).2
    left.calls = world.calls ∧ Store.Written test.generated world.files left.files := by
  intro left
  refine ⟨Action.calls_conclude options test _ world, ?_⟩
  cases failure with
  | tool stage detail =>
    have files : left.files = (FileSystem.write world.files test.errorLog detail.toUTF8).2 :=
      congrArg Scene.files (Action.scene_conclude_tool options test stage detail world)
    rw [files]
    exact .write .rest (by simp [TestCase.generated]) _
  | _ => exact .rest

variable (setup) in
-- What a test starts with is written, if nothing is refused.
theorem start_materializes {world : World Store} {fixture : Fixture}
    (loaded : Fixture.load world.files test.fixture = .ok fixture)
    (isOpen : world.files.isSealed = false) :
    ∃ site left, attempt (start setup test) world = (.ok (fixture, site), left) ∧
      left.files = (world.files.insert test.source fixture.source.toUTF8).insert test.expected
        fixture.artifact.toUTF8 := by
  have loads : attempt (load test.fixture) world = (.ok fixture, world) := by
    rw [attempt_load, loaded]
  unfold start
  rw [attempt_bind, loads]
  simp only [attempt_bind, attempt_onFiles, TestCase.materialize_of_open test fixture isOpen]
  cases formatter? setup.config (Directives.ofSource fixture.source) with
  | some program => exact ⟨_, _, rfl, rfl⟩
  | none => exact ⟨_, _, rfl, rfl⟩

/-- Tools that write only generated files of a test, and remove nothing. -/
structure Additive (tools : Tools Store) (test : TestCase) : Prop where
  confined : Confined tools test
  retains (history : List Invocation) (invocation : Invocation) (files : Store) :
    Store.Retains files (tools history invocation files).2

section Failing

variable {world left : World Store} {failure : Failure}

theorem failed_recorded
    (failed : Action.execute setup options test world = (.error failure, left)) :
    Recorded setup.tools (Store.Written test.generated) world.scene
      (transcript setup options test world) left.scene := by
  obtain ⟨ended, driven, rfl⟩ := exists_ended_of_execute setup options test failed
  have recorded : (∀ update, _) → Recorded setup.tools _ world.scene
      (transcript setup options test world) _ :=
    drive_recorded (ownWrites_written test) world
  rw [driven] at recorded
  obtain ⟨calls, files⟩ := conclude_written options test failure ended
  exact (recorded (by simp)).extend (fun _ _ _ => Store.Written.trans) calls files

theorem failed_materialized (additive : Additive setup.tools test) {fixture : Fixture}
    (failed : Action.execute setup options test world = (.error failure, left))
    (loaded : Fixture.load world.files test.fixture = .ok fixture)
    (isOpen : world.files.isSealed = false) :
    (left.files.find? test.source).isSome ∧ (left.files.find? test.expected).isSome := by
  obtain ⟨ended, driven, rfl⟩ := exists_ended_of_execute setup options test failed
  obtain ⟨site, begun, started, files⟩ := start_materializes setup loaded isOpen
  rw [attempt_drive, started] at driven
  dsimp only at driven
  have walked : (∀ update, _) → Recorded setup.tools _ begun.scene
      (transcriptFrom setup options test fixture site begun) _ :=
    walk_recorded (ownWrites_written test) site begun
  rw [driven] at walked
  have walkRetains : Store.Retains begun.files ended.files :=
    (walked (by simp)).total (fun _ _ _ => Store.Retains.trans)
      (fun _ _ => Store.Written.retains) additive.retains
  have retained := walkRetains.trans (conclude_written options test failure ended).2.retains
  refine ⟨retained test.source ?_, retained test.expected ?_⟩
  next =>
    rw [files, Store.find?_insert, Store.find?_insert]
    split <;> simp
  next =>
    rw [files]
    simp

end Failing

section Passing

/-- The files as they were, but for the fixture if it was updated. -/
inductive Golden (setup : Setup Store) (options : RunOptions) (test : TestCase)
    (before : Scene Store) : Pass → Store → Prop
  | plain {pass : Pass} (other : ∀ update, pass ≠ .updated update) :
      Golden setup options test before pass before.files
  | updated {fixture : Fixture} {isAccepted : Bool} {listing : Option String}
      {moment : Scene Store} {update : Update} {output : String}
      (comes : ComesToUpdate setup options test fixture isAccepted listing before moment update)
      (read : FileSystem.read moment.files (actual test isAccepted) = .ok output) :
      Golden setup options test before (.updated update)
        (before.files.insert test.fixture (Fixture.render fixture.source output
          (keptSymbols fixture isAccepted listing)).toUTF8)

theorem ComesToUpdate.loads {fixture : Fixture} {isAccepted : Bool} {listing : Option String}
    {before moment : Scene Store} {update : Update}
    (comes : ComesToUpdate setup options test fixture isAccepted listing before moment update) :
    Fixture.load before.files test.fixture = .ok fixture := by
  cases update with
  | artifact => exact comes.2.1
  | symbols =>
    obtain ⟨-, compared, fresh, -, same, -⟩ := comes
    exact same.1

theorem frame_upheld (confined : Confined setup.tools test) (before : Store) :
    Course.Upheld { files := Store.ChangesOnly test.generated before,
                    updated := Store.ChangesOnly test.files before } setup test := by
  refine Course.upheld_of_files ?_ ?_ ?_ ?_ ?_
  next => exact fun history invocation files known => known.trans (confined _ _ _)
  next => exact fun path own files data known => known.trans (.write own files data)
  next =>
    have listed {path : Path} (own : path ∈ test.generated) : path ∈ test.files :=
      TestCase.generated_subset_files own
    exact fun path own files => ⟨fun known => known.trans (.remove own files),
      fun known => known.trans (.remove (listed own) files)⟩
  next =>
    intro files data after known wrote
    obtain ⟨-, rfl⟩ := Store.write_eq_ok_iff.1 wrote
    exact (known.mono TestCase.generated_subset_files).trans
      (.insert (by simp [TestCase.files]) files data)
  next =>
    intro files data error after known failed
    rwa [Store.eq_of_refused failed]

variable {world ended left : World Store} {pass : Pass}

theorem exists_golden (confined : Confined setup.tools test)
    (driven : attempt (drive setup options test) world = (.ok pass, ended)) :
    ∃ golden, Golden setup options test world.scene pass golden ∧
      Store.ChangesOnly test.generated golden ended.files := by
  have framed := (frame_upheld confined world.files).drive options world (.refl _ _)
  rw [driven] at framed
  by_cases updates : ∃ update, pass = .updated update
  next =>
    obtain ⟨update, rfl⟩ := updates
    have meets := (Meets.drive setup options test world _ _).1 ⟨ended, driven, rfl⟩
    obtain ⟨-, fixture, isAccepted, listing, moment, comes, output, read, written⟩ :=
      (driven_updated_iff _ _ _ _ _ _).1 meets
    refine ⟨_, .updated comes read, ?_⟩
    obtain ⟨-, rewritten⟩ := Store.write_eq_ok_iff.1 written.1
    have frame : Store.ChangesOnly test.files world.files ended.files := framed
    refine ⟨frame.isSealed_eq, fun path other => ?_⟩
    by_cases here : path.components = test.fixture.components
    next =>
      have files : ended.files = moment.files.insert test.fixture _ := rewritten
      rw [files, Store.find?_insert, Store.find?_insert, if_pos here, if_pos here]
    next =>
      rw [Store.find?_insert, if_neg here]
      exact frame.find?_eq path (by simp [TestCase.files, here, other])
  next =>
    have other (update : Update) : pass ≠ .updated update := fun same => updates ⟨update, same⟩
    exact ⟨world.files, .plain other, Course.After.files framed (by simpa using other)⟩

theorem passed_remains (confined : Confined setup.tools test) (clean : options.keep = false)
    (passed : Action.execute setup options test world = (.ok pass, left)) :
    ∃ golden, Golden setup options test world.scene pass golden ∧
      left.files.isSealed = golden.isSealed ∧ ∀ path, left.files.find? path =
        if path.components ∈ test.generated.map Path.components then none
        else golden.find? path := by
  obtain ⟨ended, driven, rfl⟩ := exists_ended_of_execute setup options test passed
  obtain ⟨golden, isGolden, change⟩ := exists_golden confined driven
  have cleaned : (Action.conclude options test (.ok pass) ended).2.files =
      (TestCase.removeAll test.generated ended.files).2 := by
    simp only [Action.conclude, clean, Bool.false_eq_true, if_false]
    exact congrArg Scene.files (Action.scene_cleanUp test ended)
  rw [cleaned]
  have removed : Store.ChangesOnly test.generated ended.files
      (TestCase.removeAll test.generated ended.files).2 :=
    .removeAll (List.Subset.refl _) ended.files
  refine ⟨golden, isGolden, removed.isSealed_eq.trans change.isSealed_eq, fun path => ?_⟩
  rw [Store.find?_removeAll]
  split
  next => rfl
  next other => exact change.find?_eq path other

end Passing

variable (setup options) in
/-- A pass that is cleaned up leaves the files as they were, without the generated ones and with the
fixture replaced if it was updated. A failure has removed nothing and changed no other file than
the generated ones; what the test started with is still there, if nothing is refused. -/
theorem execute_remains (additive : Additive setup.tools test) (world : World Store) :
    let run := Action.execute setup options test world
    (∀ pass, run.1 = .ok pass → options.keep = false →
      ∃ golden, Golden setup options test world.scene pass golden ∧
        run.2.files.isSealed = golden.isSealed ∧ ∀ path, run.2.files.find? path =
          if path.components ∈ test.generated.map Path.components then none
          else golden.find? path) ∧
    ∀ failure, run.1 = .error failure →
      Recorded setup.tools (Store.Written test.generated) world.scene
        (transcript setup options test world) run.2.scene ∧
      Store.ChangesOnly test.generated world.files run.2.files ∧
      Store.Retains world.files run.2.files ∧
      ∀ fixture, Fixture.load world.files test.fixture = .ok fixture →
        world.files.isSealed = false →
          (run.2.files.find? test.source).isSome ∧ (run.2.files.find? test.expected).isSome := by
  intro run
  refine ⟨fun pass passed clean => ?_, fun failure failed => ?_⟩
  next => exact passed_remains additive.confined clean (Prod.ext passed rfl)
  next =>
    have executed : Action.execute setup options test world = (.error failure, run.2) :=
      Prod.ext failed rfl
    have recorded := failed_recorded executed
    have change : Store.ChangesOnly test.generated world.files run.2.files :=
      recorded.total (fun _ _ _ => .trans) (fun _ _ written => written.changesOnly)
        additive.confined
    have retained : Store.Retains world.files run.2.files :=
      recorded.total (fun _ _ _ => .trans) (fun _ _ written => written.retains)
        additive.retains
    exact ⟨recorded, change, retained, fun fixture => failed_materialized additive executed⟩

section Samples

theorem insertAll_retains (writes : List (Path × String)) (files : Store) :
    Store.Retains files (insertAll writes files) := by
  induction writes generalizing files with
  | nil => exact .refl files
  | cons write rest ih => exact (Store.Retains.insert files _ _).trans (ih _)

theorem fruitfulSetup_additive : Additive fruitfulSetup.tools sampleTest where
  confined := (writingSetup_reproducible (by simp [TestCase.generated])).confined
  retains history invocation files := by
    simp only [fruitfulSetup, writingSetup]
    split
    next => exact insertAll_retains _ files
    next => exact .refl files

-- The update leaves the fixture alone; the failure leaves what the test started with.
theorem execute_remains_stale :
    let updating := Action.execute fruitfulSetup { update := true } sampleTest staleWorld
    let failing := Action.execute fruitfulSetup {} sampleTest staleWorld
    updating.1 = .ok (.updated .symbols) ∧
      (∀ path ∈ sampleTest.generated, updating.2.files.find? path = none) ∧
      (∃ output symbols, updating.2.files.find? sampleTest.fixture =
        some (Fixture.render staleFixture.source output symbols).toUTF8) ∧
      failing.1.toOption = none ∧
      Store.ChangesOnly sampleTest.generated staleWorld.files failing.2.files ∧
      (failing.2.files.find? sampleTest.source).isSome ∧
      (failing.2.files.find? sampleTest.expected).isSome := by
  intro updating failing
  have updated : updating.1 = .ok (.updated .symbols) := outcome_eq_ok (by decide +kernel)
  have failed : failing.1.toOption = none := by decide +kernel
  obtain ⟨passes, -⟩ :=
    execute_remains fruitfulSetup { update := true } fruitfulSetup_additive staleWorld
  obtain ⟨-, fails⟩ := execute_remains fruitfulSetup {} fruitfulSetup_additive staleWorld
  obtain ⟨golden, isGolden, -, left⟩ := passes _ updated rfl
  obtain ⟨failure, came⟩ : ∃ failure, failing.1 = .error failure := by
    rcases ended : failing.1 with failure | pass
    next => exact ⟨failure, rfl⟩
    next =>
      rw [ended] at failed
      cases failed
  obtain ⟨-, change, -, written⟩ := fails failure came
  refine ⟨updated, fun path own => ?_, ?_, failed, change, written staleFixture load_staleWorld rfl⟩
  next => rw [left, if_pos (List.mem_map_of_mem own)]
  next =>
    rw [left, if_neg sampleTest_apart.fixture_notMem]
    cases isGolden with
    | plain other => exact absurd rfl (other .symbols)
    | @updated fixture isAccepted listing moment update output comes read =>
      obtain rfl := Except.ok.inj (load_staleWorld.symm.trans comes.loads)
      refine ⟨output, keptSymbols staleFixture isAccepted listing, ?_⟩
      rw [Store.find?_insert, if_pos rfl]

end Samples

end Trial

end GoldenSuite
