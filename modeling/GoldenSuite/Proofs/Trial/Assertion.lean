import GoldenSuite.Proofs.Files.Store
import GoldenSuite.Proofs.Trial.Passage
import GoldenSuite.Trial.Case

set_option autoImplicit false

namespace GoldenSuite

namespace Action

section Scenes

variable {φ : Type} [FileSystem φ]

theorem scene_writeLog (test : TestCase) (text : String)
    (world : World φ) :
    (writeLog test text world).2.scene =
      ⟨(FileSystem.write world.files test.errorLog text.toUTF8).2, world.calls⟩ := by
  unfold writeLog onFiles
  simp only [Bind.bind, StateT.bind, World.scene]
  rcases FileSystem.write world.files test.errorLog text.toUTF8 with ⟨error | _, files⟩ <;> rfl

theorem scene_cleanUp (test : TestCase) (world : World φ) :
    (cleanUp test world).2.scene = ⟨(test.clean world.files).2, world.calls⟩ := by
  unfold cleanUp onFiles
  simp only [Bind.bind, StateT.bind, World.scene]
  rcases test.clean world.files with ⟨error | count, files⟩ <;> rfl

-- What is noted first is not part of the scene.
theorem scene_conclude_tool (options : RunOptions) (test : TestCase) (stage : Stage)
    (detail : String) (world : World φ) :
    (conclude options test (.error (.tool stage detail)) world).2.scene =
      ⟨(FileSystem.write world.files test.errorLog detail.toUTF8).2, world.calls⟩ :=
  scene_writeLog test detail
    (note .verbose s!"{test.fixture.text}: {stage.name} tool failed" world).2

theorem calls_conclude (options : RunOptions) (test : TestCase) (outcome : Outcome)
    (world : World φ) : (conclude options test outcome world).2.calls = world.calls := by
  rcases outcome with failure | pass
  next =>
    cases failure with
    | tool stage detail => exact congrArg Scene.calls (scene_conclude_tool options test _ _ world)
    | _ => rfl
  next =>
    unfold conclude
    dsimp only
    split
    next => rfl
    next => exact congrArg Scene.calls (scene_cleanUp test world)

end Scenes

theorem cleanUp_changesOnly (test : TestCase) (world : World Store) :
    Store.ChangesOnly test.generated world.files (cleanUp test world).2.files := by
  have cleaned : (cleanUp test world).2.files = (test.clean world.files).2 :=
    congrArg Scene.files (scene_cleanUp test world)
  rw [cleaned]
  exact .removeAll (List.Subset.refl test.generated) world.files

theorem writeLog_changesOnly (test : TestCase) (text : String) (world : World Store) :
    Store.ChangesOnly test.generated world.files (writeLog test text world).2.files := by
  have logged : (writeLog test text world).2.files =
      (FileSystem.write world.files test.errorLog text.toUTF8).2 :=
    congrArg Scene.files (scene_writeLog test text world)
  rw [logged]
  exact .write (by simp [TestCase.generated]) world.files text.toUTF8

-- Concluding a run removes generated files, or writes the log.
theorem conclude_changesOnly (options : RunOptions) (test : TestCase) (outcome : Outcome)
    (world : World Store) :
    Store.ChangesOnly test.generated world.files
      (conclude options test outcome world).2.files := by
  unfold conclude
  split
  next =>
    split
    next => exact .refl _ _
    next => exact cleanUp_changesOnly test world
  next stage detail =>
    -- What is noted first is not part of the files.
    exact writeLog_changesOnly test detail
      (Action.note .verbose s!"{test.fixture.text}: {stage.name} tool failed" world).2
  next => exact .refl _ _

end Action

namespace Trial

variable {φ α β : Type}

def Ensures (before : Scene φ → Prop) (trial : Trial φ α) (came : α → Scene φ → Prop)
    (failed : Failure → Scene φ → Prop) : Prop :=
  ∀ world, before world.scene →
    match attempt trial world with
    | (.ok answer, left) => came answer left.scene
    | (.error failure, left) => failed failure left.scene

namespace Ensures

variable {before : Scene φ → Prop} {failed : Failure → Scene φ → Prop}

theorem pure {came : α → Scene φ → Prop} {answer : α} (holds : ∀ scene, before scene →
    came answer scene) : Ensures before (Pure.pure answer) came failed :=
  fun world known => holds world.scene known

theorem throw {came : α → Scene φ → Prop} {failure : Failure} (holds : ∀ scene, before scene →
    failed failure scene) : Ensures before (MonadExcept.throw failure) came failed :=
  fun world known => holds world.scene known

theorem bind {first : Trial φ α} {next : α → Trial φ β} {between : α → Scene φ → Prop}
    {came : β → Scene φ → Prop} (firstEnsures : Ensures before first between failed)
    (nextEnsures : ∀ answer, Ensures (between answer) (next answer) came failed) :
    Ensures before (first >>= next) came failed := by
  intro world known
  have reached := firstEnsures world known
  rw [attempt_bind]
  rcases attempted : attempt first world with ⟨failure | answer, left⟩
  next => simpa [attempted] using reached
  next =>
    simp only [attempted] at reached
    exact nextEnsures answer left reached

theorem weaken {trial : Trial φ α} {came came' : α → Scene φ → Prop}
    {failed' : Failure → Scene φ → Prop} (ensures : Ensures before trial came failed)
    (cameImplies : ∀ answer scene, came answer scene → came' answer scene)
    (failedImplies : ∀ failure scene, failed failure scene → failed' failure scene) :
    Ensures before trial came' failed' := by
  intro world known
  have reached := ensures world known
  rcases attempted : attempt trial world with ⟨failure | answer, left⟩
  next =>
    simp only [attempted] at reached
    exact failedImplies failure left.scene reached
  next =>
    simp only [attempted] at reached
    exact cameImplies answer left.scene reached

theorem assuming {trial : Trial φ α} {came : α → Scene φ → Prop} {fact : Prop}
    (ensures : fact → Ensures before trial came failed) :
    Ensures (fun scene => fact ∧ before scene) trial came failed :=
  fun world known => ensures known.1 world known.2

-- The log is not part of a scene.
theorem note (level : Verbosity) (text : String) :
    Ensures before (Trial.note level text) (fun _ => before) failed :=
  fun _ known => known

theorem onFiles {change : φ → Except FileError α × φ} {came : α → Scene φ → Prop}
    (changed : ∀ scene, before scene →
      match change scene.files with
      | (.ok answer, files) => came answer ⟨files, scene.calls⟩
      | (.error error, files) => failed (.io error) ⟨files, scene.calls⟩) :
    Ensures before (Trial.onFiles change) came failed := by
  intro world known
  have reached := changed world.scene known
  rw [attempt_onFiles]
  simp only [World.scene] at reached ⊢
  rcases applied : change world.files with ⟨error | answer, files⟩
  next => simpa [applied] using reached
  next => simpa [applied] using reached

theorem call {tools : Tools φ} {invocation : Invocation}
    {came : Except LaunchError Output → Scene φ → Prop}
    (called : ∀ scene, before scene →
      came (tools scene.calls invocation scene.files).1
        ⟨(tools scene.calls invocation scene.files).2, scene.calls ++ [invocation]⟩) :
    Ensures before (ExceptT.lift (Action.call tools invocation)) came failed := by
  intro world known
  rw [attempt_lift]
  exact called world.scene known

-- A tool that did not start in time, or at all, ends the trial where the call has led.
theorem exec {setup : Setup φ} {stage : Stage} {invocation : Invocation}
    {came : Output → Scene φ → Prop}
    (called : ∀ scene, before scene →
      let after : Scene φ := ⟨(setup.tools scene.calls invocation scene.files).2,
        scene.calls ++ [invocation]⟩
      match (setup.tools scene.calls invocation scene.files).1 with
      | .ok output =>
          if output.timedOut then failed (.timeout stage) after else came output after
      | .error error => failed (.tool stage error.message) after) :
    Ensures before (Trial.exec setup stage invocation) came failed := by
  have answered : Ensures before (ExceptT.lift (Action.call setup.tools invocation))
      (fun answer scene => match answer with
        | .ok output =>
            if output.timedOut then failed (.timeout stage) scene else came output scene
        | .error error => failed (.tool stage error.message) scene) failed :=
    call called
  refine (note _ _).bind fun _ => answered.bind fun answer => ?_
  rcases answer with error | output
  next => exact throw fun scene known => known
  next =>
    by_cases late : output.timedOut = true
    next =>
      simp only [late, if_true]
      intro world known
      exact known
    next =>
      simp only [late]
      exact (note _ _).bind fun _ => pure fun scene known => known

theorem writeLog [FileSystem φ] {test : TestCase} {text : String} {came : Scene φ → Prop}
    (written : ∀ scene, before scene →
      came ⟨(FileSystem.write scene.files test.errorLog text.toUTF8).2, scene.calls⟩) :
    Ensures before (Trial.writeLog test text) (fun _ => came) failed := by
  intro world known
  rw [Trial.writeLog, attempt_lift]
  simp only [Action.scene_writeLog]
  exact written world.scene known

end Ensures

end Trial

end GoldenSuite
