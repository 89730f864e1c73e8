import GoldenSuite.Proofs.Trial.Assertion
import GoldenSuite.Proofs.Trial.Sites

set_option autoImplicit false

namespace GoldenSuite.Trial

variable {φ : Type}

structure Exchange (φ : Type) where
  site : Site
  invocation : Invocation
  seen : φ
  answer : Except LaunchError Output
  left : φ

/-- The exchanges lead from one scene to another: each call was made on the calls before it and
answered by the tools, and the files between the calls are related. -/
inductive Recorded (tools : Tools φ) (between : φ → φ → Prop) :
    Scene φ → List (Exchange φ) → Scene φ → Prop
  | rest {before after : Scene φ} (calls : after.calls = before.calls)
      (files : between before.files after.files) : Recorded tools between before [] after
  | call {before after : Scene φ} {exchange : Exchange φ} {exchanges : List (Exchange φ)}
      (files : between before.files exchange.seen)
      (answers : tools before.calls exchange.invocation exchange.seen =
        (exchange.answer, exchange.left))
      (onward : Recorded tools between ⟨exchange.left, before.calls ++ [exchange.invocation]⟩
        exchanges after) : Recorded tools between before (exchange :: exchanges) after

def Since (between : φ → φ → Prop) (start scene : Scene φ) : Prop :=
  scene.calls = start.calls ∧ between start.files scene.files

def Stays {α : Type} (between : φ → φ → Prop) (start : Scene φ) (trial : Trial φ α) : Prop :=
  Ensures (Since between start) trial (fun _ => Since between start) fun _ => Since between start

namespace Stays

variable {α β : Type} {between : φ → φ → Prop} {start : Scene φ}

theorem pure (answer : α) : Stays between start (Pure.pure answer) :=
  Ensures.pure fun _ known => known

theorem throw (failure : Failure) : Stays between start (MonadExcept.throw failure : Trial φ α) :=
  Ensures.throw fun _ known => known

theorem note (level : Verbosity) (text : String) : Stays between start (Trial.note level text) :=
  Ensures.note level text

theorem bind {first : Trial φ α} {next : α → Trial φ β} (firstStays : Stays between start first)
    (nextStays : ∀ answer, Stays between start (next answer)) :
    Stays between start (first >>= next) :=
  Ensures.bind firstStays nextStays

theorem judge (stage : Stage) (invocation : Invocation) (output : Output) :
    Stays between start (Trial.judge stage invocation output : Trial φ Comparison) := by
  unfold Trial.judge
  split
  next => exact pure _
  next => exact pure _
  next => exact throw _

theorem require (stage : Stage) (invocation : Invocation) (output : Output) :
    Stays between start (Trial.require stage invocation output : Trial φ Unit) := by
  unfold Trial.require
  split
  next => exact pure _
  next => exact throw _

theorem holds [FileSystem φ] (path : Path) : Stays between start (Trial.holds path) :=
  fun _ known => known

theorem read [FileSystem φ] (path : Path) : Stays between start (Trial.read path) := by
  refine Ensures.onFiles fun scene known => ?_
  cases FileSystem.read scene.files path with
  | ok text => exact known
  | error error => exact known

end Stays

def Turn.IsUpdate {limit : Nat} : Turn limit → Prop
  | pass (.updated _) => True
  | _ => False

-- After an update only the calls are known.
def SinceTurn {limit : Nat} (between : φ → φ → Prop) (start : Scene φ) (turn : Turn limit)
    (scene : Scene φ) : Prop :=
  scene.calls = start.calls ∧ (¬ turn.IsUpdate → between start.files scene.files)

/-- However the trial ends, it has called no tool, and kept the relation if it has updated
nothing. -/
def EndsTurn {limit : Nat} (between : φ → φ → Prop) (start : Scene φ)
    (trial : Trial φ (Turn limit)) : Prop :=
  Ensures (Since between start) trial (SinceTurn between start) fun _ => Since between start

namespace EndsTurn

variable {between : φ → φ → Prop} {start : Scene φ} {limit : Nat}

theorem of_stays {trial : Trial φ (Turn limit)} (stays : Stays between start trial) :
    EndsTurn between start trial :=
  Ensures.weaken stays (fun _ _ known => ⟨known.1, fun _ => known.2⟩) fun _ _ known => known

theorem bind {α : Type} {first : Trial φ α} {next : α → Trial φ (Turn limit)}
    (firstStays : Stays between start first)
    (nextEnds : ∀ answer, EndsTurn between start (next answer)) :
    EndsTurn between start (first >>= next) :=
  Ensures.bind firstStays nextEnds

theorem pure (turn : Turn limit) : EndsTurn between start (Pure.pure turn : Trial φ _) :=
  of_stays (Stays.pure turn)

theorem toCompiler (test : TestCase) (fewer : 6 < limit) :
    EndsTurn between start (Trial.toCompiler test fewer : Trial φ (Turn limit)) :=
  of_stays ((Stays.note _ _).bind fun _ => Stays.pure _)

end EndsTurn

variable [FileSystem φ] (setup : Setup φ) (options : RunOptions) (test : TestCase)
  (fixture : Fixture)

def exchange (site : Site) (scene : Scene φ) : Exchange φ :=
  let invocation := site.invocation setup.config test (Directives.ofSource fixture.source)
  let (answer, left) := setup.tools scene.calls invocation scene.files
  ⟨site, invocation, scene.files, answer, left⟩

def transcriptFrom (site : Site) (world : World φ) : List (Exchange φ) :=
  exchange setup test fixture site world.scene ::
    match attempt (step setup options test fixture site) world with
    | (.ok (.call next _), left) => transcriptFrom next left
    | _ => []
termination_by site.later

def transcript (world : World φ) : List (Exchange φ) :=
  match attempt (start setup test) world with
  | (.ok (fixture, site), left) => transcriptFrom setup options test fixture site left
  | (.error _, _) => []

section Induction

variable {setup options test fixture}

theorem walk_induct
    {motive : Site → World φ → List (Exchange φ) → Except Failure Pass → World φ → Prop}
    (failed : ∀ site world failure left,
      attempt (step setup options test fixture site) world = (.error failure, left) →
        motive site world [exchange setup test fixture site world.scene] (.error failure) left)
    (passed : ∀ site world pass left,
      attempt (step setup options test fixture site) world = (.ok (.pass pass), left) →
        motive site world [exchange setup test fixture site world.scene] (.ok pass) left)
    (called : ∀ site world next fewer left exchanges outcome after,
      attempt (step setup options test fixture site) world = (.ok (.call next fewer), left) →
        motive next left exchanges outcome after →
          motive site world (exchange setup test fixture site world.scene :: exchanges) outcome
            after)
    (site : Site) (world : World φ) :
    let run := attempt (walk setup options test fixture site) world
    motive site world (transcriptFrom setup options test fixture site world) run.1 run.2 := by
  rw [transcriptFrom, walk_eq, attempt_bind]
  rcases stepped : attempt (step setup options test fixture site) world with
    ⟨failure | ⟨next, fewer⟩ | pass, left⟩
  next => exact failed site world failure left stepped
  next =>
    exact called site world next fewer left _ _ _ stepped
      (walk_induct failed passed called next left)
  next => exact passed site world pass left stepped
termination_by site.later

end Induction

/-- A relation of files that a test keeps as long as it calls no tool, unless it updates its
fixture. -/
structure OwnWrites (between : φ → φ → Prop) (test : TestCase) : Prop where
  refl (files : φ) : between files files
  trans {files next after : φ} (first : between files next) (second : between next after) :
    between files after
  written {path : Path} (own : path ∈ test.generated) (files : φ) (data : ByteArray) :
    between files (FileSystem.write files path data).2
  refused {files after : φ} {data : ByteArray} {error : FileError}
      (failed : FileSystem.write files test.fixture data = (.error error, after)) :
    between files after

theorem ownWrites_any (test : TestCase) : OwnWrites (fun _ _ : φ => True) test :=
  ⟨by simp, by simp, by simp, by simp⟩

namespace OwnWrites

variable {setup options test fixture} {between : φ → φ → Prop} {start : Scene φ}

theorem write (own : OwnWrites between test) {path : Path} (generated : path ∈ test.generated)
    (text : String) : Stays between start (Trial.write path text) := by
  refine Ensures.onFiles fun scene known => ?_
  have written := own.written generated scene.files text.toUTF8
  rcases attempted : FileSystem.write scene.files path text.toUTF8 with ⟨error | done, files⟩
  next =>
    rw [attempted] at written
    exact ⟨known.1, own.trans known.2 written⟩
  next =>
    rw [attempted] at written
    exact ⟨known.1, own.trans known.2 written⟩

theorem writeLog (own : OwnWrites between test) (text : String) :
    Stays between start (Trial.writeLog test text) :=
  Ensures.writeLog fun scene known =>
    ⟨known.1, own.trans known.2 (own.written (by simp [TestCase.generated]) scene.files _)⟩

theorem patch (own : OwnWrites between test) {path : Path} (generated : path ∈ test.generated) :
    Stays between start (Trial.patch setup path) :=
  Stays.bind (Stays.read path) fun _ => own.write generated _

theorem materialize (own : OwnWrites between test) :
    Stays between start (Trial.onFiles (test.materialize fixture)) := by
  refine Ensures.onFiles fun scene known => ?_
  have first : between scene.files
      (FileSystem.write scene.files test.source fixture.source.toUTF8).2 :=
    own.written (by simp [TestCase.generated]) _ _
  unfold TestCase.materialize
  rcases wrote : FileSystem.write scene.files test.source fixture.source.toUTF8 with
    ⟨error | _, files⟩
  next =>
    rw [wrote] at first
    exact ⟨known.1, own.trans known.2 first⟩
  next =>
    rw [wrote] at first
    have second : between files
        (FileSystem.write files test.expected fixture.artifact.toUTF8).2 :=
      own.written (by simp [TestCase.generated]) _ _
    dsimp only
    rcases wroteBoth : FileSystem.write files test.expected fixture.artifact.toUTF8 with
      ⟨error | _, left⟩
    next =>
      rw [wroteBoth] at second
      exact ⟨known.1, own.trans known.2 (own.trans first second)⟩
    next =>
      rw [wroteBoth] at second
      exact ⟨known.1, own.trans known.2 (own.trans first second)⟩

-- An update that fails has written nothing.
theorem updates {limit : Nat} (own : OwnWrites between test) (isAccepted : Bool)
    (listing : Option String) (update : Update) :
    EndsTurn between start (do
      updateGolden test fixture isAccepted listing
      return (.pass (.updated update) : Turn limit)) := by
  have rewrites (text : String) : Ensures (Since between start) (Trial.write test.fixture text)
      (fun _ scene => scene.calls = start.calls) fun _ => Since between start := by
    refine Ensures.onFiles fun scene known => ?_
    rcases attempted : FileSystem.write scene.files test.fixture text.toUTF8 with
      ⟨error | done, files⟩
    next => exact ⟨known.1, own.trans known.2 (own.refused attempted)⟩
    next => exact known.1
  have updated : Ensures (Since between start) (updateGolden test fixture isAccepted listing)
      (fun _ scene => scene.calls = start.calls) fun _ => Since between start :=
    Ensures.bind (Stays.read _) fun _ => (rewrites _).bind fun _ => Ensures.note _ _
  exact updated.bind fun _ => Ensures.pure fun scene calls =>
    ⟨calls, fun other => absurd trivial other⟩

end OwnWrites

namespace EndsTurn

variable {setup options test fixture} {between : φ → φ → Prop} {start : Scene φ} {limit : Nat}

theorem fail {test : TestCase} (own : OwnWrites between test) (text : String) (failure : Failure) :
    EndsTurn between start (do
      writeLog test text
      throw failure : Trial φ (Turn limit)) :=
  of_stays ((own.writeLog text).bind fun _ => Stays.throw failure)

theorem afterFormatter (own : OwnWrites between test) (output : Output) :
    EndsTurn between start (Trial.afterFormatter test output) := by
  unfold Trial.afterFormatter
  split
  next => exact fail own _ _
  next =>
    split
    next => exact bind (own.write (by simp [TestCase.generated]) _) fun _ => pure _
    next => exact toCompiler _ _

theorem afterFormatDiff (own : OwnWrites between test) (comparison : Comparison) :
    EndsTurn between start (Trial.afterFormatDiff test comparison : Trial φ _) := by
  cases comparison with
  | agree => exact toCompiler _ _
  | differ diff => exact fail own _ _

theorem afterCompiler (own : OwnWrites between test) (output : Output) :
    EndsTurn between start (Trial.afterCompiler setup options test output) := by
  unfold Trial.afterCompiler
  split
  next => exact fail own _ _
  next =>
    split
    next =>
      refine bind (Stays.note _ _) fun _ => bind (Stays.holds _) fun found => ?_
      cases found with
      | false => exact of_stays (Stays.throw _)
      | true =>
        cases options.versions with
        | none => exact bind (own.patch (by simp [TestCase.generated])) fun _ => pure _
        | some versions => exact bind (Stays.note _ _) fun _ => pure _
    next => exact bind (own.write (by simp [TestCase.generated]) _) fun _ => pure _

theorem afterConversion (own : OwnWrites between test) (versions : VersionPair)
    (isArtifact : Bool) :
    EndsTurn between start (Trial.afterConversion setup test versions isArtifact) := by
  cases isArtifact with
  | true => exact bind (own.patch (by simp [TestCase.generated])) fun _ => pure _
  | false => exact bind (own.patch (by simp [TestCase.generated])) fun _ => pure _

theorem afterDiff (own : OwnWrites between test) (isAccepted : Bool) (comparison : Comparison) :
    EndsTurn between start (Trial.afterDiff options test fixture isAccepted comparison) := by
  unfold Trial.afterDiff
  cases comparison with
  | agree =>
    dsimp only
    split
    next => exact bind (Stays.note _ _) fun _ => pure _
    next => exact pure _
  | differ diff =>
    dsimp only
    split
    next => exact own.updates isAccepted none .artifact
    next => exact fail own _ _

theorem afterSymbols (own : OwnWrites between test) (expected : String) (output : Output) :
    EndsTurn between start (Trial.afterSymbols options test fixture expected output) := by
  unfold Trial.afterSymbols
  split
  next =>
    dsimp only
    split
    next => exact pure _
    next =>
      split
      next => exact own.updates true _ .symbols
      next => exact fail own _ _
  next => exact fail own _ _

theorem turn (own : OwnWrites between test) (invocation : Invocation) (site : Site)
    (output : Output) :
    EndsTurn between start (Trial.turn setup options test fixture invocation site output) := by
  cases site with
  | formatter program => exact afterFormatter own output
  | formatDiff => exact bind (Stays.judge _ _ _) fun _ => afterFormatDiff own _
  | compiler => exact afterCompiler own output
  | assembler versions isArtifact => exact bind (Stays.require _ _ _) fun _ => pure _
  | disassembler versions isArtifact =>
    exact bind (Stays.require _ _ _) fun _ => afterConversion own versions isArtifact
  | diff isAccepted => exact bind (Stays.judge _ _ _) fun _ => afterDiff own isAccepted _
  | symbols expected => exact afterSymbols own expected output

end EndsTurn

section Steps

variable {setup options test fixture} {between : φ → φ → Prop}

def Exchange.after (exchange : Exchange φ) (before : Scene φ) : Scene φ :=
  ⟨exchange.left, before.calls ++ [exchange.invocation]⟩

theorem Recorded.since {tools : Tools φ} {start before after : Scene φ}
    {exchanges : List (Exchange φ)} (recorded : Recorded tools between before exchanges after)
    (own : OwnWrites between test) (known : Since between start before) :
    Recorded tools between start exchanges after := by
  cases recorded with
  | rest calls files => exact .rest (calls.trans known.1) (own.trans known.2 files)
  | call files answers onward =>
    rw [known.1] at answers onward
    exact .call (own.trans known.2 files) answers onward

theorem step_ends (own : OwnWrites between test) (site : Site) (scene : Scene φ) :
    let reached := (exchange setup test fixture site scene).after scene
    Ensures (· = scene) (step setup options test fixture site) (SinceTurn between reached)
      fun _ => Since between reached := by
  intro reached
  have here : Since between reached reached := ⟨rfl, own.refl _⟩
  have called : Ensures (· = scene)
      (exec setup site.stage
        (site.invocation setup.config test (Directives.ofSource fixture.source)))
      (fun _ => Since between reached) fun _ => Since between reached := by
    refine Ensures.exec ?_
    rintro _ rfl
    dsimp only
    split
    next =>
      split
      next => exact here
      next => exact here
    next => exact here
  exact called.bind fun output => EndsTurn.turn own _ site output

theorem step_spec (own : OwnWrites between test) {site : Site} {world left : World φ}
    {outcome : Except Failure (Turn site.later)}
    (stepped : attempt (step setup options test fixture site) world = (outcome, left)) :
    let reached := (exchange setup test fixture site world.scene).after world.scene
    left.calls = reached.calls ∧
      ((∀ turn, outcome = .ok turn → ¬ turn.IsUpdate) → between reached.files left.files) := by
  have steps : Ensures (· = world.scene) (step setup options test fixture site) _ _ :=
    step_ends own site world.scene
  have ends := steps world rfl
  rw [stepped] at ends
  cases outcome with
  | error failure => exact ⟨ends.1, fun _ => ends.2⟩
  | ok turn => exact ⟨ends.1, fun other => ends.2 (other turn rfl)⟩

theorem calls_walk (site : Site) (world : World φ) :
    (attempt (walk setup options test fixture site) world).2.calls = world.calls ++
      (transcriptFrom setup options test fixture site world).map Exchange.invocation := by
  have own : OwnWrites (fun _ _ : φ => True) test := ownWrites_any test
  refine walk_induct (motive := fun _ world exchanges _ after =>
    after.calls = world.calls ++ exchanges.map Exchange.invocation) ?_ ?_ ?_ site world
  next => exact fun site world failure left stepped => (step_spec own stepped).1
  next => exact fun site world pass left stepped => (step_spec own stepped).1
  next =>
    intro site world next fewer left exchanges outcome after stepped onward
    rw [onward, (step_spec own stepped).1]
    simp [Exchange.after, World.scene]

theorem walk_recorded (own : OwnWrites between test) (site : Site) (world : World φ) :
    let run := attempt (walk setup options test fixture site) world
    (∀ update, run.1 ≠ .ok (.updated update)) →
      Recorded setup.tools between world.scene
        (transcriptFrom setup options test fixture site world) run.2.scene := by
  refine walk_induct (motive := fun _ world exchanges outcome after =>
    (∀ update, outcome ≠ .ok (.updated update)) →
      Recorded setup.tools between world.scene exchanges after.scene) ?_ ?_ ?_ site world
  next =>
    intro site world failure left stepped _
    obtain ⟨calls, files⟩ := step_spec own stepped
    exact .call (own.refl _) rfl (.rest calls (files (by simp)))
  next =>
    intro site world pass left stepped other
    obtain ⟨calls, files⟩ := step_spec own stepped
    refine .call (own.refl _) rfl (.rest calls (files ?_))
    rintro _ ⟨rfl⟩ isUpdate
    cases pass with
    | updated update => exact other update rfl
    | ok | dumped => exact isUpdate
  next =>
    intro site world next fewer left exchanges outcome after stepped onward other
    obtain ⟨calls, files⟩ := step_spec own stepped
    have kept := files (by rintro _ ⟨rfl⟩ isUpdate; exact isUpdate)
    have since : Since between
        ((exchange setup test fixture site world.scene).after world.scene) left.scene :=
      ⟨calls, kept⟩
    exact .call (own.refl _) rfl ((onward other).since own since)

theorem start_stays (own : OwnWrites between test) (scene : Scene φ) :
    Stays between scene (start setup test) := by
  have loads : Stays between scene (load test.fixture : Trial φ Fixture) := by
    intro world known
    simp only [attempt_load]
    cases Fixture.load world.files test.fixture with
    | error error => exact known
    | ok fixture => exact known
  refine loads.bind fun fixture => own.materialize.bind fun _ => (Stays.note _ _).bind fun _ => ?_
  cases formatter? setup.config (Directives.ofSource fixture.source) with
  | some program => exact Stays.pure _
  | none => exact (Stays.note _ _).bind fun _ => Stays.pure _

theorem attempt_drive (world : World φ) :
    attempt (drive setup options test) world =
      match attempt (start setup test) world with
      | (.ok (fixture, site), left) => attempt (walk setup options test fixture site) left
      | (.error failure, left) => (.error failure, left) := by
  rw [drive_eq, attempt_bind]
  rcases attempt (start setup test) world with ⟨failure | ⟨fixture, site⟩, left⟩
  next => rfl
  next => rfl

theorem start_spec (own : OwnWrites between test) {world left : World φ}
    {outcome : Except Failure (Fixture × Site)}
    (started : attempt (start setup test) world = (outcome, left)) :
    Since between world.scene left.scene := by
  have starts : Stays between world.scene (start setup test) := start_stays own world.scene
  have stays := starts world ⟨rfl, own.refl _⟩
  rw [started] at stays
  cases outcome with
  | error failure => exact stays
  | ok found => exact stays

theorem calls_drive (world : World φ) :
    (attempt (drive setup options test) world).2.calls = world.calls ++
      (transcript setup options test world).map Exchange.invocation := by
  have own : OwnWrites (fun _ _ : φ => True) test := ownWrites_any test
  rw [attempt_drive, transcript]
  rcases started : attempt (start setup test) world with ⟨failure | ⟨fixture, site⟩, left⟩
  next => simpa [World.scene] using (start_spec own started).1
  next =>
    have calls : left.calls = world.calls := (start_spec own started).1
    rw [← calls]
    exact calls_walk site left

theorem drive_recorded (own : OwnWrites between test) (world : World φ) :
    let run := attempt (drive setup options test) world
    (∀ update, run.1 ≠ .ok (.updated update)) →
      Recorded setup.tools between world.scene (transcript setup options test world)
        run.2.scene := by
  rw [attempt_drive, transcript]
  intro run other
  rcases started : attempt (start setup test) world with ⟨failure | ⟨fixture, site⟩, left⟩
  next =>
    obtain ⟨calls, files⟩ := start_spec own started
    simp only [run, started]
    exact .rest calls files
  next =>
    simp only [run, started] at other ⊢
    exact (walk_recorded own site left other).since own (start_spec own started)

end Steps

end GoldenSuite.Trial
