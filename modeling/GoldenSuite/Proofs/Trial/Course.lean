import GoldenSuite.Proofs.Trial.Assertion
import GoldenSuite.Proofs.Trial.Outcome

set_option autoImplicit false

namespace GoldenSuite

namespace Trial

variable {φ α β : Type}

/-- What is asserted in the course of a test. -/
structure Course (φ : Type) where
  -- Of the files, up to an update of the fixture.
  files : φ → Prop
  -- Of the files after an update of the fixture.
  updated : φ → Prop
  -- Of every output of a tool.
  output : Output → Prop := fun _ => True
  -- Of the fixture that was loaded.
  fixture : Fixture → Prop := fun _ => True

-- The siblings that are written as the test has them; the others are made of some output.
def freeSiblings (test : TestCase) : List Path :=
  [test.source, test.expected, test.formatted, test.errorLog]

theorem mem_generated_of_free {test : TestCase} {path : Path} (free : path ∈ freeSiblings test) :
    path ∈ test.generated := by
  simp only [freeSiblings, TestCase.generated, List.mem_cons, List.not_mem_nil] at free ⊢
  grind

-- A listing that a tool gave, or none.
def Course.Listing (course : Course φ) (listing : String) : Prop :=
  ∃ output, course.output output ∧ listing = Symbols.filter output.stdout

structure Course.Upheld [FileSystem φ] (course : Course φ) (setup : Setup φ) (test : TestCase) :
    Prop where
  called {files : φ} (known : course.files files) (history : List Invocation)
      (invocation : Invocation) :
    course.files (setup.tools history invocation files).2 ∧
      ∀ output, (setup.tools history invocation files).1 = .ok output → course.output output
  loaded {files : φ} {fixture : Fixture} (known : course.files files)
      (loads : Fixture.load files test.fixture = .ok fixture) : course.fixture fixture
  written {files : φ} {path : Path} (known : course.files files) (own : path ∈ freeSiblings test)
      (data : ByteArray) : course.files (FileSystem.write files path data).2
  patched {files : φ} {path : Path} {text : String} (known : course.files files)
      (own : path = test.expected ∨ path = test.artifact)
      (read : FileSystem.read files path = .ok text) :
    course.files (FileSystem.write files path (setup.volatile.strip text).toUTF8).2
  saved {files : φ} {output : Output} (known : course.files files) (given : course.output output) :
    course.files (FileSystem.write files test.negative output.combined.toUTF8).2
  updates {files after : φ} {fixture : Fixture} {isAccepted : Bool} {listing : Option String}
      {text : String} (known : course.files files) (original : course.fixture fixture)
      (listed : ∀ fresh ∈ listing, course.Listing fresh)
      (read : FileSystem.read files (actual test isAccepted) = .ok text)
      (wrote : FileSystem.write files test.fixture (Fixture.render fixture.source text
        (keptSymbols fixture isAccepted listing)).toUTF8 = (.ok (), after)) :
    course.updated after
  refused {files after : φ} {data : ByteArray} {error : FileError} (known : course.files files)
      (failed : FileSystem.write files test.fixture data = (.error error, after)) :
    course.files after
  removed {files : φ} {path : Path} (own : path ∈ test.generated) :
    (course.files files → course.files (FileSystem.remove files path).2) ∧
      (course.updated files → course.updated (FileSystem.remove files path).2)

def Course.After (course : Course φ) : Outcome → φ → Prop
  | .ok (.updated _) => course.updated
  | _ => course.files

theorem Course.After.files {course : Course φ} {outcome : Outcome} {files : φ}
    (after : course.After outcome files)
    (other : ∀ update, outcome ≠ .ok (.updated update)) : course.files files := by
  rcases outcome with failure | pass
  next => exact after
  next =>
    cases pass with
    | updated update => exact absurd rfl (other update)
    | ok | dumped => exact after

-- Of the files after an update nothing is asserted.
def Course.untilUpdate (holds : φ → Prop) : Course φ where
  files := holds
  updated _ := True

-- It is enough to look at single calls, writes and removals.
theorem Course.upheld_of_files [FileSystem φ] {holds updated : φ → Prop} {setup : Setup φ}
    {test : TestCase}
    (called : ∀ history invocation files, holds files →
      holds (setup.tools history invocation files).2)
    (written : ∀ path ∈ test.generated, ∀ files data, holds files →
      holds (FileSystem.write files path data).2)
    (removed : ∀ path ∈ test.generated, ∀ files,
      (holds files → holds (FileSystem.remove files path).2) ∧
        (updated files → updated (FileSystem.remove files path).2))
    (updates : ∀ files data after, holds files →
      FileSystem.write files test.fixture data = (.ok (), after) → updated after)
    (refused : ∀ files data error after, holds files →
      FileSystem.write files test.fixture data = (.error error, after) → holds after) :
    Course.Upheld { files := holds, updated := updated } setup test where
  called known history invocation := ⟨called history invocation _ known, fun _ _ => trivial⟩
  loaded _ _ := trivial
  written {files path} known own data := written path (mem_generated_of_free own) files data known
  patched {files path text} known own read := by
    have generated : path ∈ test.generated := by
      rcases own with rfl | rfl <;> simp [TestCase.generated]
    exact written path generated files _ known
  saved {files output} known given :=
    written test.negative (by simp [TestCase.generated]) files _ known
  updates known _ _ _ wrote := updates _ _ _ known wrote
  refused known failed := refused _ _ _ _ known failed
  removed own := removed _ own _

theorem Course.untilUpdate_upheld [FileSystem φ] {holds : φ → Prop} {setup : Setup φ}
    {test : TestCase}
    (called : ∀ history invocation files, holds files →
      holds (setup.tools history invocation files).2)
    (written : ∀ path ∈ test.generated, ∀ files data, holds files →
      holds (FileSystem.write files path data).2)
    (removed : ∀ path ∈ test.generated, ∀ files, holds files →
      holds (FileSystem.remove files path).2)
    (refused : ∀ files data error after, holds files →
      FileSystem.write files test.fixture data = (.error error, after) → holds after) :
    (Course.untilUpdate holds).Upheld setup test :=
  upheld_of_files called written (fun path own files => ⟨removed path own files, id⟩)
    (fun _ _ _ _ _ => trivial) refused

def Keeps (holds : φ → Prop) (trial : Trial φ α) : Prop :=
  Ensures (holds ·.files) trial (fun _ => (holds ·.files)) fun _ => (holds ·.files)

namespace Keeps

variable {holds : φ → Prop}

theorem files {trial : Trial φ α} (keeps : Keeps holds trial) {world : World φ}
    (known : holds world.files) : holds (attempt trial world).2.files := by
  have kept := keeps world known
  rcases attempted : attempt trial world with ⟨failure | answer, left⟩
  next => rwa [attempted] at kept
  next => rwa [attempted] at kept

theorem pure (answer : α) : Keeps holds (Pure.pure answer) := Ensures.pure fun _ known => known

theorem throw (failure : Failure) : Keeps holds (MonadExcept.throw failure : Trial φ α) :=
  Ensures.throw fun _ known => known

theorem throw_bind (failure : Failure) (next : α → Trial φ β) :
    Keeps holds (MonadExcept.throw failure >>= next) :=
  fun _ known => known

theorem bind {first : Trial φ α} {next : α → Trial φ β} (firstKeeps : Keeps holds first)
    (nextKeeps : ∀ answer, Keeps holds (next answer)) : Keeps holds (first >>= next) :=
  Ensures.bind firstKeeps nextKeeps

theorem note (level : Verbosity) (text : String) : Keeps holds (Trial.note level text) :=
  Ensures.note level text

theorem write [FileSystem φ] {path : Path} {text : String}
    (written : ∀ files, holds files → holds (FileSystem.write files path text.toUTF8).2) :
    Keeps holds (Trial.write path text) := by
  refine Ensures.onFiles fun scene known => ?_
  have reached := written scene.files known
  rcases applied : FileSystem.write scene.files path text.toUTF8 with ⟨error | done, files⟩
  next => rwa [applied] at reached
  next => rwa [applied] at reached

theorem holdsFile [FileSystem φ] (path : Path) : Keeps holds (Trial.holds path) :=
  fun _ known => known

end Keeps

namespace Course.Upheld

variable [FileSystem φ] {course : Course φ} {setup : Setup φ} {test : TestCase}

theorem exec (upheld : course.Upheld setup test) (stage : Stage) (invocation : Invocation) :
    Ensures (course.files ·.files) (Trial.exec setup stage invocation)
      (fun output scene => course.output output ∧ course.files scene.files)
      fun _ => (course.files ·.files) := by
  refine Ensures.exec fun scene known => ?_
  obtain ⟨kept, given⟩ := upheld.called known scene.calls invocation
  split
  next output answer =>
    split
    next => exact kept
    next => exact ⟨given output answer, kept⟩
  next => exact kept

theorem execKeeps (upheld : course.Upheld setup test) (stage : Stage) (invocation : Invocation) :
    Keeps course.files (Trial.exec setup stage invocation) :=
  (upheld.exec stage invocation).weaken (fun _ _ known => known.2) fun _ _ known => known

theorem execThen (upheld : course.Upheld setup test) (stage : Stage) (invocation : Invocation)
    {next : Output → Trial φ α}
    (nextKeeps : ∀ output, course.output output → Keeps course.files (next output)) :
    Keeps course.files (Trial.exec setup stage invocation >>= next) :=
  (upheld.exec stage invocation).bind fun output => Ensures.assuming (nextKeeps output)

theorem execChecked (upheld : course.Upheld setup test) (stage : Stage)
    (invocation : Invocation) : Keeps course.files (Trial.execChecked setup stage invocation) := by
  refine (upheld.execKeeps stage invocation).bind fun output => ?_
  split
  next => exact .pure output
  next => exact .throw _

theorem write (upheld : course.Upheld setup test) {path : Path} (own : path ∈ freeSiblings test)
    (text : String) : Keeps course.files (Trial.write path text) :=
  .write fun _ known => upheld.written known own text.toUTF8

theorem writeLog (upheld : course.Upheld setup test) (text : String) :
    Keeps course.files (Trial.writeLog test text) :=
  Ensures.writeLog fun _ known => upheld.written known (by simp [freeSiblings]) text.toUTF8

-- A failure is logged and ends the trial.
theorem fail (upheld : course.Upheld setup test) (text : String) {next : Unit → Trial φ α}
    (nextKeeps : ∀ answer, Keeps course.files (next answer)) :
    Keeps course.files (Trial.writeLog test text >>= next) :=
  (upheld.writeLog text).bind nextKeeps

theorem load (upheld : course.Upheld setup test) :
    Ensures (course.files ·.files) (Trial.load test.fixture)
      (fun fixture scene => course.fixture fixture ∧ course.files scene.files)
      fun _ => (course.files ·.files) := by
  intro world known
  simp only [attempt_load]
  rcases loads : Fixture.load world.files test.fixture with error | fixture
  next => exact known
  next => exact ⟨upheld.loaded known loads, known⟩

theorem materialize (upheld : course.Upheld setup test) (fixture : Fixture) :
    Keeps course.files (Trial.onFiles (test.materialize fixture)) := by
  refine Ensures.onFiles fun scene known => ?_
  have source : test.source ∈ freeSiblings test := by simp [freeSiblings]
  have expected : test.expected ∈ freeSiblings test := by simp [freeSiblings]
  have first := upheld.written known source fixture.source.toUTF8
  unfold TestCase.materialize
  rcases wrote : FileSystem.write scene.files test.source fixture.source.toUTF8 with
    ⟨error | _, files⟩
  next => rwa [wrote] at first
  next =>
    rw [wrote] at first
    dsimp only
    have second := upheld.written first expected fixture.artifact.toUTF8
    rcases wroteBoth : FileSystem.write files test.expected fixture.artifact.toUTF8 with
      ⟨error | _, left⟩
    next => rwa [wroteBoth] at second
    next => rwa [wroteBoth] at second

theorem diffFiles (upheld : course.Upheld setup test) (stage : Stage) (expected actual : Path) :
    Keeps course.files (Trial.diffFiles setup stage expected actual) := by
  refine (upheld.execKeeps stage _).bind fun output => ?_
  split
  next => exact .pure _
  next => exact .pure _
  next => exact .throw _

theorem checkFormat (upheld : course.Upheld setup test) (directives : Directives) :
    Keeps course.files (Trial.checkFormat setup test directives) := by
  unfold Trial.checkFormat
  split
  next => exact .pure _
  next formatter _ =>
    refine (upheld.execKeeps .format _).bind fun output => ?_
    cases crashed : output.crashed with
    | true =>
      simp only [if_true]
      exact upheld.fail _ fun _ => .throw_bind _ _
    | false =>
      cases success : output.success with
      | false =>
        simp only [Bool.not_false, if_true]
        exact .pure _
      | true =>
        refine (upheld.write (by simp [freeSiblings]) _).bind fun _ => ?_
        refine (upheld.diffFiles .format _ _).bind fun comparison => ?_
        split
        next => exact .pure _
        next => exact upheld.fail _ fun _ => .throw _

theorem compile (upheld : course.Upheld setup test) (directives : Directives) :
    Keeps course.files (Trial.compile setup test directives) := by
  refine upheld.execThen .compile _ fun output given => ?_
  cases crashed : output.crashed with
  | true =>
    simp only [if_true]
    exact upheld.fail _ fun _ => .throw_bind _ _
  | false =>
    cases success : output.success with
    | true =>
      simp only [if_true]
      exact .pure _
    | false => exact (Keeps.write fun _ known => upheld.saved known given).bind fun _ => .pure _

theorem patch (upheld : course.Upheld setup test) {file : Path}
    (own : file = test.expected ∨ file = test.artifact) :
    Keeps course.files (Trial.patch setup file) := by
  intro world known
  unfold Trial.patch Trial.read
  rw [attempt_bind, attempt_onFiles]
  rcases read : FileSystem.read world.files file with error | text
  next => exact known
  next =>
    have patched : course.files
        (FileSystem.write world.files file (setup.volatile.strip text).toUTF8).2 :=
      upheld.patched known own read
    simp only [Trial.write, attempt_onFiles]
    rcases written : FileSystem.write world.files file (setup.volatile.strip text).toUTF8 with
      ⟨error | _, left⟩
    next => rwa [written] at patched
    next => rwa [written] at patched

theorem convert (upheld : course.Upheld setup test) (versions : VersionPair) (file : Path) :
    Keeps course.files (Trial.convert setup test versions file) :=
  (upheld.execChecked _ _).bind fun _ => (upheld.execChecked _ _).bind fun _ => .pure _

theorem normalize (upheld : course.Upheld setup test) (versions : Option VersionPair) :
    Keeps course.files (Trial.normalize setup test versions) := by
  have convertBoth (versions : VersionPair) :
      Keeps course.files (Trial.convertBoth setup test versions) :=
    (Keeps.note _ _).bind fun _ => (upheld.convert versions _).bind fun _ =>
      (upheld.patch (.inl rfl)).bind fun _ => upheld.convert versions _
  refine (Keeps.holdsFile test.artifact).bind fun found => ?_
  split
  next => exact .throw_bind _ _
  next =>
    cases versions with
    | none => exact (Keeps.pure ()).bind fun _ => upheld.patch (.inr rfl)
    | some versions => exact (convertBoth versions).bind fun _ => upheld.patch (.inr rfl)

theorem dumpSymbols (upheld : course.Upheld setup test) :
    Ensures (course.files ·.files) (Trial.dumpSymbols setup test)
      (fun listing scene => course.Listing listing ∧ course.files scene.files)
      fun _ => (course.files ·.files) := by
  refine (upheld.exec .symbols _).bind fun output => Ensures.assuming fun given => ?_
  split
  next => exact Ensures.pure fun scene known => ⟨⟨output, given, rfl⟩, known⟩
  next =>
    exact Ensures.bind (upheld.writeLog output.combined) fun _ =>
      Ensures.throw fun scene known => known

-- An update that is refused leaves the files as they were.
theorem updateGolden (upheld : course.Upheld setup test) {fixture : Fixture}
    (original : course.fixture fixture) (isAccepted : Bool) {listing : Option String}
    (listed : ∀ fresh ∈ listing, course.Listing fresh) :
    Ensures (course.files ·.files) (Trial.updateGolden test fixture isAccepted listing)
      (fun _ => (course.updated ·.files)) fun _ => (course.files ·.files) := by
  have reads : Ensures (course.files ·.files) (Trial.read (actual test isAccepted))
      (fun text scene => course.files scene.files ∧
        FileSystem.read scene.files (actual test isAccepted) = .ok text)
      fun _ => (course.files ·.files) := by
    refine Ensures.onFiles fun scene known => ?_
    rcases read : FileSystem.read scene.files (actual test isAccepted) with error | text
    next => exact known
    next => exact ⟨known, read⟩
  refine reads.bind fun text => ?_
  have writes : Ensures (fun scene : Scene φ => course.files scene.files ∧
        FileSystem.read scene.files (actual test isAccepted) = .ok text)
      (Trial.write test.fixture (Fixture.render fixture.source text
        (keptSymbols fixture isAccepted listing)))
      (fun _ => (course.updated ·.files)) fun _ => (course.files ·.files) := by
    refine Ensures.onFiles fun scene known => ?_
    rcases wrote : FileSystem.write scene.files test.fixture (Fixture.render fixture.source text
        (keptSymbols fixture isAccepted listing)).toUTF8 with ⟨error | done, after⟩
    next => exact upheld.refused known.1 wrote
    next => exact upheld.updates known.1 original listed known.2 wrote
  exact writes.bind fun _ => Ensures.note _ _

theorem compareSymbols (upheld : course.Upheld setup test) (options : RunOptions)
    {fixture : Fixture} (original : course.fixture fixture) :
    Ensures (course.files ·.files) (Trial.compareSymbols setup options test fixture)
      (fun pass => (course.After (.ok pass) ·.files)) fun _ => (course.files ·.files) := by
  unfold Trial.compareSymbols
  split
  next => exact Ensures.pure fun _ known => known
  next expected _ =>
    refine (Ensures.note _ _).bind fun _ => ?_
    refine upheld.dumpSymbols.bind fun listing => Ensures.assuming fun listed => ?_
    split
    next => exact Ensures.pure fun _ known => known
    next diff _ =>
      split
      next =>
        have fresh : ∀ found ∈ some listing, course.Listing found := by
          rintro _ ⟨rfl⟩
          exact listed
        exact (upheld.updateGolden original true fresh).bind fun _ =>
          Ensures.pure fun _ known => known
      next => exact Ensures.bind (upheld.writeLog diff) fun _ => Ensures.throw fun _ known => known

theorem compareActual (upheld : course.Upheld setup test) (options : RunOptions)
    {fixture : Fixture} (original : course.fixture fixture) (isAccepted : Bool) :
    Ensures (course.files ·.files) (Trial.compareActual setup options test fixture isAccepted)
      (fun pass => (course.After (.ok pass) ·.files)) fun _ => (course.files ·.files) := by
  refine Ensures.bind (upheld.diffFiles .diff _ _) fun comparison => ?_
  split
  next =>
    split
    next => exact upheld.compareSymbols options original
    next => exact Ensures.pure fun _ known => known
  next diff =>
    split
    next =>
      exact (upheld.updateGolden original isAccepted (by simp)).bind fun _ =>
        Ensures.pure fun _ known => known
    next => exact Ensures.bind (upheld.writeLog diff) fun _ => Ensures.throw fun _ known => known

theorem drive (upheld : course.Upheld setup test) (options : RunOptions) :
    Ensures (course.files ·.files) (Trial.drive setup options test)
      (fun pass => (course.After (.ok pass) ·.files)) fun _ => (course.files ·.files) := by
  refine upheld.load.bind fun fixture => Ensures.assuming fun original => ?_
  refine Ensures.bind (upheld.materialize fixture) fun _ => ?_
  refine (Ensures.note _ _).bind fun _ => ?_
  refine Ensures.bind (upheld.checkFormat _) fun _ => ?_
  refine (Ensures.note _ _).bind fun _ => ?_
  refine Ensures.bind (upheld.compile _) fun verdict => ?_
  split
  next =>
    refine (Ensures.note _ _).bind fun _ => ?_
    exact Ensures.bind (upheld.normalize options.versions) fun _ =>
      upheld.compareActual options original _
  next => exact upheld.compareActual options original _

theorem dump (upheld : course.Upheld setup test) : Keeps course.files (Trial.dump test) :=
  upheld.load.bind fun fixture => Ensures.assuming fun _ =>
    (upheld.materialize fixture).bind fun _ => .pure _

end Course.Upheld

end Trial

theorem TestCase.removeAll_keeps {φ : Type} [FileSystem φ] {holds : φ → Prop} {paths : List Path}
    (removed : ∀ path ∈ paths, ∀ files, holds files → holds (FileSystem.remove files path).2)
    {files : φ} (known : holds files) : holds (removeAll paths files).2 := by
  induction paths generalizing files with
  | nil => exact known
  | cons path rest ih =>
    obtain ⟨first, others⟩ := List.forall_mem_cons.1 removed
    have left := first files known
    unfold removeAll
    rcases attempted : FileSystem.remove files path with ⟨error | done, after⟩
    next =>
      rw [attempted] at left
      dsimp only
      split
      next => exact ih others left
      next => exact left
    next =>
      rw [attempted] at left
      have final := ih others left
      dsimp only
      split
      next count files' same => rwa [same] at final
      next failed same => exact final

namespace Action

open Trial

variable {φ : Type} [FileSystem φ] {course : Course φ} {setup : Setup φ} {test : TestCase}

theorem cleanUp_keeps {holds : φ → Prop}
    (removed : ∀ path ∈ test.generated, ∀ files, holds files →
      holds (FileSystem.remove files path).2) {world : World φ} (known : holds world.files) :
    holds (cleanUp test world).2.files := by
  have cleaned : (cleanUp test world).2.files = (test.clean world.files).2 :=
    congrArg Scene.files (scene_cleanUp test world)
  rw [cleaned]
  exact TestCase.removeAll_keeps removed known

theorem conclude_keeps (upheld : course.Upheld setup test) (options : RunOptions)
    {outcome : Outcome} {world : World φ} (known : course.After outcome world.files) :
    course.After outcome (conclude options test outcome world).2.files := by
  rcases outcome with failure | pass
  next =>
    cases failure with
    | tool stage detail =>
      have own : test.errorLog ∈ freeSiblings test := by simp [freeSiblings]
      have left : (conclude options test (.error (.tool stage detail)) world).2.files =
          (FileSystem.write world.files test.errorLog detail.toUTF8).2 :=
        congrArg Scene.files (scene_conclude_tool options test stage detail world)
      exact left.symm ▸ upheld.written known own detail.toUTF8
    | _ => exact known
  next =>
    unfold conclude
    dsimp only
    split
    next => exact known
    next =>
      refine cleanUp_keeps (fun path own files kept => ?_) known
      cases pass with
      | updated update => exact (upheld.removed own).2 kept
      | ok | dumped => exact (upheld.removed own).1 kept

theorem execute_keeps (upheld : course.Upheld setup test) (options : RunOptions)
    {world : World φ} (known : course.files world.files) :
    course.After (execute setup options test world).1
      (execute setup options test world).2.files := by
  have driven := upheld.drive options world known
  rw [execute_eq]
  refine conclude_keeps upheld options ?_
  rcases run : attempt (Trial.drive setup options test) world with ⟨failure | pass, left⟩
  next =>
    rw [run] at driven
    exact driven
  next =>
    rw [run] at driven
    exact driven

end Action

end GoldenSuite
