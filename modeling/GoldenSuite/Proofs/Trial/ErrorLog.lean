import GoldenSuite.Proofs.Trial.Order
import GoldenSuite.Proofs.Trial.Remains

set_option autoImplicit false

namespace GoldenSuite

-- What a test writes besides the log.
theorem TestCase.Apart.errorLog_ne {test : TestCase} (apart : test.Apart) {path : Path}
    (other : path ∈ [test.fixture, test.source, test.formatted, test.artifact, test.expected,
      test.negative]) : test.errorLog.components ≠ path.components := by
  simp only [Apart, files, generated, List.map_cons, List.nodup_cons, List.mem_cons] at apart
  simp only [List.mem_cons, List.not_mem_nil, or_false] at other
  grind

namespace Trial

open Contents

variable {φ : Type} [FileSystem φ]

structure Writable (tools : Tools φ) (isOpen : φ → Prop) : Prop where
  written {files : φ} (known : isOpen files) (path : Path) (data : ByteArray) :
    ∃ after, FileSystem.write files path data = (.ok (), after) ∧ isOpen after
  called {files : φ} (known : isOpen files) (history : List Invocation) (invocation : Invocation) :
    isOpen (tools history invocation files).2

variable [Contents φ]

/-- What the log holds after a failure, by the answer to the last call: the output of the call, the
difference between the symbols of the fixture and those that were listed, what was the matter with
the tool, or what it held before. -/
def Documented (before : φ) (test : TestCase) (answer : Option (Except LaunchError Output))
    (log : Option ByteArray) : Failure → Prop
  | .crash _ | .formatMismatch | .artifactMismatch | .noSymbols =>
      ∃ output, answer = some (.ok output) ∧
        log = some (output.stderr ++ output.stdout).toUTF8
  | .symbolMismatch =>
      ∃ output fixture expected, answer = some (.ok output) ∧
        Fixture.load before test.fixture = .ok fixture ∧ fixture.symbols = some expected ∧
          log = some (Diff.unified ((Symbols.counted expected).map String.ofList)
            ((Symbols.counted (Symbols.filter output.stdout)).map String.ofList)
            "expected.sym" "actual.sym").toUTF8
  | .tool _ detail => log = some detail.toUTF8
  | .missingSection | .extraSection | .noArtifact _ | .timeout _ | .io _ =>
      log = bytes? before test.errorLog

def Told (before : φ) (test : TestCase) (answer : Option (Except LaunchError Output))
    (log : Option ByteArray) : Failure → Prop
  | .tool _ _ => log = bytes? before test.errorLog
  | failure => Documented before test answer log failure

def Untouched (isOpen : φ → Prop) (before : φ) (test : TestCase) (scene : Scene φ) : Prop :=
  isOpen scene.files ∧ bytes? scene.files test.errorLog = bytes? before test.errorLog

def Telling (isOpen : φ → Prop) (before : φ) (test : TestCase)
    (answer : Option (Except LaunchError Output)) (failure : Failure) (scene : Scene φ) : Prop :=
  isOpen scene.files ∧ Told before test answer (bytes? scene.files test.errorLog) failure

def Tells {α : Type} (isOpen : φ → Prop) (before : φ) (test : TestCase)
    (answer : Option (Except LaunchError Output)) (trial : Trial φ α) : Prop :=
  Ensures (Untouched isOpen before test) trial (fun _ => Untouched isOpen before test)
    (Telling isOpen before test answer)

namespace Tells

variable {α β : Type} {isOpen : φ → Prop} {before : φ} {setup : Setup φ} {options : RunOptions}
  {test : TestCase} {fixture : Fixture} {answer : Option (Except LaunchError Output)}

theorem pure (result : α) : Tells isOpen before test answer (Pure.pure result : Trial φ α) :=
  Ensures.pure fun _ known => known

theorem throw {failure : Failure}
    (quiet : Told before test answer (bytes? before test.errorLog) failure) :
    Tells isOpen before test answer (MonadExcept.throw failure : Trial φ α) :=
  Ensures.throw fun _ known => ⟨known.1, known.2 ▸ quiet⟩

theorem bind {first : Trial φ α} {next : α → Trial φ β}
    (firstTells : Tells isOpen before test answer first)
    (nextTells : ∀ result, Tells isOpen before test answer (next result)) :
    Tells isOpen before test answer (first >>= next) :=
  Ensures.bind firstTells nextTells

theorem note (level : Verbosity) (text : String) :
    Tells isOpen before test answer (Trial.note level text : Trial φ Unit) :=
  Ensures.note level text

theorem holds (path : Path) : Tells isOpen before test answer (Trial.holds path : Trial φ Bool) :=
  fun _ known => known

theorem read (path : Path) :
    Tells isOpen before test answer (Trial.read path : Trial φ String) := by
  refine Ensures.onFiles fun scene known => ?_
  cases FileSystem.read scene.files path with
  | ok text => exact known
  | error error => exact known

theorem write (writable : Writable setup.tools isOpen) {path : Path}
    (apart : test.errorLog.components ≠ path.components) (text : String) :
    Tells isOpen before test answer (Trial.write path text : Trial φ Unit) := by
  refine Ensures.onFiles fun scene known => ?_
  obtain ⟨after, wrote, stillOpen⟩ := writable.written known.1 path text.toUTF8
  have elsewhere := bytes?_written wrote test.errorLog
  rw [if_neg apart] at elsewhere
  rw [wrote]
  exact ⟨stillOpen, elsewhere.trans known.2⟩

theorem patch (writable : Writable setup.tools isOpen) {path : Path}
    (apart : test.errorLog.components ≠ path.components) :
    Tells isOpen before test answer (Trial.patch setup path) :=
  bind (read path) fun _ => write writable apart _

theorem fail (writable : Writable setup.tools isOpen) {text : String} {failure : Failure}
    (told : Told before test answer (some text.toUTF8) failure) :
    Tells isOpen before test answer (do
      writeLog test text
      MonadExcept.throw failure : Trial φ α) := by
  have written : Ensures (Untouched isOpen before test) (writeLog test text : Trial φ Unit)
      (fun _ scene => isOpen scene.files ∧
        bytes? scene.files test.errorLog = some text.toUTF8)
      (Telling isOpen before test answer) := by
    refine Ensures.writeLog fun scene known => ?_
    obtain ⟨after, wrote, stillOpen⟩ := writable.written known.1 test.errorLog text.toUTF8
    have here := bytes?_written wrote test.errorLog
    rw [if_pos rfl] at here
    rw [wrote]
    exact ⟨stillOpen, here⟩
  exact written.bind fun _ => Ensures.throw fun scene logged => ⟨logged.1, logged.2 ▸ told⟩

-- A comparison finds the output of its call, or it is the tool that failed.
theorem judge {stage : Stage} {invocation : Invocation} {output : Output}
    {next : Comparison → Trial φ α} (agrees : Tells isOpen before test answer (next .agree))
    (differs : Tells isOpen before test answer (next (.differ output.combined))) :
    Tells isOpen before test answer (Trial.judge stage invocation output >>= next) := by
  unfold Trial.judge
  split
  next => exact agrees
  next => exact differs
  next => exact fun _ known => known

theorem require (stage : Stage) (invocation : Invocation) (output : Output) :
    Tells isOpen before test answer (Trial.require stage invocation output : Trial φ Unit) := by
  unfold Trial.require
  split
  next => exact pure _
  next => exact throw rfl

section Turns

variable (writable : Writable setup.tools isOpen) (apart : test.Apart)
include writable apart

theorem materialize :
    Tells isOpen before test answer (Trial.onFiles (test.materialize fixture) : Trial φ Unit) := by
  refine Ensures.onFiles fun scene known => ?_
  obtain ⟨first, wrote, stillOpen⟩ :=
    writable.written known.1 test.source fixture.source.toUTF8
  obtain ⟨second, wroteBoth, openToo⟩ :=
    writable.written stillOpen test.expected fixture.artifact.toUTF8
  have elsewhere := bytes?_written wrote test.errorLog
  have elsewhereToo := bytes?_written wroteBoth test.errorLog
  rw [if_neg (apart.errorLog_ne (by simp))] at elsewhere elsewhereToo
  rw [TestCase.materialize, wrote]
  dsimp only
  rw [wroteBoth]
  exact ⟨openToo, elsewhereToo.trans (elsewhere.trans known.2)⟩

theorem updateGolden (isAccepted : Bool) (listing : Option String) :
    Tells isOpen before test answer
      (Trial.updateGolden test fixture isAccepted listing : Trial φ Unit) :=
  bind (read _) fun _ => bind (write writable (apart.errorLog_ne (by simp)) _) fun _ => note _ _

end Turns

section Answered

variable {output : Output} (writable : Writable setup.tools isOpen) (apart : test.Apart)
include writable apart

theorem afterFormatter :
    Tells isOpen before test (some (.ok output)) (Trial.afterFormatter test output) := by
  unfold Trial.afterFormatter
  split
  next => exact fail writable ⟨output, rfl, rfl⟩
  next =>
    split
    next => exact bind (write writable (apart.errorLog_ne (by simp)) _) fun _ => pure _
    next => exact bind (note _ _) fun _ => pure _

theorem afterCompiler :
    Tells isOpen before test (some (.ok output))
      (Trial.afterCompiler setup options test output) := by
  unfold Trial.afterCompiler
  split
  next => exact fail writable ⟨output, rfl, rfl⟩
  next =>
    split
    next =>
      refine bind (note _ _) fun _ => bind (holds _) fun found => ?_
      cases found with
      | false => exact throw rfl
      | true =>
        cases options.versions with
        | none => exact bind (patch writable (apart.errorLog_ne (by simp))) fun _ => pure _
        | some versions => exact bind (note _ _) fun _ => pure _
    next => exact bind (write writable (apart.errorLog_ne (by simp)) _) fun _ => pure _

theorem afterConversion (versions : VersionPair) (isArtifact : Bool) :
    Tells isOpen before test answer
      (Trial.afterConversion setup test versions isArtifact) := by
  cases isArtifact with
  | true => exact bind (patch writable (apart.errorLog_ne (by simp))) fun _ => pure _
  | false => exact bind (patch writable (apart.errorLog_ne (by simp))) fun _ => pure _

theorem afterSymbols {expected : String}
    (loaded : Fixture.load before test.fixture = .ok fixture)
    (present : fixture.symbols = some expected) :
    Tells isOpen before test (some (.ok output))
      (Trial.afterSymbols options test fixture expected output) := by
  unfold Trial.afterSymbols
  split
  next =>
    dsimp only
    split
    next => exact pure _
    next diff differs =>
      split
      next => exact bind (updateGolden writable apart true _) fun _ => pure _
      next =>
        obtain rfl := Symbols.eq_of_compare_eq_differ differs
        exact fail writable ⟨output, fixture, expected, rfl, loaded, present, rfl⟩
  next => exact fail writable ⟨output, rfl, rfl⟩

theorem afterDiff (isAccepted : Bool) {comparison : Comparison}
    (said : ∀ diff, comparison = .differ diff → diff = output.combined) :
    Tells isOpen before test (some (.ok output))
      (Trial.afterDiff options test fixture isAccepted comparison) := by
  unfold Trial.afterDiff
  cases comparison with
  | agree =>
    dsimp only
    split
    next => exact bind (note _ _) fun _ => pure _
    next => exact pure _
  | differ diff =>
    obtain rfl := said diff rfl
    dsimp only
    split
    next => exact bind (updateGolden writable apart isAccepted none) fun _ => pure _
    next => exact fail writable ⟨output, rfl, rfl⟩

theorem turn (loaded : Fixture.load before test.fixture = .ok fixture) {site : Site}
    (fits : ∀ expected, site = .symbols expected → fixture.symbols = some expected)
    (invocation : Invocation) :
    Tells isOpen before test (some (.ok output))
      (Trial.turn setup options test fixture invocation site output) := by
  cases site with
  | formatter program => exact afterFormatter writable apart
  | formatDiff =>
    exact judge (bind (note _ _) fun _ => pure _) (fail writable ⟨output, rfl, rfl⟩)
  | compiler => exact afterCompiler writable apart
  | assembler versions isArtifact => exact bind (require _ _ _) fun _ => pure _
  | disassembler versions isArtifact =>
    exact bind (require _ _ _) fun _ => afterConversion writable apart versions isArtifact
  | diff isAccepted =>
    exact judge (afterDiff writable apart isAccepted (by simp))
      (afterDiff writable apart isAccepted (by simp))
  | symbols expected => exact afterSymbols writable apart loaded (fits expected rfl)

end Answered

end Tells

def Reports (isOpen : φ → Prop) (before : φ) (test : TestCase) (calls : List (Exchange φ))
    (after : World φ) : Outcome → Prop
  | .ok _ => Untouched isOpen before test after.scene
  | .error failure =>
      Telling isOpen before test (calls.getLast?.map Exchange.answer) failure after.scene

omit [FileSystem φ] [Contents φ] in
-- Only symbols that the fixture has are asked for.
theorem symbols_of_next? {options : RunOptions} {fixture : Fixture} {succeeded : Bool}
    {site : Site} {expected : String}
    (goes : next? options fixture succeeded site = some (.symbols expected)) :
    fixture.symbols = some expected := by
  cases site with
  | formatDiff => simp [next?] at goes
  | assembler versions isArtifact => simp [next?] at goes
  | symbols listed => simp [next?] at goes
  | formatter program => cases succeeded <;> simp [next?] at goes
  | compiler =>
    simp only [next?] at goes
    split at goes <;> cases goes
  | disassembler versions isArtifact => cases isArtifact <;> simp [next?] at goes
  | diff isAccepted =>
    simp only [next?] at goes
    split at goes
    next => simpa using goes
    next => cases goes

section Runs

variable {isOpen : φ → Prop} {before : φ} {setup : Setup φ} (options : RunOptions)
  {test : TestCase} {fixture : Fixture} (writable : Writable setup.tools isOpen)
  (apart : test.Apart) (spared : Spares setup.tools test.errorLog)
include writable apart spared

theorem step_tells (loaded : Fixture.load before test.fixture = .ok fixture) {site : Site}
    (fits : ∀ expected, site = .symbols expected → fixture.symbols = some expected)
    {scene : Scene φ} (known : Untouched isOpen before test scene) :
    Ensures (· = scene) (step setup options test fixture site)
      (fun _ => Untouched isOpen before test)
      (Telling isOpen before test (some (exchange setup test fixture site scene).answer)) := by
  let call := exchange setup test fixture site scene
  have stays : Untouched isOpen before test (call.after scene) :=
    ⟨writable.called known.1 _ _, (spared _ _ _).trans known.2⟩
  have called : Ensures (· = scene) (exec setup site.stage call.invocation)
      (fun output left => call.answer = .ok output ∧ Untouched isOpen before test left)
      (Telling isOpen before test (some call.answer)) := by
    refine Ensures.exec ?_
    rintro _ rfl
    dsimp only
    split
    next output answered =>
      split
      next => exact stays
      next => exact ⟨answered, stays⟩
    next => exact stays
  refine called.bind fun output => Ensures.assuming fun answered => ?_
  rw [answered]
  exact Tells.turn writable apart loaded fits call.invocation

theorem walk_reports (loaded : Fixture.load before test.fixture = .ok fixture) (site : Site)
    (world : World φ) :
    let run := attempt (walk setup options test fixture site) world
    let calls := transcriptFrom setup options test fixture site world
    (∀ expected, site = .symbols expected → fixture.symbols = some expected) →
      Untouched isOpen before test world.scene →
        calls ≠ [] ∧ Reports isOpen before test calls run.2 run.1 := by
  refine walk_induct (motive := fun site world exchanges outcome after =>
    (∀ expected, site = .symbols expected → fixture.symbols = some expected) →
      Untouched isOpen before test world.scene →
        exchanges ≠ [] ∧ Reports isOpen before test exchanges after outcome) ?_ ?_ ?_ site world
  next =>
    intro site world failure left stepped fits known
    have tells := step_tells options writable apart spared loaded fits known world rfl
    rw [stepped] at tells
    exact ⟨List.cons_ne_nil _ _, tells⟩
  next =>
    intro site world pass left stepped fits known
    have tells := step_tells options writable apart spared loaded fits known world rfl
    rw [stepped] at tells
    exact ⟨List.cons_ne_nil _ _, tells⟩
  next =>
    intro site world next fewer left exchanges outcome after stepped onward fits known
    have tells := step_tells options writable apart spared loaded fits known world rfl
    rw [stepped] at tells
    have nextFits (expected : String) (asks : next = .symbols expected) :
        fixture.symbols = some expected := by
      have goes : some next = next? options fixture _ site := step_next stepped
      exact symbols_of_next? (asks ▸ goes.symm)
    obtain ⟨more, reports⟩ := onward nextFits tells
    refine ⟨List.cons_ne_nil _ _, ?_⟩
    unfold Reports at reports ⊢
    rwa [List.getLast?_cons_of_ne_nil more]

omit spared in
theorem start_tells {scene : Scene φ} (writes : isOpen scene.files) :
    Ensures (· = scene) (start setup test)
      (fun found left => Fixture.load scene.files test.fixture = .ok found.1 ∧
        (∀ expected, found.2 ≠ .symbols expected) ∧ Untouched isOpen scene.files test left)
      (Telling isOpen scene.files test none) := by
  have loads : Ensures (· = scene) (load test.fixture : Trial φ Fixture)
      (fun fixture left => Fixture.load scene.files test.fixture = .ok fixture ∧
        Untouched isOpen scene.files test left)
      (Telling isOpen scene.files test none) := by
    rintro world rfl
    simp only [attempt_load, World.scene]
    rcases Fixture.load world.files test.fixture with (⟨path, cause⟩ | ⟨path, cause⟩) | fixture
    next => exact ⟨writes, rfl⟩
    next => cases cause <;> exact ⟨writes, rfl⟩
    next => exact ⟨rfl, writes, rfl⟩
  refine loads.bind fun fixture => Ensures.assuming fun loaded => ?_
  have materializes : Tells isOpen scene.files test none
      (onFiles (test.materialize fixture) : Trial φ Unit) := Tells.materialize writable apart
  refine Ensures.bind materializes fun _ => (Ensures.note _ _).bind fun _ => ?_
  cases formatter? setup.config (Directives.ofSource fixture.source) with
  | some program => exact Ensures.pure fun left known => ⟨loaded, by simp, known⟩
  | none =>
    exact (Ensures.note _ _).bind fun _ => Ensures.pure fun left known => ⟨loaded, by simp, known⟩

theorem drive_reports (world : World φ) (writes : isOpen world.files) :
    let run := attempt (drive setup options test) world
    Reports isOpen world.files test (transcript setup options test world) run.2 run.1 := by
  have starts := start_tells writable apart writes world rfl
  rw [attempt_drive, transcript]
  rcases started : attempt (start setup test) world with ⟨failure | ⟨fixture, site⟩, left⟩
  next =>
    rw [started] at starts
    exact starts
  next =>
    rw [started] at starts
    obtain ⟨loaded, noSymbols, known⟩ := starts
    exact (walk_reports options writable apart spared loaded site left
      (fun expected same => absurd same (noSymbols expected)) known).2

end Runs

section Conclusion

variable {isOpen : φ → Prop} {setup : Setup φ} {test : TestCase}

-- Where a tool failed, the log is written now; otherwise it has been written already.
theorem documented_of_telling (writable : Writable setup.tools isOpen) (options : RunOptions)
    {before : φ} {answer : Option (Except LaunchError Output)} {failure : Failure}
    {world : World φ} (telling : Telling isOpen before test answer failure world.scene) :
    Documented before test answer (bytes?
      (Action.conclude options test (.error failure) world).2.files test.errorLog) failure := by
  cases failure with
  | tool stage detail =>
    have files : (Action.conclude options test (.error (.tool stage detail)) world).2.files =
        (FileSystem.write world.files test.errorLog detail.toUTF8).2 :=
      congrArg Scene.files (Action.scene_conclude_tool options test stage detail world)
    have writes : isOpen world.files := telling.1
    obtain ⟨after, wrote, -⟩ := writable.written writes test.errorLog detail.toUTF8
    have logged := bytes?_written wrote test.errorLog
    rw [if_pos rfl] at logged
    rw [files, wrote]
    exact logged
  | _ => exact telling.2

variable (setup) in
/-- A failure is documented by the log: with the output of the last call where that is what failed
or differed, with the difference of the symbols, or with what was the matter with a tool. Any other
failure, and a pass whose files are kept, leave the log as it was. -/
theorem execute_documents (options : RunOptions) (writable : Writable setup.tools isOpen)
    (apart : test.Apart) (spared : Spares setup.tools test.errorLog) (world : World φ)
    (writes : isOpen world.files) :
    let run := Action.execute setup options test world
    let calls := transcript setup options test world
    run.2.calls = world.calls ++ calls.map Exchange.invocation ∧
      (∀ failure, run.1 = .error failure →
        Recorded setup.tools (fun _ _ => True) world.scene calls run.2.scene ∧
          Documented world.files test (calls.getLast?.map Exchange.answer)
            (bytes? run.2.files test.errorLog) failure) ∧
      ∀ pass, run.1 = .ok pass → options.keep = true →
        bytes? run.2.files test.errorLog = bytes? world.files test.errorLog := by
  intro run calls
  have reports := drive_reports options writable apart spared world writes
  have called : (attempt (drive setup options test) world).2.calls =
      world.calls ++ calls.map Exchange.invocation := calls_drive world
  refine ⟨(Action.calls_conclude options test _ _).trans called, fun failure failed => ?_,
    fun pass passed kept => ?_⟩
  next =>
    obtain ⟨ended, driven, left⟩ : ∃ ended, attempt (drive setup options test) world =
        (.error failure, ended) ∧ run.2 = _ :=
      exists_ended_of_execute setup options test (Prod.ext failed rfl)
    have recorded : (∀ update, _) → Recorded setup.tools _ world.scene calls _ :=
      drive_recorded (ownWrites_any test) world
    rw [driven] at reports recorded
    rw [left]
    exact ⟨(recorded (by simp)).extend (fun _ _ _ _ _ => trivial)
      (Action.calls_conclude options test _ ended) trivial,
      documented_of_telling writable options reports⟩
  next =>
    obtain ⟨ended, driven, left⟩ : ∃ ended, attempt (drive setup options test) world =
        (.ok pass, ended) ∧ run.2 = _ :=
      exists_ended_of_execute setup options test (Prod.ext passed rfl)
    have stays : run.2 = ended := by
      rw [left, Action.conclude, kept]
      rfl
    rw [driven] at reports
    rw [stays]
    exact reports.2

end Conclusion

theorem writable_store {tools : Tools Store} (unsealed : ∀ history invocation files,
    (tools history invocation files).2.isSealed = files.isSealed) :
    Writable tools fun files => files.isSealed = false where
  written known path data := ⟨_, Store.write_of_open known path data, known⟩
  called known history invocation := (unsealed history invocation _).trans known

section Samples

-- A compiler that is ended after it has written to both of its streams.
def haltedOutput : Output := ⟨.signal (some 11), "define void @f\n", "cc: internal error\n"⟩

def haltedSetup : Setup Store where
  config := { compiler := "cc", formatter := none, volatileMarkers := [] }
  volatile := ⟨[]⟩
  tools := fun _ _ files => (.ok haltedOutput, files)

theorem execute_documents_crash :
    let run := Action.execute haltedSetup {} sampleTest staleWorld
    let calls := transcript haltedSetup {} sampleTest staleWorld
    Writable haltedSetup.tools (fun files => files.isSealed = false) ∧ sampleTest.Apart ∧
      Spares haltedSetup.tools sampleTest.errorLog ∧ staleWorld.files.isSealed = false ∧
      run.1 = .error (.crash .compile) ∧
      calls.getLast?.map Exchange.answer =
        some (.ok ⟨.signal (some 11), "define void @f\n", "cc: internal error\n"⟩) ∧
      bytes? run.2.files sampleTest.errorLog =
        some "cc: internal error\ndefine void @f\n".toUTF8 := by
  intro run calls
  have writable : Writable haltedSetup.tools fun files => files.isSealed = false :=
    writable_store fun _ _ _ => rfl
  have spared : Spares haltedSetup.tools sampleTest.errorLog := fun _ _ _ => rfl
  have failed : run.1 = .error (.crash .compile) := by decide +kernel
  have answered : calls.getLast?.map Exchange.answer = some (.ok haltedOutput) := by
    decide +kernel
  obtain ⟨-, documented, -⟩ :=
    execute_documents haltedSetup {} writable sampleTest_apart spared staleWorld rfl
  obtain ⟨output, last, log⟩ := (documented _ failed).2
  obtain rfl := Except.ok.inj (Option.some.inj (answered.symm.trans last))
  exact ⟨writable, sampleTest_apart, spared, rfl, failed, answered, log⟩

end Samples

end Trial

end GoldenSuite
