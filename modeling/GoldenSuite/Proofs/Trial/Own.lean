import GoldenSuite.Proofs.Trial.Tooling

set_option autoImplicit false

namespace GoldenSuite

def Invocation.Names (invocation : Invocation) (test : TestCase) : Prop :=
  ∃ path ∈ test.files, path.text ∈ invocation.args

namespace Trial

variable {φ : Type} [FileSystem φ]

theorem load_eq (path : Path) : (load path : Trial φ Fixture) = (do
    let text ← read path
    match Fixture.parse text with
    | .ok fixture => return fixture
    | .error error => throw (.ofSectionError error)) := by
  funext world
  change attempt (load path) world = attempt (read path >>= _) world
  rw [load, attempt_bind, attempt_bind, attempt_get, read, attempt_onFiles]
  simp only [Fixture.load]
  cases FileSystem.read world.files path with
  | error error => rfl
  | ok text =>
    dsimp only
    cases Fixture.parse text <;> rfl

theorem materialize_eq (test : TestCase) (fixture : Fixture) :
    onFiles (test.materialize fixture) = (do
      write test.source fixture.source
      write test.expected fixture.artifact : Trial φ Unit) := by
  funext world
  change attempt (onFiles (test.materialize fixture)) world =
    attempt (write test.source fixture.source >>= fun _ => _) world
  rw [attempt_bind, attempt_onFiles, write, attempt_onFiles, TestCase.materialize]
  rcases FileSystem.write world.files test.source fixture.source.toUTF8 with ⟨error | _, files⟩
  next => rfl
  next => simp only [write, attempt_onFiles]

/-- The trial is put together from actions on the test's own files. -/
inductive Own (setup : Setup φ) (test : TestCase) : {α : Type} → Trial φ α → Prop
  | pure {α : Type} (answer : α) : Own setup test (pure answer)
  | throw {α : Type} (failure : Failure) : Own setup test (throw failure : Trial φ α)
  | bind {α β : Type} {first : Trial φ α} {next : α → Trial φ β} (firstOwn : Own setup test first)
      (nextOwn : ∀ answer, Own setup test (next answer)) : Own setup test (first >>= next)
  | note {level : Verbosity} (aside : level ≠ .normal) (text : String) :
      Own setup test (note level text)
  | read {path : Path} (own : path ∈ test.files) : Own setup test (read path)
  | holds {path : Path} (own : path ∈ test.files) : Own setup test (holds path)
  | write {path : Path} (own : path ∈ test.files) (text : String) :
      Own setup test (write path text)
  | writeLog (text : String) : Own setup test (writeLog test text)
  | call {invocation : Invocation} (names : invocation.Names test) :
      Own setup test (ExceptT.lift (Action.call setup.tools invocation))

namespace Own

variable {setup : Setup φ} {options : RunOptions} {test : TestCase} {α : Type}

theorem throw_bind {β : Type} (failure : Failure) (next : β → Trial φ α) :
    Own setup test (MonadExcept.throw failure >>= next) :=
  throw failure

theorem fail (text : String) (failure : Failure) : Own setup test (do
    Trial.writeLog test text
    MonadExcept.throw failure : Trial φ α) :=
  (writeLog text).bind fun _ => throw failure

theorem exec {invocation : Invocation} (names : invocation.Names test) (stage : Stage) :
    Own setup test (Trial.exec setup stage invocation) := by
  refine (note (by decide) _).bind fun _ => (call names).bind fun answer => ?_
  cases answer with
  | error error => exact throw _
  | ok output =>
    dsimp only
    split
    next => exact throw _
    next => exact (note (by decide) _).bind fun _ => pure output

theorem execChecked {invocation : Invocation} (names : invocation.Names test) (stage : Stage) :
    Own setup test (Trial.execChecked setup stage invocation) := by
  refine (exec names stage).bind fun output => ?_
  split
  next => exact pure output
  next => exact throw _

theorem load : Own setup test (Trial.load test.fixture : Trial φ Fixture) := by
  rw [load_eq]
  refine (read (by simp [TestCase.files])).bind fun text => ?_
  cases Fixture.parse text with
  | ok fixture => exact pure fixture
  | error error => exact throw _

theorem materialize (fixture : Fixture) :
    Own setup test (Trial.onFiles (test.materialize fixture)) := by
  rw [materialize_eq]
  have source : test.source ∈ test.files := by simp [TestCase.files, TestCase.generated]
  have expected : test.expected ∈ test.files := by simp [TestCase.files, TestCase.generated]
  exact (write source _).bind fun _ => write expected _

theorem diffFiles {expected actual : Path} (own : actual ∈ test.files) (stage : Stage) :
    Own setup test (Trial.diffFiles setup stage expected actual) := by
  have names : (diffInvocation setup.config expected actual).Names test :=
    ⟨actual, own, by simp [diffInvocation]⟩
  refine (exec names stage).bind fun output => ?_
  split
  next => exact pure _
  next => exact pure _
  next => exact throw _

theorem checkFormat (directives : Directives) :
    Own setup test (Trial.checkFormat setup test directives) := by
  have formatted : test.formatted ∈ test.files := by simp [TestCase.files, TestCase.generated]
  unfold Trial.checkFormat
  split
  next => exact pure _
  next formatter _ =>
    have names : Invocation.Names ⟨formatter, [test.source.text]⟩ test :=
      ⟨test.source, by simp [TestCase.files, TestCase.generated], by simp⟩
    refine (exec names .format).bind fun output => ?_
    cases output.crashed with
    | true =>
      simp only [if_true]
      exact (writeLog _).bind fun _ => throw_bind _ _
    | false =>
      cases output.success with
      | false => exact pure _
      | true =>
        refine (write formatted _).bind fun _ => ?_
        refine (diffFiles formatted .format).bind fun comparison => ?_
        split
        next => exact pure _
        next => exact fail _ _

theorem compile (directives : Directives) :
    Own setup test (Trial.compile setup test directives) := by
  have names : (compilerInvocation setup.config test directives).Names test :=
    ⟨test.source, by simp [TestCase.files, TestCase.generated], by simp [compilerInvocation]⟩
  refine (exec names .compile).bind fun output => ?_
  cases output.crashed with
  | true =>
    simp only [if_true]
    exact (writeLog _).bind fun _ => throw_bind _ _
  | false =>
    cases output.success with
    | true => exact pure _
    | false =>
      exact (write (by simp [TestCase.files, TestCase.generated]) _).bind fun _ => pure _

theorem patch {file : Path} (own : file ∈ test.files) :
    Own setup test (Trial.patch setup file) :=
  (read own).bind fun _ => write own _

theorem convert (versions : VersionPair) {file : Path} (own : file ∈ test.files) :
    Own setup test (Trial.convert setup test versions file) := by
  have assembles : (assembly setup.config test versions file).Names test :=
    ⟨file, own, by simp [assembly]⟩
  have disassembles : (disassembly setup.config test versions file).Names test :=
    ⟨file, own, by simp [disassembly]⟩
  exact (execChecked assembles _).bind fun _ => (execChecked disassembles _).bind fun _ => pure _

theorem normalize (versions : Option VersionPair) :
    Own setup test (Trial.normalize setup test versions) := by
  have expected : test.expected ∈ test.files := by simp [TestCase.files, TestCase.generated]
  have artifact : test.artifact ∈ test.files := by simp [TestCase.files, TestCase.generated]
  have convertBoth (versions : VersionPair) : Own setup test (convertBoth setup test versions) :=
    (note (by decide) _).bind fun _ => (convert versions expected).bind fun _ =>
      (patch expected).bind fun _ => convert versions artifact
  refine (holds artifact).bind fun found => ?_
  cases found with
  | false => exact throw_bind _ _
  | true =>
    cases versions with
    | none => exact (pure ()).bind fun _ => patch artifact
    | some versions => exact (convertBoth versions).bind fun _ => patch artifact

theorem dumpSymbols : Own setup test (Trial.dumpSymbols setup test) := by
  have names : (symbolsInvocation setup.config test).Names test :=
    ⟨test.object, by simp [TestCase.files, TestCase.generated], by simp [symbolsInvocation]⟩
  refine (exec names .symbols).bind fun output => ?_
  split
  next => exact pure _
  next => exact fail _ _

theorem updateGolden (fixture : Fixture) (isAccepted : Bool) (listing : Option String) :
    Own setup test (Trial.updateGolden test fixture isAccepted listing : Trial φ Unit) := by
  have actual : (if isAccepted then test.artifact else test.negative) ∈ test.files := by
    cases isAccepted <;> simp [TestCase.files, TestCase.generated]
  exact (read actual).bind fun _ => (write (by simp [TestCase.files]) _).bind fun _ =>
    note (by decide) _

theorem compareSymbols (fixture : Fixture) :
    Own setup test (Trial.compareSymbols setup options test fixture) := by
  unfold Trial.compareSymbols
  split
  next => exact pure _
  next =>
    refine (note (by decide) _).bind fun _ => dumpSymbols.bind fun listing => ?_
    split
    next => exact pure _
    next =>
      split
      next => exact (updateGolden fixture true _).bind fun _ => pure _
      next => exact fail _ _

theorem compareActual (fixture : Fixture) (isAccepted : Bool) :
    Own setup test (Trial.compareActual setup options test fixture isAccepted) := by
  have actual : (if isAccepted then test.artifact else test.negative) ∈ test.files := by
    cases isAccepted <;> simp [TestCase.files, TestCase.generated]
  refine (diffFiles actual .diff).bind fun comparison => ?_
  cases comparison with
  | agree =>
    cases isAccepted with
    | true => exact compareSymbols fixture
    | false => exact pure _
  | differ diff =>
    dsimp only
    split
    next => exact (updateGolden fixture isAccepted none).bind fun _ => pure _
    next => exact fail _ _

theorem drive : Own setup test (Trial.drive setup options test) := by
  refine load.bind fun fixture => (materialize fixture).bind fun _ => ?_
  refine (note (by decide) _).bind fun _ => (checkFormat _).bind fun _ => ?_
  refine (note (by decide) _).bind fun _ => (compile _).bind fun verdict => ?_
  split
  next =>
    exact (note (by decide) _).bind fun _ => (normalize _).bind fun _ => compareActual fixture _
  next => exact compareActual fixture _

theorem dump : Own setup test (Trial.dump test) :=
  load.bind fun fixture => (materialize fixture).bind fun _ => pure _

end Own

end Trial

end GoldenSuite
