import GoldenSuite.World

set_option autoImplicit false

namespace GoldenSuite

@[ext]
structure Scene (φ : Type) where
  files : φ
  calls : List Invocation

def World.scene {φ : Type} (world : World φ) : Scene φ := ⟨world.files, world.calls⟩

namespace Scene

variable {φ : Type}

def Writes [FileSystem φ] (path : Path) (text : String) (before after : Scene φ) : Prop :=
  FileSystem.write before.files path text.toUTF8 = (.ok (), after.files) ∧
    after.calls = before.calls

def Answers (tools : Tools φ) (invocation : Invocation) (output : Output)
    (before after : Scene φ) : Prop :=
  tools before.calls invocation before.files = (.ok output, after.files) ∧
    after.calls = before.calls ++ [invocation]

def Exits (tools : Tools φ) (invocation : Invocation) (code : Int)
    (before after : Scene φ) : Prop :=
  ∃ output, Answers tools invocation output before after ∧ output.exit = .status code

end Scene

abbrev Passage (φ α : Type) := Scene φ → α → Scene φ → Prop

namespace Trial

variable {φ α β : Type}

def attempt (trial : Trial φ α) (world : World φ) : Except Failure α × World φ :=
  Id.run (StateT.run (ExceptT.run trial) world)

@[simp] theorem attempt_pure (answer : α) (world : World φ) :
    attempt (pure answer) world = (.ok answer, world) := rfl

@[simp] theorem attempt_throw (failure : Failure) (world : World φ) :
    attempt (throw failure : Trial φ α) world = (.error failure, world) := rfl

theorem attempt_get (world : World φ) : attempt get world = (.ok world, world) := rfl

theorem attempt_lift (action : Action φ α) (world : World φ) :
    attempt (ExceptT.lift action) world = (.ok (action world).1, (action world).2) := rfl

theorem attempt_bind (first : Trial φ α) (next : α → Trial φ β) (world : World φ) :
    attempt (first >>= next) world =
      match attempt first world with
      | (.ok answer, left) => attempt (next answer) left
      | (.error failure, left) => (.error failure, left) := by
  simp only [attempt, ExceptT.run_bind, StateT.run_bind, Id.run_bind]
  obtain ⟨answer | failure, left⟩ := (StateT.run (ExceptT.run first) world).run <;> rfl

-- A trial in two parts comes through just where both do.
theorem attempt_bind_eq_ok_iff {first : Trial φ α} {next : α → Trial φ β} {world left : World φ}
    {answer : β} :
    attempt (first >>= next) world = (.ok answer, left) ↔
      ∃ found between, attempt first world = (.ok found, between) ∧
        attempt (next found) between = (.ok answer, left) := by
  rw [attempt_bind]
  rcases attempt first world with ⟨failure | found, between⟩
  next => simp
  next =>
    constructor
    next => exact fun came => ⟨found, between, rfl, came⟩
    next => rintro ⟨_, _, ⟨⟩, came⟩; exact came

theorem attempt_onFiles (change : φ → Except FileError α × φ) (world : World φ) :
    attempt (onFiles change) world =
      match change world.files with
      | (.ok answer, files) => (.ok answer, { world with files })
      | (.error error, files) => (.error (.io error), { world with files }) := by
  simp only [onFiles, attempt_bind, attempt_lift]
  rcases changed : change world.files with ⟨error | found, files⟩
  next => simp [Action.onFiles, changed]
  next => simp [Action.onFiles, changed]

/-- The trial comes through just where the passage leads, whatever stands in the log. -/
def Meets (trial : Trial φ α) (passage : Passage φ α) : Prop :=
  ∀ world answer after,
    (∃ left, attempt trial world = (.ok answer, left) ∧ left.scene = after) ↔
      passage world.scene answer after

namespace Meets

theorem outcome_eq_ok_iff {trial : Trial φ α} {passage : Passage φ α}
    (meets : Meets trial passage) (world : World φ) (answer : α) :
    (attempt trial world).1 = .ok answer ↔ ∃ after, passage world.scene answer after := by
  constructor
  next =>
    intro came
    exact ⟨_, (meets world answer _).1 ⟨(attempt trial world).2, Prod.ext came rfl, rfl⟩⟩
  next =>
    rintro ⟨after, reached⟩
    obtain ⟨left, came, -⟩ := (meets world answer after).2 reached
    rw [came]

theorem congr {trial : Trial φ α} {passage other : Passage φ α} (meets : Meets trial passage)
    (same : ∀ before answer after, passage before answer after ↔ other before answer after) :
    Meets trial other := fun world answer after =>
  (meets world answer after).trans (same world.scene answer after)

theorem pure (answer : α) :
    Meets (Pure.pure answer : Trial φ α) fun before found after =>
      found = answer ∧ after = before := by
  intro world found after
  constructor
  next =>
    rintro ⟨left, came, rfl⟩
    cases came
    exact ⟨rfl, rfl⟩
  next =>
    rintro ⟨rfl, rfl⟩
    exact ⟨world, rfl, rfl⟩

-- A trial that always fails comes through nowhere.
theorem never {trial : Trial φ α}
    (fails : ∀ world, ∃ failure left, attempt trial world = (.error failure, left)) :
    Meets trial fun _ _ _ => False := by
  intro world answer after
  obtain ⟨failure, left, failed⟩ := fails world
  simp [failed]

theorem throw (failure : Failure) :
    Meets (MonadExcept.throw failure : Trial φ α) fun _ _ _ => False :=
  never fun world => ⟨failure, world, rfl⟩

theorem throw_bind (failure : Failure) (next : α → Trial φ β) :
    Meets (MonadExcept.throw failure >>= next) fun _ _ _ => False :=
  never fun world => ⟨failure, world, rfl⟩

-- Writing the log is never in the way of a failure.
theorem log_bind_fails [FileSystem φ] (test : TestCase) {text : String} {next : Unit → Trial φ α}
    (fails : ∀ answer, Meets (next answer) fun _ _ _ => False) :
    Meets (Trial.writeLog test text >>= next) fun _ _ _ => False := by
  intro world answer after
  rw [attempt_bind, Trial.writeLog, attempt_lift]
  exact fails _ _ answer after

theorem bind {first : Trial φ α} {next : α → Trial φ β} {head : Passage φ α}
    {tail : α → Passage φ β} (firstMeets : Meets first head)
    (nextMeets : ∀ answer, (∃ before after, head before answer after) →
      Meets (next answer) (tail answer)) :
    Meets (first >>= next) fun before found after =>
      ∃ answer between, head before answer between ∧ tail answer between found after := by
  intro world found after
  simp only [attempt_bind_eq_ok_iff]
  constructor
  next =>
    rintro ⟨left, ⟨answer, between, reached, came⟩, rfl⟩
    have step := (firstMeets _ _ _).1 ⟨between, reached, rfl⟩
    exact ⟨answer, between.scene, step,
      (nextMeets answer ⟨_, _, step⟩ _ _ _).1 ⟨left, came, rfl⟩⟩
  next =>
    rintro ⟨answer, _, step, onward⟩
    obtain ⟨between, reached, rfl⟩ := (firstMeets _ _ _).2 step
    obtain ⟨left, arrived, rfl⟩ := (nextMeets answer ⟨_, _, step⟩ _ _ _).2 onward
    exact ⟨left, ⟨answer, between, reached, arrived⟩, rfl⟩

theorem bindTo {first : Trial φ α} {next : α → Trial φ β} {head : Passage φ α}
    (tail : α → Passage φ β) (firstMeets : Meets first head)
    (nextMeets : ∀ answer, (∃ before after, head before answer after) →
      Meets (next answer) (tail answer)) :
    Meets (first >>= next) fun before found after =>
      ∃ answer between, head before answer between ∧ tail answer between found after :=
  bind firstMeets nextMeets

theorem note (level : Verbosity) (text : String) :
    Meets (Trial.note level text : Trial φ Unit) fun before _ after => after = before := by
  intro world answer after
  constructor
  next =>
    rintro ⟨left, came, rfl⟩
    cases came
    rfl
  next =>
    rintro rfl
    exact ⟨{ world with log := world.log.add level text }, rfl, rfl⟩

-- Noting something first changes nothing.
theorem note_bind {level : Verbosity} {text : String} {next : Unit → Trial φ α}
    {passage : Passage φ α} (meets : ∀ answer, Meets (next answer) passage) :
    Meets (Trial.note level text >>= next) passage :=
  (bind (note level text) fun answer _ => meets answer).congr fun before answer after => by simp

theorem onFiles (change : φ → Except FileError α × φ) :
    Meets (Trial.onFiles change) fun before answer after =>
      change before.files = (.ok answer, after.files) ∧ after.calls = before.calls := by
  intro world answer after
  rw [attempt_onFiles]
  rcases changed : change world.files with ⟨error | found, files⟩
  next => simp [World.scene, changed]
  next =>
    constructor
    next =>
      rintro ⟨left, came, rfl⟩
      cases came
      exact ⟨changed, rfl⟩
    next =>
      rintro ⟨same, calls⟩
      cases changed.symm.trans same
      exact ⟨_, rfl, Scene.ext rfl calls.symm⟩

theorem read [FileSystem φ] (path : Path) :
    Meets (Trial.read path : Trial φ String) fun before text after =>
      FileSystem.read before.files path = .ok text ∧ after = before := by
  refine (onFiles _).congr fun before text after => ?_
  simp only [Prod.mk.injEq, Scene.ext_iff, eq_comm (a := before.files), and_assoc]

theorem write [FileSystem φ] (path : Path) (text : String) :
    Meets (Trial.write path text : Trial φ Unit) fun before _ after =>
      Scene.Writes path text before after :=
  onFiles _

theorem holds [FileSystem φ] (path : Path) :
    Meets (Trial.holds path : Trial φ Bool) fun before found after =>
      found = FileSystem.holds before.files path ∧ after = before := by
  intro world found after
  constructor
  next =>
    rintro ⟨left, came, rfl⟩
    cases came
    exact ⟨rfl, rfl⟩
  next =>
    rintro ⟨rfl, rfl⟩
    exact ⟨world, rfl, rfl⟩

-- A call as such always comes through, be it with a tool that did not start.
theorem call (tools : Tools φ) (invocation : Invocation) :
    Meets (ExceptT.lift (Action.call tools invocation)) fun before answer after =>
      tools before.calls invocation before.files = (answer, after.files) ∧
        after.calls = before.calls ++ [invocation] := by
  intro world answer after
  rw [attempt_lift]
  constructor
  next =>
    rintro ⟨left, came, rfl⟩
    cases came
    exact ⟨rfl, rfl⟩
  next =>
    rintro ⟨answered, calls⟩
    simp only [World.scene] at answered calls
    refine ⟨{ world with files := after.files, calls := after.calls }, ?_, rfl⟩
    simp only [Action.call, answered, calls]

theorem judge {first : Trial φ α} {next : α → Trial φ β} {head : Passage φ α}
    (judged : α → β → Prop) (firstMeets : Meets first head)
    (nextMeets : ∀ answer, (∃ before after, head before answer after) →
      Meets (next answer) fun before found after => judged answer found ∧ after = before) :
    Meets (first >>= next) fun before found after =>
      ∃ answer, head before answer after ∧ judged answer found := by
  refine (bind firstMeets nextMeets).congr fun before found after => ?_
  constructor
  next =>
    rintro ⟨answer, between, reached, fits, rfl⟩
    exact ⟨answer, reached, fits⟩
  next =>
    rintro ⟨answer, reached, fits⟩
    exact ⟨answer, after, reached, fits, rfl⟩

theorem exec (setup : Setup φ) (stage : Stage) (invocation : Invocation) :
    Meets (Trial.exec setup stage invocation) fun before output after =>
      Scene.Answers setup.tools invocation output before after ∧ output.exit ≠ .timedOut := by
  refine note_bind fun _ => ?_
  refine (judge (fun answer output => answer = .ok output ∧ output.exit ≠ .timedOut)
    (call setup.tools invocation) fun answer _ => ?_).congr fun before output after => ?_
  next =>
    rcases answer with error | output
    next => exact (throw _).congr (by simp)
    next =>
      by_cases late : output.exit = .timedOut
      next =>
        refine (never fun world => ?_).congr (by simp +contextual [late, eq_comm])
        simp [Output.timedOut, late]
      next =>
        simp only [Output.timedOut, late, beq_iff_eq, if_false]
        refine note_bind fun _ => (pure output).congr fun before found after => ?_
        simp only [Except.ok.injEq]
        grind
  next =>
    constructor
    next =>
      rintro ⟨_, answered, rfl, inTime⟩
      exact ⟨answered, inTime⟩
    next =>
      rintro ⟨answered, inTime⟩
      exact ⟨.ok output, answered, rfl, inTime⟩

theorem execChecked (setup : Setup φ) (stage : Stage) (invocation : Invocation) :
    Meets (Trial.execChecked setup stage invocation) fun before output after =>
      Scene.Answers setup.tools invocation output before after ∧ output.exit = .status 0 := by
  refine (judge (fun output found => found = output ∧ output.exit = .status 0)
    (exec setup stage invocation) fun output _ => ?_).congr fun before output after => ?_
  next =>
    by_cases fine : output.exit = .status 0
    next =>
      simp only [Output.success, fine, beq_self_eq_true, if_true]
      exact (pure output).congr fun before found after => by simp
    next =>
      simp only [Output.success, beq_iff_eq, fine, if_false]
      exact (throw _).congr (by simp)
  next =>
    constructor
    next =>
      rintro ⟨_, ⟨answered, -⟩, rfl, fine⟩
      exact ⟨answered, fine⟩
    next =>
      rintro ⟨answered, fine⟩
      exact ⟨output, ⟨answered, by simp [fine]⟩, rfl, fine⟩

end Meets

end Trial

end GoldenSuite
