import GoldenSuite.Proofs.Trial.Own

set_option autoImplicit false

namespace GoldenSuite

namespace Log

@[simp] theorem shown_add_normal (log : Log) (text : String) :
    (log.add .normal text).shown = log.shown ++ [text] := by
  simp [add, shown, messagesAt, Verbosity.rank]

theorem shown_add_aside {level : Verbosity} (aside : level ≠ .normal) (log : Log) (text : String) :
    (log.add level text).shown = log.shown := by
  unfold add
  split
  next => simp [shown, messagesAt, aside]
  next => rfl

end Log

namespace World

variable {φ : Type}

def shown (world : World φ) : List String := world.log.shown

end World

-- The run adds nothing to what is shown.
def Silent {φ α : Type} (run : World φ → α × World φ) : Prop :=
  ∀ world, (run world).2.shown = world.shown

namespace Silent

open GoldenSuite.Action GoldenSuite.Trial

variable {φ α β : Type}

theorem bind {first : Action φ α} {next : α → Action φ β} (firstSilent : Silent first)
    (nextSilent : ∀ answer, Silent (next answer)) : Silent (first >>= next) :=
  fun world => (nextSilent _ _).trans (firstSilent world)

theorem pure (answer : α) : Silent (Pure.pure answer : Action φ α) := fun _ => rfl

theorem note {level : Verbosity} (aside : level ≠ .normal) (text : String) :
    Silent (Action.note level text : Action φ Unit) :=
  fun world => Log.shown_add_aside aside world.log text

theorem trialBind {first : Trial φ α} {next : α → Trial φ β} (firstSilent : Silent (attempt first))
    (nextSilent : ∀ answer, Silent (attempt (next answer))) :
    Silent (attempt (first >>= next)) := by
  intro world
  have before := firstSilent world
  rw [attempt_bind]
  rcases attempted : attempt first world with ⟨failure | answer, left⟩
  next => rwa [attempted] at before
  next =>
    rw [attempted] at before
    exact (nextSilent answer left).trans before

theorem onFiles (change : φ → Except FileError α × φ) :
    Silent (attempt (Trial.onFiles change)) := by
  intro world
  rw [attempt_onFiles]
  rcases change world.files with ⟨error | answer, files⟩
  next => rfl
  next => rfl

variable [FileSystem φ]

theorem writeLog (test : TestCase) (text : String) :
    Silent (Action.writeLog test text : Action φ Unit) := by
  intro world
  unfold Action.writeLog
  simp only [Bind.bind, StateT.bind, Action.onFiles]
  rcases FileSystem.write world.files test.errorLog text.toUTF8 with ⟨error | _, files⟩
  next => exact Silent.note (by decide) _ { world with files }
  next => rfl

theorem cleanUp (test : TestCase) : Silent (Action.cleanUp test : Action φ Unit) := by
  intro world
  unfold Action.cleanUp
  simp only [Bind.bind, StateT.bind, Action.onFiles]
  rcases test.clean world.files with ⟨error | count, files⟩
  next => exact Silent.note (by decide) _ { world with files }
  next => rfl

theorem conclude (options : RunOptions) (test : TestCase) (outcome : Outcome) :
    Silent (Action.conclude options test outcome : Action φ Unit) := by
  unfold Action.conclude
  split
  next =>
    split
    next => exact pure ()
    next => exact cleanUp test
  next => exact (note (by decide) _).bind fun _ => writeLog test _
  next => exact pure ()

variable {setup : Setup φ} {test : TestCase}

theorem ofOwn {trial : Trial φ α} (own : Own setup test trial) : Silent (attempt trial) := by
  induction own with
  | pure answer => exact fun world => rfl
  | throw failure => exact fun world => rfl
  | bind firstOwn nextOwn firstSilent nextSilent => exact firstSilent.trialBind nextSilent
  | note aside text => exact note aside text
  | read own => exact onFiles _
  | holds own => exact fun world => rfl
  | write own text => exact onFiles _
  | writeLog text => exact writeLog test text
  | call names => exact fun world => rfl

theorem execute (setup : Setup φ) (options : RunOptions) (test : TestCase) :
    Silent (Action.execute setup options test) := by
  have driven : Silent (attempt (Trial.drive setup options test)) := ofOwn Own.drive
  exact fun world => (conclude options test _ _).trans (driven world)

end Silent

end GoldenSuite
