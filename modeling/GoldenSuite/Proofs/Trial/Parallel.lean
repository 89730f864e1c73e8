import GoldenSuite.Proofs.Files.Separate
import GoldenSuite.Proofs.Trial.Assertion
import GoldenSuite.Proofs.Trial.Outcome
import GoldenSuite.Proofs.Trial.Own

set_option autoImplicit false

namespace GoldenSuite

namespace Trial

variable {φ : Type}

def Twin {α : Type} (related : φ → φ → Prop) (run : World φ → α × World φ) : Prop :=
  ∀ one other, related one.files other.files →
    (run one).1 = (run other).1 ∧ related (run one).2.files (run other).2.files

namespace Twin

variable {related : φ → φ → Prop} {α β : Type}

theorem onFiles {change : φ → Except FileError α × φ}
    (changed : ∀ left right, related left right →
      (change left).1 = (change right).1 ∧ related (change left).2 (change right).2) :
    Twin related (attempt (Trial.onFiles change)) := by
  intro one other known
  obtain ⟨answers, after⟩ := changed one.files other.files known
  rw [attempt_onFiles, attempt_onFiles]
  generalize change one.files = left at answers after ⊢
  generalize change other.files = right at answers after ⊢
  obtain ⟨answer, files⟩ := left
  obtain ⟨answer', files'⟩ := right
  obtain rfl : answer = answer' := answers
  cases answer with
  | error error => exact ⟨rfl, after⟩
  | ok answer => exact ⟨rfl, after⟩

theorem bind {first : Trial φ α} {next : α → Trial φ β} (firstTwin : Twin related (attempt first))
    (nextTwin : ∀ answer, Twin related (attempt (next answer))) :
    Twin related (attempt (first >>= next)) := by
  intro one other known
  obtain ⟨answers, between⟩ := firstTwin one other known
  rw [attempt_bind, attempt_bind]
  generalize attempt first one = left at answers between ⊢
  generalize attempt first other = right at answers between ⊢
  obtain ⟨answer, left⟩ := left
  obtain ⟨answer', right⟩ := right
  obtain rfl : answer = answer' := answers
  cases answer with
  | error failure => exact ⟨rfl, between⟩
  | ok answer => exact nextTwin answer left right between

end Twin

variable [FileSystem φ]

/-- Related file systems are the same to the actions of a test, and stay related. -/
structure Respects (related : φ → φ → Prop) (setup : Setup φ) (test : TestCase) : Prop where
  read {left right : φ} (known : related left right) {path : Path} (own : path ∈ test.files) :
    FileSystem.read left path = FileSystem.read right path
  holds {left right : φ} (known : related left right) {path : Path} (own : path ∈ test.files) :
    FileSystem.holds left path = FileSystem.holds right path
  write {left right : φ} (known : related left right) {path : Path} (own : path ∈ test.files)
      (data : ByteArray) :
    (FileSystem.write left path data).1 = (FileSystem.write right path data).1 ∧
      related (FileSystem.write left path data).2 (FileSystem.write right path data).2
  remove {left right : φ} (known : related left right) {path : Path} (own : path ∈ test.files) :
    (FileSystem.remove left path).1 = (FileSystem.remove right path).1 ∧
      related (FileSystem.remove left path).2 (FileSystem.remove right path).2
  call {left right : φ} (known : related left right) {invocation : Invocation}
      (names : invocation.Names test) (earlier later : List Invocation) :
    (setup.tools earlier invocation left).1 = (setup.tools later invocation right).1 ∧
      related (setup.tools earlier invocation left).2 (setup.tools later invocation right).2

namespace Respects

variable {related : φ → φ → Prop} {setup : Setup φ} {test : TestCase} {α : Type}

theorem writeLog (respects : Respects related setup test) (text : String) :
    Twin related (Action.writeLog test text) := by
  intro one other known
  have log : test.errorLog ∈ test.files := by simp [TestCase.files, TestCase.generated]
  have files (world : World φ) : (Action.writeLog test text world).2.files =
      (FileSystem.write world.files test.errorLog text.toUTF8).2 :=
    congrArg Scene.files (Action.scene_writeLog test text world)
  rw [files, files]
  exact ⟨rfl, (respects.write known log _).2⟩

theorem together (respects : Respects related setup test) {trial : Trial φ α}
    (own : Own setup test trial) : Twin related (attempt trial) := by
  induction own with
  | pure answer => exact fun one other known => ⟨rfl, known⟩
  | throw failure => exact fun one other known => ⟨rfl, known⟩
  | bind firstOwn nextOwn firstTwin nextTwin => exact firstTwin.bind nextTwin
  | note aside text => exact fun one other known => ⟨rfl, known⟩
  | read own => exact .onFiles fun left right known => ⟨respects.read known own, known⟩
  | holds own =>
    exact fun one other known => ⟨congrArg Except.ok (respects.holds known own), known⟩
  | write own text => exact .onFiles fun left right known => respects.write known own _
  | writeLog text =>
    intro one other known
    obtain ⟨-, after⟩ := respects.writeLog text one other known
    exact ⟨rfl, after⟩
  | call names =>
    intro one other known
    obtain ⟨answers, after⟩ := respects.call known names one.calls other.calls
    exact ⟨congrArg Except.ok answers, after⟩

theorem removeAll (respects : Respects related setup test) {paths : List Path}
    (own : paths ⊆ test.files) {left right : φ} (known : related left right) :
    related (TestCase.removeAll paths left).2 (TestCase.removeAll paths right).2 := by
  induction paths generalizing left right with
  | nil => exact known
  | cons path paths ih =>
    obtain ⟨here, others⟩ := List.cons_subset.1 own
    obtain ⟨answers, after⟩ := respects.remove known here
    rw [TestCase.files_removeAll, TestCase.files_removeAll]
    generalize FileSystem.remove left path = left' at answers after ⊢
    generalize FileSystem.remove right path = right' at answers after ⊢
    obtain ⟨answer, left'⟩ := left'
    obtain ⟨answer', right'⟩ := right'
    obtain rfl : answer = answer' := answers
    cases answer with
    | ok _ => exact ih others after
    | error error =>
      dsimp only
      split
      next => exact ih others after
      next => exact after

theorem cleanUp (respects : Respects related setup test) {one other : World φ}
    (known : related one.files other.files) :
    related (Action.cleanUp test one).2.files (Action.cleanUp test other).2.files := by
  have files (world : World φ) :
      (Action.cleanUp test world).2.files = (TestCase.removeAll test.generated world.files).2 :=
    congrArg Scene.files (Action.scene_cleanUp test world)
  rw [files, files]
  exact respects.removeAll TestCase.generated_subset_files known

theorem conclude (respects : Respects related setup test) (options : RunOptions)
    (outcome : Outcome) {one other : World φ} (known : related one.files other.files) :
    related (Action.conclude options test outcome one).2.files
      (Action.conclude options test outcome other).2.files := by
  unfold Action.conclude
  split
  next =>
    split
    next => exact known
    next => exact respects.cleanUp known
  next stage detail =>
    -- What is noted first is not part of the files.
    let noted (world : World φ) : World φ :=
      (Action.note .verbose s!"{test.fixture.text}: {stage.name} tool failed" world).2
    exact (respects.writeLog detail (noted one) (noted other) known).2
  next => exact known

theorem execute (respects : Respects related setup test) (options : RunOptions) :
    Twin related (Action.execute setup options test) := by
  intro one other known
  have driven : Twin related (attempt (drive setup options test)) := respects.together Own.drive
  obtain ⟨outcomes, after⟩ := driven one other known
  rw [execute_eq, execute_eq]
  dsimp only
  rw [← outcomes]
  exact ⟨rfl, respects.conclude options _ after⟩

end Respects

open Separate

variable [Separate φ] {setup : Setup φ} {test : TestCase}

/-- The tools have no memory; a call that names a file of the test goes by the files of the test,
and changes no others. -/
structure LocalTo (tools : Tools φ) (test : TestCase) : Prop where
  answers {invocation : Invocation} (names : invocation.Names test) {left right : φ}
      (same : SameAt test.files left right) (earlier later : List Invocation) :
    (tools earlier invocation left).1 = (tools later invocation right).1 ∧
      SameAt test.files (tools earlier invocation left).2 (tools later invocation right).2
  touches {invocation : Invocation} (names : invocation.Names test) (history : List Invocation)
      (files : φ) : SameOff test.files files (tools history invocation files).2

-- The same at the files of the test, and elsewhere as at the start of either side.
structure Beside (test : TestCase) (start start' left right : φ) : Prop where
  own : SameAt test.files left right
  left_kept : SameOff test.files start left
  right_kept : SameOff test.files start' right

theorem respects_beside (localTo : LocalTo setup.tools test) (start start' : φ) :
    Respects (Beside test start start') setup test where
  read known _ own := known.own.read_eq own
  holds known _ own := known.own.holds_eq own
  write known path own data :=
    have ⟨answers, same⟩ := known.own.write path data
    ⟨answers, same, known.left_kept.trans (write_sameOff own _ _),
      known.right_kept.trans (write_sameOff own _ _)⟩
  remove known _ own :=
    have ⟨answers, same⟩ := known.own.remove own
    ⟨answers, same, known.left_kept.trans (remove_sameOff own _),
      known.right_kept.trans (remove_sameOff own _)⟩
  call known _ names earlier later :=
    have ⟨answers, same⟩ := localTo.answers names known.own earlier later
    ⟨answers, same, known.left_kept.trans (localTo.touches names _ _),
      known.right_kept.trans (localTo.touches names _ _)⟩

theorem execute_local (localTo : LocalTo setup.tools test) (options : RunOptions)
    {one other : World φ} (same : SameAt test.files one.files other.files) :
    let run := Action.execute setup options test one
    let run' := Action.execute setup options test other
    run.1 = run'.1 ∧ SameAt test.files run.2.files run'.2.files ∧
      SameOff test.files one.files run.2.files := by
  obtain ⟨outcomes, after⟩ := (respects_beside localTo one.files other.files).execute options one
    other ⟨same, .refl _ _, .refl _ _⟩
  exact ⟨outcomes, after.own, after.left_kept⟩

end Trial

end GoldenSuite
