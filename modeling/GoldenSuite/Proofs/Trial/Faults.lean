import GoldenSuite.Proofs.Trial.Rewriting
import GoldenSuite.Proofs.Trial.Transcript

set_option autoImplicit false

namespace GoldenSuite

def Exit.Crashes : Exit → Prop
  | signal _ => True
  | status code => code < 0
  | timedOut => False

inductive Failure.IsMismatch : Failure → Prop
  | format : IsMismatch .formatMismatch
  | artifact : IsMismatch .artifactMismatch
  | symbols : IsMismatch .symbolMismatch

theorem Output.crashed_iff {output : Output} : output.crashed = true ↔ output.exit.Crashes := by
  rcases exited : output.exit with code | number | _ <;> simp [Output.crashed, Exit.Crashes, exited]

namespace Trial

namespace Site

def converts : Site → Bool
  | assembler _ _ => true
  | disassembler _ _ => true
  | _ => false

def compares : Site → Bool
  | formatDiff => true
  | diff _ => true
  | _ => false

-- Where a positive status is an answer like any other.
def mayDecline : Site → Bool
  | formatter _ => true
  | compiler => true
  | _ => false

def lists : Site → Bool
  | symbols _ => true
  | _ => false

end Site

/-- An answer with which the tool has failed, and the failure of the test that this is. -/
inductive Fault (site : Site) (invocation : Invocation) :
    Except LaunchError Output → Failure → Prop
  | unlaunched (error : LaunchError) :
      Fault site invocation (.error error) (.tool site.stage error.message)
  | overdue {output : Output} (late : output.exit = .timedOut) :
      Fault site invocation (.ok output) (.timeout site.stage)
  | unconverted {output : Output} (converts : site.converts = true)
      (inTime : output.exit ≠ .timedOut) (unsuccessful : output.exit ≠ .status 0) :
      Fault site invocation (.ok output) (.tool site.stage (complaint invocation output))
  | undecided {output : Output} (compares : site.compares = true)
      (inTime : output.exit ≠ .timedOut) (notSame : output.exit ≠ .status 0)
      (notDifferent : output.exit ≠ .status 1) :
      Fault site invocation (.ok output) (.tool site.stage (complaint invocation output))
  | crashed {output : Output} (mayDecline : site.mayDecline = true)
      (crash : output.exit.Crashes) :
      Fault site invocation (.ok output) (.crash site.stage)
  | unlisted {output : Output} (lists : site.lists = true) (inTime : output.exit ≠ .timedOut)
      (unsuccessful : output.exit ≠ .status 0) : Fault site invocation (.ok output) .noSymbols

theorem Fault.not_isMismatch {site : Site} {invocation : Invocation}
    {answer : Except LaunchError Output} {failure : Failure}
    (fault : Fault site invocation answer failure) : ¬ failure.IsMismatch := by
  intro mismatch
  cases fault <;> cases mismatch

variable {φ : Type}

section Tools

variable {stage : Stage} {invocation : Invocation} {output : Output}

theorem judge_fails (notSame : output.exit ≠ .status 0) (notDifferent : output.exit ≠ .status 1) :
    (judge stage invocation output : Trial φ Comparison) =
      throw (.tool stage (complaint invocation output)) := by
  unfold judge
  split
  next same => exact absurd (Output.code?_eq_some_iff.1 same) notSame
  next different => exact absurd (Output.code?_eq_some_iff.1 different) notDifferent
  next => rfl

theorem require_fails (unsuccessful : output.exit ≠ .status 0) :
    (require stage invocation output : Trial φ Unit) =
      throw (.tool stage (complaint invocation output)) := by
  simp [require, Output.success, unsuccessful]

def received (stage : Stage) : Except LaunchError Output → Except Failure Output
  | .ok output => if output.timedOut then .error (.timeout stage) else .ok output
  | .error error => .error (.tool stage error.message)

theorem exec_outcome (setup : Setup φ) (world : World φ) :
    (attempt (exec setup stage invocation) world).1 =
      received stage (setup.tools world.calls invocation world.files).1 := by
  have receives : Ensures (· = world.scene) (exec setup stage invocation)
      (fun output _ =>
        received stage (setup.tools world.calls invocation world.files).1 = .ok output)
      fun failure _ =>
        received stage (setup.tools world.calls invocation world.files).1 = .error failure := by
    refine Ensures.exec ?_
    rintro _ rfl
    simp only [World.scene]
    cases (setup.tools world.calls invocation world.files).1 with
    | error error => rfl
    | ok output =>
      dsimp only
      split
      next late => simp [received, late]
      next inTime => simp [received, inTime]
  have ends := receives world rfl
  rcases ran : attempt (exec setup stage invocation) world with ⟨failure | output, left⟩
  next =>
    rw [ran] at ends
    exact ends.symm
  next =>
    rw [ran] at ends
    exact ends.symm

-- A tool has failed before its exit is judged, or it ended in time.
theorem Fault.received_or_inTime {site : Site} {answer : Except LaunchError Output}
    {failure : Failure} (fault : Fault site invocation answer failure) :
    received site.stage answer = .error failure ∨
      ∃ output, answer = .ok output ∧ output.exit ≠ .timedOut := by
  cases fault with
  | unlaunched error => exact .inl rfl
  | overdue late => exact .inl (by simp [received, Output.timedOut, late])
  | unconverted _ inTime _ => exact .inr ⟨_, rfl, inTime⟩
  | undecided _ inTime _ _ => exact .inr ⟨_, rfl, inTime⟩
  | unlisted _ inTime _ => exact .inr ⟨_, rfl, inTime⟩
  | crashed _ crash =>
    refine .inr ⟨_, rfl, fun late => ?_⟩
    rw [late] at crash
    exact crash

end Tools

variable [FileSystem φ] {setup : Setup φ} {options : RunOptions} {test : TestCase}
  {fixture : Fixture}

theorem fail_outcome {α : Type} (text : String) (failure : Failure) (world : World φ) :
    (attempt (do
      writeLog test text
      throw failure : Trial φ α) world).1 = .error failure := rfl

theorem turn_fault {site : Site} {invocation : Invocation} {output : Output} {failure : Failure}
    (fault : Fault site invocation (.ok output) failure) (inTime : output.exit ≠ .timedOut)
    (world : World φ) :
    (attempt (turn setup options test fixture invocation site output) world).1 =
      .error failure := by
  cases fault with
  | overdue late => exact absurd late inTime
  | unconverted converts _ unsuccessful =>
    cases site with
    | assembler versions isArtifact => rw [turn, require_fails unsuccessful]; rfl
    | disassembler versions isArtifact => rw [turn, require_fails unsuccessful]; rfl
    | _ => cases converts
  | undecided compares _ notSame notDifferent =>
    cases site with
    | formatDiff => rw [turn, judge_fails notSame notDifferent]; rfl
    | diff isAccepted => rw [turn, judge_fails notSame notDifferent]; rfl
    | _ => cases compares
  | crashed mayDecline crash =>
    have crashed := Output.crashed_iff.2 crash
    cases site with
    | formatter program =>
      simp only [turn, afterFormatter, crashed, if_true]
      exact fail_outcome _ _ world
    | compiler =>
      simp only [turn, afterCompiler, crashed, if_true]
      exact fail_outcome _ _ world
    | _ => cases mayDecline
  | unlisted lists _ unsuccessful =>
    cases site with
    | symbols expected =>
      have failed : output.success = false := by simp [Output.success, unsuccessful]
      simp only [turn, afterSymbols, failed, Bool.false_eq_true, if_false]
      exact fail_outcome _ _ world
    | _ => cases lists

theorem step_fault {site : Site} {world : World φ} {failure : Failure}
    (fault : let call := exchange setup test fixture site world.scene
      Fault site call.invocation call.answer failure) :
    (attempt (step setup options test fixture site) world).1 = .error failure := by
  let invocation := site.invocation setup.config test (Directives.ofSource fixture.source)
  have outcome : (attempt (exec setup site.stage invocation) world).1 =
      received site.stage (setup.tools world.calls invocation world.files).1 :=
    exec_outcome setup world
  change Fault site invocation (setup.tools world.calls invocation world.files).1 failure at fault
  rw [step, attempt_bind]
  obtain received | ⟨output, answer, inTime⟩ := fault.received_or_inTime
  next =>
    obtain ⟨left, ran⟩ : ∃ left, attempt (exec setup site.stage invocation) world =
        (.error failure, left) :=
      ⟨_, Prod.ext (outcome.trans received) rfl⟩
    rw [ran]
  next =>
    rw [answer] at fault outcome
    have came : received site.stage (.ok output) = .ok output := by
      simp [received, Output.timedOut, inTime]
    obtain ⟨left, ran⟩ : ∃ left, attempt (exec setup site.stage invocation) world =
        (.ok output, left) :=
      ⟨_, Prod.ext (outcome.trans came) rfl⟩
    rw [ran]
    exact turn_fault fault inTime left

omit [FileSystem φ] in
theorem single_of_append_cons {only call : Exchange φ} {before after : List (Exchange φ)}
    (among : [only] = before ++ call :: after) : before = [] ∧ call = only ∧ after = [] := by
  cases before with
  | nil =>
    obtain ⟨rfl, rfl⟩ := List.cons.inj among
    exact ⟨rfl, rfl, rfl⟩
  | cons first before => simp at among

theorem stepped_eq_of_fault {site : Site} {world left : World φ} {failure : Failure}
    {outcome : Except Failure (Turn site.later)}
    (stepped : attempt (step setup options test fixture site) world = (outcome, left))
    (fault : let call := exchange setup test fixture site world.scene
      Fault site call.invocation call.answer failure) : outcome = .error failure := by
  have failed : (attempt (step setup options test fixture site) world).1 = .error failure :=
    step_fault fault
  rwa [stepped] at failed

theorem walk_fault (site : Site) (world : World φ) :
    let run := attempt (walk setup options test fixture site) world
    ∀ before call after failure,
      transcriptFrom setup options test fixture site world = before ++ call :: after →
        Fault call.site call.invocation call.answer failure →
          after = [] ∧ run.1 = .error failure := by
  refine walk_induct (motive := fun _ _ exchanges outcome _ =>
    ∀ before call after failure, exchanges = before ++ call :: after →
      Fault call.site call.invocation call.answer failure →
        after = [] ∧ outcome = .error failure) ?_ ?_ ?_ site world
  next =>
    intro site world failure left stepped before call after expected among fault
    obtain ⟨-, rfl, rfl⟩ := single_of_append_cons among
    cases stepped_eq_of_fault stepped fault
    exact ⟨rfl, rfl⟩
  next =>
    intro site world pass left stepped before call after expected among fault
    obtain ⟨-, rfl, rfl⟩ := single_of_append_cons among
    cases stepped_eq_of_fault stepped fault
  next =>
    intro site world next fewer left exchanges outcome reached stepped onward before call after
      failure among fault
    cases before with
    | nil =>
      obtain ⟨rfl, -⟩ := List.cons.inj among
      cases stepped_eq_of_fault stepped fault
    | cons first before => exact onward before call after failure (List.cons.inj among).2 fault

open Contents

variable [Contents φ]

-- What only tools and an update of the fixture can change, because no generated file is there.
theorem ownWrites_bytes? {path : Path}
    (apart : path.components ∉ test.generated.map Path.components) :
    OwnWrites (fun files after : φ => bytes? after path = bytes? files path) test where
  refl _ := rfl
  trans first second := second.trans first
  written own files data := bytes?_write_generated apart own files data
  refused failed := bytes?_refused failed path

variable (setup) in
/-- If the tool of some call fails, then this is the last call of the test, the test fails with the
failure that goes with that call, which is no mismatch, and the fixture changes in no other way than
by the calls. -/
theorem drive_fault (options : RunOptions)
    (apart : test.fixture.components ∉ test.generated.map Path.components) (world : World φ) :
    let run := attempt (drive setup options test) world
    let calls := transcript setup options test world
    run.2.calls = world.calls ++ calls.map Exchange.invocation ∧
      ∀ before call after failure, calls = before ++ call :: after →
        Fault call.site call.invocation call.answer failure →
          after = [] ∧ run.1 = .error failure ∧ ¬ failure.IsMismatch ∧
            Recorded setup.tools
              (fun files left => bytes? left test.fixture = bytes? files test.fixture)
              world.scene calls run.2.scene := by
  refine ⟨calls_drive world, ?_⟩
  intro before call after failure among fault
  have ends : after = [] ∧ (attempt (drive setup options test) world).1 = .error failure := by
    rw [attempt_drive]
    rw [transcript] at among
    rcases started : attempt (start setup test) world with ⟨failed | ⟨fixture, site⟩, left⟩
    next => simp [started] at among
    next =>
      rw [started] at among
      exact walk_fault site left before call after failure among fault
  refine ⟨ends.1, ends.2, fault.not_isMismatch, ?_⟩
  refine drive_recorded (ownWrites_bytes? apart) world fun update updated => ?_
  rw [ends.2] at updated
  cases updated

section Samples

-- Every tool is ended by a signal.
def crashingSetup : Setup Store where
  config := { compiler := "cc", formatter := none, volatileMarkers := [] }
  volatile := ⟨[]⟩
  tools := fun _ _ files => (.ok ⟨.signal (some 11), "", "ended"⟩, files)

-- A compiler that crashes is called once; asked to update, the test fails all the same.
theorem crashingSetup_fails :
    let run := attempt (drive crashingSetup { update := true } sampleTest) staleWorld
    ∃ call : Exchange Store, call.site = .compiler ∧
      run.2.calls = staleWorld.calls ++ [call.invocation] ∧ run.1 = .error (.crash .compile) ∧
        Recorded crashingSetup.tools
          (fun files left => bytes? left sampleTest.fixture = bytes? files sampleTest.fixture)
          staleWorld.scene [call] run.2.scene := by
  have begun : (attempt (start crashingSetup sampleTest) staleWorld).1.toOption.map Prod.snd =
      some .compiler := by
    decide +kernel
  obtain ⟨calls, faults⟩ := drive_fault crashingSetup { update := true }
    sampleTest_apart.fixture_notMem staleWorld
  rcases started : attempt (start crashingSetup sampleTest) staleWorld with
    ⟨failure | ⟨fixture, site⟩, left⟩
  next => simp [started, Except.toOption] at begun
  next =>
    obtain rfl : site = .compiler := by simpa [started, Except.toOption] using begun
    let call := exchange crashingSetup sampleTest fixture .compiler left.scene
    obtain ⟨more, among⟩ : ∃ more,
        transcript crashingSetup { update := true } sampleTest staleWorld = [] ++ call :: more := by
      simp only [transcript, started]
      rw [transcriptFrom]
      exact ⟨_, rfl⟩
    have crash : Fault call.site call.invocation call.answer (.crash .compile) :=
      .crashed rfl trivial
    obtain ⟨rfl, failed, -, recorded⟩ := faults [] call more _ among crash
    rw [among] at calls recorded
    exact ⟨call, rfl, calls, failed, recorded⟩

end Samples

end Trial

end GoldenSuite
