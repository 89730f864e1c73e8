import GoldenSuite.Proofs.Trial.Agenda
import GoldenSuite.Proofs.Trial.Faults

set_option autoImplicit false

namespace GoldenSuite.Trial

variable {φ : Type}

def Exchange.succeeded (call : Exchange φ) : Bool :=
  match call.answer with
  | .ok output => output.success
  | .error _ => false

def Turn.site? {limit : Nat} : Turn limit → Option Site
  | call site _ => some site
  | pass _ => none

def LeadsTo {limit : Nat} (next : Option Site) (trial : Trial φ (Turn limit)) : Prop :=
  ∀ world turn left, attempt trial world = (.ok turn, left) → turn.site? = next

namespace LeadsTo

variable {α : Type} {limit : Nat} {next : Option Site}

theorem pure {turn : Turn limit} (goes : turn.site? = next) :
    LeadsTo next (Pure.pure turn : Trial φ (Turn limit)) := by
  rintro world _ left ⟨⟩
  exact goes

theorem throw (failure : Failure) : LeadsTo next (throw failure : Trial φ (Turn limit)) := by
  rintro world turn left ⟨⟩

theorem bind {first : Trial φ α} {more : α → Trial φ (Turn limit)} {fits : α → Prop}
    (comes : ∀ world answer left, attempt first world = (.ok answer, left) → fits answer)
    (leads : ∀ answer, fits answer → LeadsTo next (more answer)) :
    LeadsTo next (first >>= more) := by
  intro world turn left came
  obtain ⟨answer, between, begun, onward⟩ := attempt_bind_eq_ok_iff.1 came
  exact leads answer (comes world answer between begun) between turn left onward

theorem andThen {first : Trial φ α} {more : α → Trial φ (Turn limit)}
    (leads : ∀ answer, LeadsTo next (more answer)) : LeadsTo next (first >>= more) :=
  bind (fun _ _ _ _ => trivial) fun answer _ => leads answer

theorem toCompiler {test : TestCase} (fewer : 6 < limit) :
    LeadsTo (some .compiler) (Trial.toCompiler test fewer : Trial φ (Turn limit)) :=
  andThen fun _ => pure rfl

theorem judge_comes {stage : Stage} {invocation : Invocation} {output : Output}
    {world left : World φ} {comparison : Comparison}
    (came : attempt (Trial.judge stage invocation output) world = (.ok comparison, left)) :
    comparison = .agree ∧ output.success = true ∨
      ∃ diff, comparison = .differ diff ∧ output.success = false := by
  unfold Trial.judge at came
  split at came
  next same =>
    cases came
    exact .inl ⟨rfl, by simp [Output.success_of_status (Output.code?_eq_some_iff.1 same)]⟩
  next different =>
    cases came
    exact .inr ⟨_, rfl, by simp [Output.success_of_status (Output.code?_eq_some_iff.1 different)]⟩
  next => cases came

variable [FileSystem φ] {setup : Setup φ} {options : RunOptions} {test : TestCase}
  {fixture : Fixture}

theorem fail (text : String) (failure : Failure) :
    LeadsTo next (do
      Trial.writeLog test text
      MonadExcept.throw failure : Trial φ (Turn limit)) :=
  andThen fun _ => throw failure

theorem afterFormatter (program : String) (output : Output) :
    LeadsTo (next? options fixture output.success (.formatter program))
      (Trial.afterFormatter test output : Trial φ (Turn 8)) := by
  unfold Trial.afterFormatter
  split
  next => exact fail _ _
  next =>
    split
    next success => exact andThen fun _ => pure (by simp [Turn.site?, next?, success])
    next declined =>
      have next : next? options fixture output.success (.formatter program) = some .compiler := by
        simp [next?, declined]
      exact next ▸ toCompiler _

theorem afterCompiler (output : Output) :
    LeadsTo (next? options fixture output.success .compiler)
      (Trial.afterCompiler setup options test output) := by
  unfold Trial.afterCompiler
  split
  next => exact fail _ _
  next =>
    split
    next success =>
      refine andThen fun _ => andThen fun found => ?_
      cases found with
      | false => exact throw _
      | true =>
        cases chosen : options.versions with
        | none => exact andThen fun _ => pure (by simp [Turn.site?, next?, success, chosen])
        | some versions =>
          exact andThen fun _ => pure (by simp [Turn.site?, next?, success, chosen])
    next declined => exact andThen fun _ => pure (by simp [Turn.site?, next?, declined])

theorem afterConversion (versions : VersionPair) (isArtifact succeeded : Bool) :
    LeadsTo (next? options fixture succeeded (.disassembler versions isArtifact))
      (Trial.afterConversion setup test versions isArtifact) := by
  cases isArtifact with
  | true => exact andThen fun _ => pure rfl
  | false => exact andThen fun _ => pure rfl

theorem afterDiff (isAccepted : Bool) {comparison : Comparison} {output : Output}
    (judged : comparison = .agree ∧ output.success = true ∨
      ∃ diff, comparison = .differ diff ∧ output.success = false) :
    LeadsTo (next? options fixture output.success (.diff isAccepted))
      (Trial.afterDiff options test fixture isAccepted comparison : Trial φ (Turn 1)) := by
  unfold Trial.afterDiff
  obtain ⟨rfl, success⟩ | ⟨diff, rfl, failure⟩ := judged
  next =>
    cases isAccepted with
    | false => exact pure rfl
    | true =>
      cases present : fixture.symbols with
      | none => exact pure (by simp [Turn.site?, next?, present])
      | some expected => exact andThen fun _ => pure (by simp [Turn.site?, next?, success, present])
  next =>
    dsimp only
    split
    next => exact andThen fun _ => pure (by simp [Turn.site?, next?, failure])
    next => exact fail _ _

theorem afterSymbols (expected : String) (output : Output) :
    LeadsTo none (Trial.afterSymbols options test fixture expected output : Trial φ (Turn 0)) := by
  unfold Trial.afterSymbols
  split
  next =>
    dsimp only
    split
    next => exact pure rfl
    next =>
      split
      next => exact andThen fun _ => pure rfl
      next => exact fail _ _
  next => exact fail _ _

-- By the exit of a call it is settled which call comes next, if one does.
theorem turn (invocation : Invocation) (site : Site) (output : Output) :
    LeadsTo (next? options fixture output.success site)
      (Trial.turn setup options test fixture invocation site output) := by
  cases site with
  | formatter program => exact afterFormatter program output
  | formatDiff =>
    refine andThen fun comparison => ?_
    cases comparison with
    | agree => exact toCompiler _
    | differ diff => exact fail _ _
  | compiler => exact afterCompiler output
  | assembler versions isArtifact => exact andThen fun _ => pure rfl
  | disassembler versions isArtifact =>
    exact andThen fun _ => afterConversion versions isArtifact output.success
  | diff isAccepted => exact bind (fun _ _ _ => judge_comes) fun _ => afterDiff isAccepted
  | symbols expected => exact afterSymbols expected output

end LeadsTo

section Steps

variable [FileSystem φ] {setup : Setup φ} {options : RunOptions} {test : TestCase}
  {fixture : Fixture}

-- A turn that does not fail was answered in time, and makes something of the answer.
theorem step_came {site : Site} {world left : World φ} {turn : Turn site.later}
    (stepped : attempt (step setup options test fixture site) world = (.ok turn, left)) :
    let call := exchange setup test fixture site world.scene
    ∃ output between, call.answer = .ok output ∧ between.files = call.left ∧
      attempt (Trial.turn setup options test fixture call.invocation site output) between =
        (.ok turn, left) := by
  obtain ⟨output, between, ran, came⟩ := attempt_bind_eq_ok_iff.1 stepped
  obtain ⟨⟨answers, -⟩, -⟩ := (Meets.exec setup _ _ world output _).1 ⟨between, ran, rfl⟩
  exact ⟨output, between, congrArg Prod.fst answers, (congrArg Prod.snd answers).symm, came⟩

theorem step_next {site : Site} {world left : World φ} {turn : Turn site.later}
    (stepped : attempt (step setup options test fixture site) world = (.ok turn, left)) :
    turn.site? =
      next? options fixture (exchange setup test fixture site world.scene).succeeded site := by
  obtain ⟨output, between, answer, -, came⟩ := step_came stepped
  rw [Exchange.succeeded, answer]
  exact LeadsTo.turn _ _ output between turn left came

def Exchange.kept? (test : TestCase) (call : Exchange φ) : Option (Path × String) :=
  match call.site, call.answer with
  | .formatter _, .ok output =>
      if output.exit = .status 0 then some (test.formatted, output.stdout) else none
  | .compiler, .ok output =>
      if output.success || output.crashed then none
      else some (test.negative, output.stderr ++ output.stdout)
  | _, _ => none

def Exchange.patched? (options : RunOptions) (test : TestCase) (call : Exchange φ) : Option Path :=
  match call.site with
  | .compiler => if call.succeeded ∧ options.versions = none then some test.artifact else none
  | .disassembler _ isArtifact =>
      if call.succeeded then some (if isArtifact then test.artifact else test.expected) else none
  | _ => none

/-- The volatile lines of a file cannot be removed: it is unreadable, or writing it is refused. -/
inductive Unpatchable (volatile : VolatileFilter) (files : φ) (path : Path) : Prop
  | unreadable {error : FileError} (failed : FileSystem.read files path = .error error)
  | refused {text : String} {error : FileError} {after : φ}
      (read : FileSystem.read files path = .ok text)
      (failed : FileSystem.write files path (volatile.strip text).toUTF8 = (.error error, after))

variable (setup options test fixture) in
/-- A call that a test does not go on from. -/
inductive Exchange.Ends (call : Exchange φ) : Prop
  | fault {failure : Failure} (fault : Fault call.site call.invocation call.answer failure)
  | different (compares : call.site.compares = true) (unsuccessful : call.succeeded = false)
  | fruitless (compiles : call.site = .compiler) (accepted : call.succeeded = true)
      (absent : FileSystem.holds call.left test.artifact = false)
  | unwritten {path : Path} {text : String} {error : FileError} {after : φ}
      (kept : call.kept? test = some (path, text))
      (refused : FileSystem.write call.left path text.toUTF8 = (.error error, after))
  | unpatched {path : Path} (patched : call.patched? options test = some path)
      (fails : Unpatchable setup.volatile call.left path)
  | settled {isAccepted : Bool} (compared : call.site = .diff isAccepted)
      (complete : isAccepted = false ∨ fixture.symbols = none)
  | listed (lists : call.site.lists = true)

section Refusals

variable {α : Type} {world left : World φ} {answer : α}

end Refusals

theorem walk_invocations (site : Site) (world : World φ) :
    ∀ call ∈ transcriptFrom setup options test fixture site world,
      call.invocation =
        call.site.invocation setup.config test (Directives.ofSource fixture.source) := by
  refine walk_induct (motive := fun _ _ exchanges _ _ => ∀ call ∈ exchanges, call.invocation =
    call.site.invocation setup.config test (Directives.ofSource fixture.source)) ?_ ?_ ?_ site world
  next => exact fun site world failure left _ => by simp [exchange]
  next => exact fun site world pass left _ => by simp [exchange]
  next =>
    intro site world next fewer left exchanges outcome after _ onward
    exact List.forall_mem_cons.2 ⟨rfl, onward⟩

-- A test never comes back to a place.
theorem walk_descends (site : Site) (world : World φ) :
    let calls := transcriptFrom setup options test fixture site world
    (calls.Pairwise fun earlier later => later.site.later < earlier.site.later) ∧
      ∀ call ∈ calls, call.site.later ≤ site.later := by
  refine walk_induct (motive := fun site _ exchanges _ _ =>
    (exchanges.Pairwise fun earlier later => later.site.later < earlier.site.later) ∧
      ∀ call ∈ exchanges, call.site.later ≤ site.later) ?_ ?_ ?_ site world
  next => exact fun site world failure left _ => by simp [exchange]
  next => exact fun site world pass left _ => by simp [exchange]
  next =>
    intro site world next fewer left exchanges outcome after _ ⟨descends, below⟩
    refine ⟨List.pairwise_cons.2 ⟨fun call among => ?_, descends⟩,
      List.forall_mem_cons.2 ⟨Nat.le_refl _, fun call among => ?_⟩⟩
    next => exact Nat.lt_of_le_of_lt (below call among) fewer
    next => exact Nat.le_trans (below call among) (Nat.le_of_lt fewer)

theorem start_of_error {error : LoadError} {world : World φ}
    (unloaded : Fixture.load world.files test.fixture = .error error) :
    attempt (start setup test) world = (.error (.ofLoadError error), world) := by
  have fails : attempt (load test.fixture) world = (.error (.ofLoadError error), world) := by
    rw [attempt_load, unloaded]
  rw [start, attempt_bind, fails]

end Steps

variable [FileSystem φ] (setup : Setup φ) (options : RunOptions) (test : TestCase)

section Samples

end Samples

end GoldenSuite.Trial
