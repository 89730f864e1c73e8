import GoldenSuite.Proofs.Trial.Stages

/-!
A test as a machine. The places where a test calls a tool are the states of the machine; each turn
is one call and what the test makes of its output, which is to fail, to pass, or to go on to a call
further on. The machine and the test are the same program.
-/

set_option autoImplicit false

namespace GoldenSuite.Trial

inductive Site where
  | formatter (program : String)
  | formatDiff
  | compiler
  | assembler (versions : VersionPair) (isArtifact : Bool)
  | disassembler (versions : VersionPair) (isArtifact : Bool)
  | diff (isAccepted : Bool)
  | symbols (expected : String)
  deriving DecidableEq, Repr

namespace Site

def stage : Site → Stage
  | formatter _ => .format
  | formatDiff => .format
  | compiler => .compile
  | assembler _ _ => .assemble
  | disassembler _ _ => .disassemble
  | diff _ => .diff
  | symbols _ => .symbols

-- The file that a conversion is for.
def converted (test : TestCase) (isArtifact : Bool) : Path :=
  if isArtifact then test.artifact else test.expected

def invocation (config : Config) (test : TestCase) (directives : Directives) : Site → Invocation
  | formatter program => ⟨program, [test.source.text]⟩
  | formatDiff => diffInvocation config test.source test.formatted
  | compiler => compilerInvocation config test directives
  | assembler versions isArtifact => assembly config test versions (converted test isArtifact)
  | disassembler versions isArtifact =>
      disassembly config test versions (converted test isArtifact)
  | diff isAccepted =>
      diffInvocation config test.expected (if isAccepted then test.artifact else test.negative)
  | symbols _ => symbolsInvocation config test

@[reducible] def later : Site → Nat
  | formatter _ => 8
  | formatDiff => 7
  | compiler => 6
  | assembler _ isArtifact => if isArtifact then 3 else 5
  | disassembler _ isArtifact => if isArtifact then 2 else 4
  | diff _ => 1
  | symbols _ => 0

end Site

/-- What a test goes on with: a call that fewer calls can come after, or that it has passed. -/
inductive Turn (limit : Nat) where
  | call (site : Site) (fewer : site.later < limit)
  | pass (pass : Pass)

variable {φ : Type} [FileSystem φ] (setup : Setup φ) (options : RunOptions) (test : TestCase)
  (fixture : Fixture)

section Turns

variable {limit : Nat}

def toCompiler (fewer : 6 < limit) : Trial φ (Turn limit) := do
  note .verbose s!"{test.fixture.text}: compile"
  return .call .compiler fewer

def toConversion (versions : VersionPair) (fewer : 5 < limit) : Trial φ (Turn limit) := do
  let source := VersionPair.describe versions.source
  let target := VersionPair.describe versions.target
  note .verbose s!"translating IR {source} -> {target}"
  return .call (.assembler versions false) fewer

def judge (stage : Stage) (invocation : Invocation) (output : Output) : Trial φ Comparison := do
  match output.code? with
  | some 0 => return .agree
  | some 1 => return .differ output.combined
  | _ => throw (.tool stage (complaint invocation output))

def require (stage : Stage) (invocation : Invocation) (output : Output) : Trial φ Unit := do
  if output.success then return
  else throw (.tool stage (complaint invocation output))

def afterFormatter (output : Output) : Trial φ (Turn 8) := do
  if output.crashed then
    writeLog test output.combined
    throw (.crash .format)
  else if output.success then
    write test.formatted output.stdout
    return .call .formatDiff (by decide)
  else toCompiler test (by decide)

def afterFormatDiff (comparison : Comparison) : Trial φ (Turn 7) := do
  match comparison with
  | .agree => toCompiler test (by decide)
  | .differ diff =>
      writeLog test diff
      throw .formatMismatch

def afterCompiler (output : Output) : Trial φ (Turn 6) := do
  if output.crashed then
    writeLog test output.combined
    throw (.crash .compile)
  else if output.success then
    note .verbose s!"{test.fixture.text}: normalize"
    if ← holds test.artifact then
      match options.versions with
      | some versions => toConversion versions (by decide)
      | none =>
          patch setup test.artifact
          return .call (.diff true) (by decide)
    else throw (.noArtifact setup.config.endings.artifact)
  else
    write test.negative output.combined
    return .call (.diff false) (by decide)

def afterConversion (versions : VersionPair) :
    (isArtifact : Bool) → Trial φ (Turn (Site.disassembler versions isArtifact).later)
  | true => do
      patch setup test.artifact
      return .call (.diff true) (by simp [Site.later])
  | false => do
      patch setup test.expected
      return .call (.assembler versions true) (by simp [Site.later])

def afterDiff (isAccepted : Bool) : Comparison → Trial φ (Turn 1)
  | .agree =>
      match isAccepted, fixture.symbols with
      | true, some expected => do
          note .verbose s!"{test.fixture.text}: symbols"
          return .call (.symbols expected) (by simp [Site.later])
      | _, _ => return .pass .ok
  | .differ diff =>
      if options.update then do
        updateGolden test fixture isAccepted none
        return .pass (.updated .artifact)
      else do
        writeLog test diff
        throw .artifactMismatch

def afterSymbols (expected : String) (output : Output) : Trial φ (Turn 0) := do
  if output.success then
    let actual := Symbols.filter output.stdout
    match Symbols.compare expected actual with
    | .agree => return .pass .ok
    | .differ diff =>
        if options.update then
          updateGolden test fixture true (some actual)
          return .pass (.updated .symbols)
        else
          writeLog test diff
          throw .symbolMismatch
  else
    writeLog test output.combined
    throw .noSymbols

def turn (invocation : Invocation) : (site : Site) → Output → Trial φ (Turn site.later)
  | .formatter _, output => afterFormatter test output
  | .formatDiff, output => do afterFormatDiff test (← judge .format invocation output)
  | .compiler, output => afterCompiler setup options test output
  | .assembler versions isArtifact, output => do
      require .assemble invocation output
      return .call (.disassembler versions isArtifact) (by cases isArtifact <;> simp [Site.later])
  | .disassembler versions isArtifact, output => do
      require .disassemble invocation output
      afterConversion setup test versions isArtifact
  | .diff isAccepted, output => do
      afterDiff options test fixture isAccepted (← judge .diff invocation output)
  | .symbols expected, output => afterSymbols options test fixture expected output

end Turns

def step (site : Site) : Trial φ (Turn site.later) := do
  let invocation := site.invocation setup.config test (Directives.ofSource fixture.source)
  let output ← exec setup site.stage invocation
  turn setup options test fixture invocation site output

def walk (site : Site) : Trial φ Pass := do
  match ← step setup options test fixture site with
  | .call next _ => walk next
  | .pass pass => return pass
termination_by site.later

def onward {limit : Nat} : Turn limit → Trial φ Pass
  | .call site _ => walk setup options test fixture site
  | .pass pass => return pass

def start : Trial φ (Fixture × Site) := do
  let fixture ← load test.fixture
  onFiles (test.materialize fixture)
  let directives := Directives.ofSource fixture.source
  note .verbose s!"{test.fixture.text}: format check"
  match formatter? setup.config directives with
  | some program => return (fixture, .formatter program)
  | none =>
      note .verbose s!"{test.fixture.text}: compile"
      return (fixture, .compiler)

section Equality

theorem walk_eq (site : Site) :
    walk setup options test fixture site =
      step setup options test fixture site >>= onward setup options test fixture := by
  rw [walk]
  refine bind_congr fun turn => ?_
  cases turn <;> rfl

variable {setup options test fixture}

theorem walk_symbols (expected : String) :
    walk setup options test fixture (.symbols expected) = (do
      let actual ← dumpSymbols setup test
      match Symbols.compare expected actual with
      | .agree => return .ok
      | .differ diff =>
          if options.update then
            updateGolden test fixture true (some actual)
            return .updated .symbols
          else
            writeLog test diff
            throw .symbolMismatch) := by
  rw [walk_eq, step, dumpSymbols]
  simp only [bind_assoc]
  refine bind_congr fun output => ?_
  simp only [turn, afterSymbols]
  cases output.success with
  | false => rfl
  | true =>
    simp only [if_true, pure_bind]
    cases Symbols.compare expected (Symbols.filter output.stdout) with
    | agree => rfl
    | differ diff =>
      cases options.update with
      | true =>
        simp only [if_true, bind_assoc, pure_bind]
        rfl
      | false =>
        simp only [Bool.false_eq_true, if_false, bind_assoc]
        rfl

theorem compareSymbols_of_some {expected : String} (found : fixture.symbols = some expected) :
    compareSymbols setup options test fixture = (do
      note .verbose s!"{test.fixture.text}: symbols"
      walk setup options test fixture (.symbols expected)) := by
  rw [compareSymbols, found]
  exact bind_congr fun _ => (walk_symbols expected).symm

omit [FileSystem φ] in
theorem diffFiles_eq (stage : Stage) (expected actual : Path) :
    diffFiles setup stage expected actual =
      exec setup stage (diffInvocation setup.config expected actual) >>=
        judge stage (diffInvocation setup.config expected actual) := rfl

theorem walk_diff (isAccepted : Bool) :
    walk setup options test fixture (.diff isAccepted) =
      compareActual setup options test fixture isAccepted := by
  rw [walk_eq, step, compareActual]
  simp only [diffFiles_eq, bind_assoc]
  refine bind_congr fun output => ?_
  simp only [turn, bind_assoc]
  refine bind_congr fun comparison => ?_
  cases comparison with
  | differ diff =>
    cases asked : options.update with
    | true =>
      simp only [afterDiff, asked, if_true, bind_assoc, pure_bind]
      rfl
    | false =>
      simp only [afterDiff, asked, Bool.false_eq_true, if_false, bind_assoc]
      rfl
  | agree =>
    cases isAccepted with
    | false => rfl
    | true =>
      cases found : fixture.symbols with
      | none => simp only [afterDiff, compareSymbols, found, if_true, pure_bind, onward]
      | some expected =>
        simp only [afterDiff, compareSymbols_of_some found, found, if_true, bind_assoc, pure_bind,
          onward]

omit [FileSystem φ] in
theorem execChecked_bind {α : Type} (stage : Stage) (invocation : Invocation)
    (next : Trial φ α) :
    (do
      let _ ← execChecked setup stage invocation
      next) = (do
      let output ← exec setup stage invocation
      require stage invocation output
      next) := by
  simp only [execChecked, require, bind_assoc]
  refine bind_congr fun output => ?_
  cases output.success <;> rfl

theorem walk_assembler (versions : VersionPair) (isArtifact : Bool) :
    walk setup options test fixture (.assembler versions isArtifact) = (do
      convert setup test versions (Site.converted test isArtifact)
      let turn ← afterConversion setup test versions isArtifact
      onward setup options test fixture turn) := by
  rw [walk_eq, step]
  simp only [turn, convert, bind_assoc, pure_bind, onward]
  rw [execChecked_bind]
  refine bind_congr fun output => bind_congr fun _ => ?_
  rw [execChecked_bind, walk_eq, step]
  simp only [turn, bind_assoc]
  rfl

theorem walk_converted (versions : VersionPair) :
    (do
      let turn : Turn 6 ← toConversion versions (by decide)
      onward setup options test fixture turn) = (do
      convertBoth setup test versions
      patch setup test.artifact
      compareActual setup options test fixture true) := by
  simp only [toConversion, convertBoth, bind_assoc, pure_bind, onward, walk_assembler,
    afterConversion, walk_diff]
  rfl

theorem walk_compiler :
    walk setup options test fixture .compiler = (do
      let verdict ← compile setup test (Directives.ofSource fixture.source)
      if verdict.isAccepted then
        note .verbose s!"{test.fixture.text}: normalize"
        normalize setup test options.versions
      compareActual setup options test fixture verdict.isAccepted) := by
  rw [walk_eq, step, compile]
  simp only [bind_assoc]
  refine bind_congr fun output => ?_
  simp only [turn, afterCompiler]
  cases output.crashed with
  | true =>
    simp only [if_true, bind_assoc]
    rfl
  | false =>
    cases output.success with
    | false =>
      simp only [Bool.false_eq_true, if_false, bind_assoc, pure_bind, onward, walk_diff]
      rfl
    | true =>
      simp only [Bool.false_eq_true, if_false, if_true, bind_assoc, pure_bind, Verdict.isAccepted,
        normalize]
      refine bind_congr fun _ => bind_congr fun found => ?_
      cases found with
      | false => rfl
      | true =>
        cases options.versions with
        | none =>
          simp only [Bool.not_true, Bool.false_eq_true, if_false, if_true, bind_assoc, pure_bind,
            onward, walk_diff]
          rfl
        | some versions =>
          simp only [Bool.not_true, Bool.false_eq_true, if_false, if_true, bind_assoc]
          exact walk_converted versions

theorem walk_formatDiff :
    walk setup options test fixture .formatDiff = (do
      match ← diffFiles setup .format test.source test.formatted with
      | .agree =>
          note .verbose s!"{test.fixture.text}: compile"
          walk setup options test fixture .compiler
      | .differ diff =>
          writeLog test diff
          throw .formatMismatch) := by
  rw [walk_eq, step]
  simp only [diffFiles_eq, bind_assoc]
  refine bind_congr fun output => ?_
  simp only [turn, bind_assoc]
  refine bind_congr fun comparison => ?_
  cases comparison with
  | agree =>
    simp only [afterFormatDiff, toCompiler, bind_assoc, pure_bind, onward]
  | differ diff =>
    simp only [afterFormatDiff, bind_assoc]
    rfl

theorem walk_formatter {program : String}
    (chosen : formatter? setup.config (Directives.ofSource fixture.source) = some program) :
    walk setup options test fixture (.formatter program) = (do
      let _ ← checkFormat setup test (Directives.ofSource fixture.source)
      note .verbose s!"{test.fixture.text}: compile"
      walk setup options test fixture .compiler) := by
  rw [walk_eq, step, checkFormat, chosen]
  simp only [bind_assoc]
  refine bind_congr fun output => ?_
  simp only [turn, afterFormatter]
  cases output.crashed with
  | true =>
    simp only [if_true, bind_assoc]
    rfl
  | false =>
    cases output.success with
    | false =>
      simp only [Bool.false_eq_true, if_false, toCompiler, bind_assoc, pure_bind, onward]
      rfl
    | true =>
      simp only [Bool.not_true, Bool.false_eq_true, if_false, if_true, bind_assoc, pure_bind,
        onward, walk_formatDiff]
      refine bind_congr fun _ => bind_congr fun comparison => ?_
      cases comparison with
      | agree => rfl
      | differ diff => rfl

theorem drive_eq :
    drive setup options test = (do
      let (fixture, site) ← start setup test
      walk setup options test fixture site) := by
  rw [drive, start]
  simp only [bind_assoc]
  refine bind_congr fun fixture => bind_congr fun _ => bind_congr fun _ => ?_
  cases chosen : formatter? setup.config (Directives.ofSource fixture.source) with
  | none => simp only [checkFormat, chosen, bind_assoc, pure_bind, walk_compiler]
  | some program => simp only [pure_bind, walk_formatter chosen, walk_compiler]

end Equality

end GoldenSuite.Trial
