import GoldenSuite.Proofs.Symbols.Agreement
import GoldenSuite.Proofs.Trial.Passage
import GoldenSuite.Trial.Case

/-!
The passages of the stages of a test. Each says in terms of how the tools exit when a stage is got
through, what it answers, and which files and calls it leaves; a refused write or an unreadable file
leads nowhere.
-/

set_option autoImplicit false

namespace GoldenSuite

theorem Output.code?_eq_some_iff {output : Output} {code : Int} :
    output.code? = some code ↔ output.exit = .status code := by
  unfold Output.code?
  split <;> simp_all

theorem Output.crashed_or_status {output : Output} (inTime : output.exit ≠ .timedOut) :
    output.crashed = true ∨ output.exit = .status 0 ∨
      ∃ code, output.exit = .status code ∧ 0 < code := by
  rcases exited : output.exit with code | number | _
  next =>
    rcases Int.lt_trichotomy code 0 with negative | rfl | positive
    next => simp [Output.crashed, exited, negative]
    next => simp
    next => simp [positive]
  next => simp [Output.crashed, exited]
  next => exact absurd exited inTime

theorem Output.crashed_of_status {output : Output} {code : Int}
    (exited : output.exit = .status code) : output.crashed = decide (code < 0) := by
  simp [Output.crashed, exited]

theorem Output.success_of_status {output : Output} {code : Int}
    (exited : output.exit = .status code) : output.success = decide (code = 0) := by
  by_cases zero : code = 0 <;> simp [Output.success, exited, zero]

theorem Output.success_iff {output : Output} :
    output.success = true ↔ output.exit = .status 0 := by
  simp [Output.success]

namespace Trial

variable {φ : Type} [FileSystem φ]

def Materialized (test : TestCase) (fixture : Fixture) (before after : Scene φ) : Prop :=
  ∃ between, Scene.Writes test.source fixture.source before between ∧
    Scene.Writes test.expected fixture.artifact between after

def formatting (test : TestCase) (formatter : String) : Invocation :=
  ⟨formatter, [test.source.text]⟩

inductive FormatSettled (setup : Setup φ) (test : TestCase) (directives : Directives) :
    Passage φ FormatCheck
  | skipped {scene : Scene φ}
      (off : directives.skipFormat = true ∨ setup.config.formatter = none) :
      FormatSettled setup test directives scene .skipped scene
  | declined {formatter : String} {code : Int} {before after : Scene φ}
      (on : directives.skipFormat = false) (chosen : setup.config.formatter = some formatter)
      (exits : Scene.Exits setup.tools (formatting test formatter) code before after)
      (positive : 0 < code) :
      FormatSettled setup test directives before .declined after
  | stable {formatter : String} {output : Output} {before formatted saved after : Scene φ}
      (on : directives.skipFormat = false) (chosen : setup.config.formatter = some formatter)
      (answers : Scene.Answers setup.tools (formatting test formatter) output before formatted)
      (success : output.exit = .status 0)
      (saves : Scene.Writes test.formatted output.stdout formatted saved)
      (unchanged : Scene.Exits setup.tools
        (diffInvocation setup.config test.source test.formatted) 0 saved after) :
      FormatSettled setup test directives before .stable after

inductive Compiled (setup : Setup φ) (test : TestCase) (directives : Directives) :
    Passage φ Verdict
  | accepted {before after : Scene φ}
      (exits : Scene.Exits setup.tools (compilerInvocation setup.config test directives) 0
        before after) :
      Compiled setup test directives before (.accepted test.artifact) after
  | rejected {output : Output} {code : Int} {before between after : Scene φ}
      (answers : Scene.Answers setup.tools (compilerInvocation setup.config test directives) output
        before between)
      (exit : output.exit = .status code) (positive : 0 < code)
      (saves : Scene.Writes test.negative output.combined between after) :
      Compiled setup test directives before (.rejected output.combined) after

def Patched (setup : Setup φ) (file : Path) (before after : Scene φ) : Prop :=
  ∃ text, FileSystem.read before.files file = .ok text ∧
    Scene.Writes file (setup.volatile.strip text) before after

def Converted (setup : Setup φ) (test : TestCase) (versions : VersionPair) (file : Path)
    (before after : Scene φ) : Prop :=
  ∃ between, Scene.Exits setup.tools (assembly setup.config test versions file) 0 before between ∧
    Scene.Exits setup.tools (disassembly setup.config test versions file) 0 between after

-- Where versions are given, all four conversions succeed.
def Translated (setup : Setup φ) (test : TestCase) :
    Option VersionPair → Scene φ → Scene φ → Prop
  | none, before, after => after = before
  | some versions, before, after =>
      ∃ converted patched, Converted setup test versions test.expected before converted ∧
        Patched setup test.expected converted patched ∧
        Converted setup test versions test.artifact patched after

def Normalized (setup : Setup φ) (test : TestCase) (versions : Option VersionPair)
    (before after : Scene φ) : Prop :=
  FileSystem.holds before.files test.artifact = true ∧
    ∃ between, Translated setup test versions before between ∧
      Patched setup test.artifact between after

-- Only the artifact of an accepted program is normalized.
def Readied (setup : Setup φ) (test : TestCase) (versions : Option VersionPair)
    (isAccepted : Bool) (before after : Scene φ) : Prop :=
  if isAccepted then Normalized setup test versions before after else after = before

-- What the compiler made of the source.
def actual (test : TestCase) (isAccepted : Bool) : Path :=
  if isAccepted then test.artifact else test.negative

-- The symbols that an updated fixture has.
def keptSymbols (fixture : Fixture) (isAccepted : Bool) (listing : Option String) :
    Option String :=
  if isAccepted then listing.or fixture.symbols else none

def Rewritten (test : TestCase) (fixture : Fixture) (isAccepted : Bool) (listing : Option String)
    (before after : Scene φ) : Prop :=
  ∃ text, FileSystem.read before.files (actual test isAccepted) = .ok text ∧
    Scene.Writes test.fixture
      (Fixture.render fixture.source text (keptSymbols fixture isAccepted listing)) before after

def Listed (setup : Setup φ) (test : TestCase) (listing : String) (before after : Scene φ) : Prop :=
  ∃ output, Scene.Answers setup.tools (symbolsInvocation setup.config test) output before after ∧
    output.exit = .status 0 ∧ listing = Symbols.filter output.stdout

inductive SymbolsCompared (setup : Setup φ) (options : RunOptions) (test : TestCase)
    (fixture : Fixture) : Passage φ Pass
  | absent {scene : Scene φ} (none : fixture.symbols = none) :
      SymbolsCompared setup options test fixture scene .ok scene
  | same {expected listing : String} {before after : Scene φ}
      (present : fixture.symbols = some expected) (listed : Listed setup test listing before after)
      (equal : Symbols.counted expected = Symbols.counted listing) :
      SymbolsCompared setup options test fixture before .ok after
  | updated {expected listing : String} {before between after : Scene φ}
      (present : fixture.symbols = some expected)
      (listed : Listed setup test listing before between)
      (different : Symbols.counted expected ≠ Symbols.counted listing)
      (update : options.update = true)
      (rewritten : Rewritten test fixture true (some listing) between after) :
      SymbolsCompared setup options test fixture before (.updated .symbols) after

inductive ActualCompared (setup : Setup φ) (options : RunOptions) (test : TestCase)
    (fixture : Fixture) (isAccepted : Bool) : Passage φ Pass
  | rejected {before after : Scene φ} (verdict : isAccepted = false)
      (same : Scene.Exits setup.tools
        (diffInvocation setup.config test.expected (actual test isAccepted)) 0 before after) :
      ActualCompared setup options test fixture isAccepted before .ok after
  | accepted {pass : Pass} {before between after : Scene φ} (verdict : isAccepted = true)
      (same : Scene.Exits setup.tools
        (diffInvocation setup.config test.expected (actual test isAccepted)) 0 before between)
      (symbols : SymbolsCompared setup options test fixture between pass after) :
      ActualCompared setup options test fixture isAccepted before pass after
  | updated {before between after : Scene φ}
      (different : Scene.Exits setup.tools
        (diffInvocation setup.config test.expected (actual test isAccepted)) 1 before between)
      (update : options.update = true)
      (rewritten : Rewritten test fixture isAccepted none between after) :
      ActualCompared setup options test fixture isAccepted before (.updated .artifact) after

def Prepared (setup : Setup φ) (options : RunOptions) (test : TestCase) (fixture : Fixture)
    (isAccepted : Bool) (before after : Scene φ) : Prop :=
  ∃ check verdict written checked compiled,
    Materialized test fixture before written ∧
    FormatSettled setup test (Directives.ofSource fixture.source) written check checked ∧
    Compiled setup test (Directives.ofSource fixture.source) checked verdict compiled ∧
    verdict.isAccepted = isAccepted ∧
    Readied setup test options.versions isAccepted compiled after

def Driven (setup : Setup φ) (options : RunOptions) (test : TestCase) : Passage φ Pass :=
  fun before pass after => ∃ fixture isAccepted ready,
    Fixture.load before.files test.fixture = .ok fixture ∧
    Prepared setup options test fixture isAccepted before ready ∧
    ActualCompared setup options test fixture isAccepted ready pass after

theorem attempt_load (path : Path) (world : World φ) :
    attempt (load path) world =
      match Fixture.load world.files path with
      | .ok fixture => (.ok fixture, world)
      | .error error => (.error (.ofLoadError error), world) := by
  simp only [load, attempt_bind, attempt_get]
  cases Fixture.load world.files path <;> rfl

namespace Meets

variable {α : Type} (setup : Setup φ) (options : RunOptions) (test : TestCase)

theorem load (path : Path) :
    Meets (Trial.load path : Trial φ Fixture) fun before fixture after =>
      Fixture.load before.files path = .ok fixture ∧ after = before := by
  intro world fixture after
  simp only [attempt_load]
  change _ ↔ Fixture.load world.files path = .ok fixture ∧ after = world.scene
  cases Fixture.load world.files path with
  | error error => simp
  | ok found =>
    constructor
    next =>
      rintro ⟨left, came, rfl⟩
      cases came
      exact ⟨rfl, rfl⟩
    next =>
      rintro ⟨loaded, rfl⟩
      cases loaded
      exact ⟨world, rfl, rfl⟩

theorem materialize (fixture : Fixture) :
    Meets (Trial.onFiles (test.materialize fixture) : Trial φ Unit) fun before _ after =>
      Materialized test fixture before after := by
  refine (onFiles _).congr fun before answer after => ?_
  simp only [TestCase.materialize, Materialized, Scene.Writes]
  rcases wrote : FileSystem.write before.files test.source fixture.source.toUTF8 with
    ⟨error | done, files⟩
  next => simp
  next =>
    constructor
    next =>
      rintro ⟨more, calls⟩
      exact ⟨⟨files, before.calls⟩, ⟨rfl, rfl⟩, more, calls⟩
    next =>
      rintro ⟨between, ⟨first, same⟩, more, calls⟩
      cases first
      exact ⟨more, calls.trans same⟩

omit [FileSystem φ] in
theorem diffFiles (stage : Stage) (expected actual : Path) :
    Meets (Trial.diffFiles setup stage expected actual) fun before found after =>
      ∃ output,
        Scene.Answers setup.tools (diffInvocation setup.config expected actual) output before
            after ∧
          (output.exit = .status 0 ∧ found = .agree ∨
            output.exit = .status 1 ∧ found = .differ output.combined) := by
  refine (judge (fun output found => output.exit = .status 0 ∧ found = .agree ∨
      output.exit = .status 1 ∧ found = .differ output.combined) (exec setup stage _)
        fun output _ => ?_).congr fun before found after => ?_
  next =>
    split
    next agreed =>
      rw [Output.code?_eq_some_iff] at agreed
      exact (pure _).congr fun before found after => by simp [agreed]
    next differed =>
      rw [Output.code?_eq_some_iff] at differed
      exact (pure _).congr fun before found after => by simp [differed]
    next notAgreed notDiffered =>
      rw [Output.code?_eq_some_iff] at notAgreed notDiffered
      exact (throw _).congr fun before found after => by grind
  next =>
    constructor
    next =>
      rintro ⟨output, ⟨answered, -⟩, judged⟩
      exact ⟨output, answered, judged⟩
    next =>
      rintro ⟨output, answered, judged⟩
      refine ⟨output, ⟨answered, ?_⟩, judged⟩
      rcases judged with ⟨exit, -⟩ | ⟨exit, -⟩ <;> simp [exit]

omit [FileSystem φ] in
theorem diffFiles_agree {answer : α} (stage : Stage) (expected actual : Path)
    {mismatched : String → Trial φ α}
    (fails : ∀ diff, Meets (mismatched diff) fun _ _ _ => False) :
    Meets (do
        match ← Trial.diffFiles setup stage expected actual with
        | .agree => return answer
        | .differ diff => mismatched diff)
      fun before found after => found = answer ∧
        Scene.Exits setup.tools (diffInvocation setup.config expected actual) 0 before after := by
  refine (judge (fun comparison found => comparison = .agree ∧ found = answer)
    (diffFiles setup stage expected actual) fun comparison _ => ?_).congr
      fun before found after => ?_
  next =>
    cases comparison with
    | agree => exact (pure answer).congr fun before found after => by simp
    | differ diff => exact (fails diff).congr fun before found after => by simp
  next =>
    constructor
    next =>
      rintro ⟨comparison, ⟨output, answered, ⟨exited, -⟩ | ⟨-, rfl⟩⟩, agreed, rfl⟩
      next => exact ⟨rfl, output, answered, exited⟩
      next => cases agreed
    next =>
      rintro ⟨rfl, output, answered, exited⟩
      exact ⟨.agree, ⟨output, answered, .inl ⟨exited, rfl⟩⟩, rfl, rfl⟩

omit [FileSystem φ] in
-- A tool whose crash ends the test says yes or no when it ends in time.
theorem byExit {output : Output} (inTime : output.exit ≠ .timedOut) {trial : Trial φ α}
    {accepting declining : Passage φ α}
    (crashes : output.crashed = true → Meets trial fun _ _ _ => False)
    (accepts : output.crashed = false → output.success = true → Meets trial accepting)
    (declines : output.crashed = false → output.success = false → Meets trial declining) :
    Meets trial fun before found after =>
      output.exit = .status 0 ∧ accepting before found after ∨
        (∃ code, output.exit = .status code ∧ 0 < code) ∧ declining before found after := by
  obtain crashed | success | ⟨code, exited, positive⟩ := Output.crashed_or_status inTime
  next =>
    refine (crashes crashed).congr fun before found after => ?_
    have negative (code : Int) (exited : output.exit = .status code) : code < 0 := by
      simpa [Output.crashed_of_status exited] using crashed
    grind
  next =>
    have calm : output.crashed = false := by simp [Output.crashed_of_status success]
    refine (accepts calm (by simp [Output.success_of_status success])).congr
      fun before found after => ?_
    simp only [success, Exit.status.injEq]
    grind
  next =>
    have calm : output.crashed = false := by
      have notNegative : ¬ code < 0 := by omega
      simp [Output.crashed_of_status exited, notNegative]
    have nonzero : code ≠ 0 := by omega
    have unsuccessful : output.success = false := by
      simp [Output.success_of_status exited, nonzero]
    refine (declines calm unsuccessful).congr fun before found after => ?_
    simp only [exited, Exit.status.injEq]
    grind

theorem checkFormat (directives : Directives) :
    Meets (Trial.checkFormat setup test directives) (FormatSettled setup test directives) := by
  unfold Trial.checkFormat
  rcases chosen : formatter? setup.config directives with _ | formatter
  next =>
    have off : directives.skipFormat = true ∨ setup.config.formatter = none := by
      simpa [formatter?, Classical.or_iff_not_imp_left] using chosen
    refine (pure _).congr fun before check after => ⟨?_, ?_⟩
    next =>
      rintro ⟨rfl, rfl⟩
      exact .skipped off
    next =>
      intro settled
      cases settled with
      | skipped => exact ⟨rfl, rfl⟩
      | declined on chosen | stable on chosen => simp_all
  next =>
    obtain ⟨on, chosen⟩ :
        directives.skipFormat = false ∧ setup.config.formatter = some formatter := by
      simpa [formatter?] using chosen
    refine (bindTo (fun output before check after =>
      output.exit = .status 0 ∧ (check = .stable ∧ ∃ saved,
          Scene.Writes test.formatted output.stdout before saved ∧
          Scene.Exits setup.tools (diffInvocation setup.config test.source test.formatted) 0
            saved after) ∨
        (∃ code, output.exit = .status code ∧ 0 < code) ∧ check = .declined ∧ after = before)
      (exec setup .format _) ?_).congr fun before check after => ⟨?_, ?_⟩
    next =>
      rintro output ⟨_, _, _, inTime⟩
      refine byExit inTime (fun crashed => ?_) (fun calm success => ?_) fun calm unsuccessful => ?_
      next =>
        simp only [crashed, if_true]
        exact log_bind_fails test fun _ => throw_bind _ _
      next =>
        simp only [calm, success]
        refine (bind (write _ _) fun _ _ =>
          diffFiles_agree setup .format test.source test.formatted
            fun diff => log_bind_fails test fun _ => throw _).congr fun before check after => ?_
        grind
      next =>
        simp only [calm, unsuccessful, Bool.not_false, if_true]
        exact (pure _).congr fun before check after => Iff.rfl
    next =>
      rintro ⟨output, between, ⟨answered, -⟩, judged⟩
      rcases judged with ⟨success, rfl, saved, saves, same⟩ | ⟨⟨code, exited, positive⟩, rfl, rfl⟩
      next => exact .stable on chosen answered success saves same
      next => exact .declined on chosen ⟨output, answered, exited⟩ positive
    next =>
      intro settled
      cases settled with
      | skipped off => simp_all
      | declined _ chosen' exits positive =>
        obtain rfl := Option.some.inj (chosen.symm.trans chosen')
        obtain ⟨output, answered, exited⟩ := exits
        exact ⟨output, after, ⟨answered, by simp [exited]⟩,
          .inr ⟨⟨_, exited, positive⟩, rfl, rfl⟩⟩
      | stable _ chosen' answered success saves same =>
        obtain rfl := Option.some.inj (chosen.symm.trans chosen')
        exact ⟨_, _, ⟨answered, by simp [success]⟩, .inl ⟨success, rfl, _, saves, same⟩⟩

theorem compile (directives : Directives) :
    Meets (Trial.compile setup test directives) (Compiled setup test directives) := by
  refine (bindTo (fun output before verdict after =>
      output.exit = .status 0 ∧ (verdict = .accepted test.artifact ∧ after = before) ∨
        (∃ code, output.exit = .status code ∧ 0 < code) ∧ verdict = .rejected output.combined ∧
          Scene.Writes test.negative output.combined before after)
    (exec setup .compile _) ?_).congr fun before verdict after => ⟨?_, ?_⟩
  next =>
    rintro output ⟨_, _, _, inTime⟩
    refine byExit inTime (fun crashed => ?_) (fun calm success => ?_) fun calm unsuccessful => ?_
    next =>
      simp only [crashed, if_true]
      exact log_bind_fails test fun _ => throw_bind _ _
    next =>
      simp only [calm, success]
      exact (pure _).congr fun before verdict after => Iff.rfl
    next =>
      simp only [calm, unsuccessful]
      refine (bind (write _ _) fun _ _ => pure _).congr fun before verdict after => ?_
      grind
  next =>
    rintro ⟨output, between, ⟨answered, -⟩, judged⟩
    rcases judged with ⟨success, rfl, rfl⟩ | ⟨⟨code, exited, positive⟩, rfl, saves⟩
    next => exact .accepted ⟨output, answered, success⟩
    next => exact .rejected answered exited positive saves
  next =>
    intro compiled
    cases compiled with
    | accepted exits =>
      obtain ⟨output, answered, success⟩ := exits
      exact ⟨output, after, ⟨answered, by simp [success]⟩, .inl ⟨success, rfl, rfl⟩⟩
    | rejected answered exited positive saves =>
      exact ⟨_, _, ⟨answered, by simp [exited]⟩, .inr ⟨⟨_, exited, positive⟩, rfl, saves⟩⟩

theorem patch (file : Path) :
    Meets (Trial.patch setup file) fun before _ after => Patched setup file before after := by
  refine (bind (read file) fun text _ => write file (setup.volatile.strip text)).congr
    fun before answer after => ?_
  simp only [Patched]
  grind

omit [FileSystem φ] in
theorem convert (versions : VersionPair) (file : Path) :
    Meets (Trial.convert setup test versions file) fun before _ after =>
      Converted setup test versions file before after := by
  refine (bind (execChecked setup .assemble _) fun _ _ =>
    bind (execChecked setup .disassemble _) fun _ _ => pure _).congr fun before answer after => ?_
  simp only [Converted, Scene.Exits]
  grind

theorem translate (versions : Option VersionPair) :
    Meets (versions.forM (Trial.convertBoth setup test)) fun before _ after =>
      Translated setup test versions before after := by
  cases versions with
  | none => exact (pure _).congr fun before answer after => by simp [Translated]
  | some versions =>
    refine (note_bind fun _ => bind (convert setup test versions test.expected) fun _ _ =>
      bind (patch setup test.expected) fun _ _ =>
        convert setup test versions test.artifact).congr fun before answer after => ?_
    simp only [Translated]
    grind

theorem normalize (versions : Option VersionPair) :
    Meets (Trial.normalize setup test versions) fun before _ after =>
      Normalized setup test versions before after := by
  refine (bindTo (fun found before _ after =>
    found = true ∧ ∃ between, Translated setup test versions before between ∧
      Patched setup test.artifact between after) (holds test.artifact) fun found _ => ?_).congr
        fun before answer after => ?_
  next =>
    cases found with
    | false => exact (throw_bind _ _).congr (by simp)
    | true =>
      refine (bind (translate setup test versions) fun _ _ => patch setup test.artifact).congr
        fun before answer after => ?_
      simp
  next =>
    simp only [Normalized]
    grind

theorem dumpSymbols :
    Meets (Trial.dumpSymbols setup test) fun before listing after =>
      Listed setup test listing before after := by
  refine (judge (fun output listing =>
    output.exit = .status 0 ∧ listing = Symbols.filter output.stdout) (exec setup .symbols _)
      fun output _ => ?_).congr fun before listing after => ?_
  next =>
    by_cases success : output.exit = .status 0
    next =>
      simp only [Output.success_of_status success]
      exact (pure _).congr fun before found after => by simp [success]
    next =>
      have unsuccessful : output.success = false := by simp [Output.success, success]
      simp only [unsuccessful]
      exact (log_bind_fails test fun _ => throw _).congr (by simp [success])
  next =>
    simp only [Listed]
    grind

theorem updateGolden (fixture : Fixture) (isAccepted : Bool) (listing : Option String) :
    Meets (Trial.updateGolden test fixture isAccepted listing : Trial φ Unit)
      fun before _ after => Rewritten test fixture isAccepted listing before after := by
  refine (bind (read (actual test isAccepted)) fun text _ =>
    bind (write test.fixture (Fixture.render fixture.source text
      (keptSymbols fixture isAccepted listing))) fun _ _ => note _ _).congr
        fun before answer after => ?_
  simp only [Rewritten]
  grind

theorem compareSymbols (fixture : Fixture) :
    Meets (Trial.compareSymbols setup options test fixture)
      (SymbolsCompared setup options test fixture) := by
  unfold Trial.compareSymbols
  rcases present : fixture.symbols with _ | expected
  next =>
    refine (pure _).congr fun before pass after => ⟨?_, ?_⟩
    next =>
      rintro ⟨rfl, rfl⟩
      exact .absent present
    next =>
      intro compared
      cases compared with
      | absent => exact ⟨rfl, rfl⟩
      | same present' | updated present' => simp [present] at present'
  next =>
    refine note_bind fun _ => ?_
    refine (bindTo (fun listing before pass after =>
      Symbols.counted expected = Symbols.counted listing ∧ pass = .ok ∧ after = before ∨
        Symbols.counted expected ≠ Symbols.counted listing ∧ options.update = true ∧
          pass = .updated .symbols ∧ Rewritten test fixture true (some listing) before after)
      (dumpSymbols setup test) fun listing _ => ?_).congr fun before pass after => ⟨?_, ?_⟩
    next =>
      by_cases equal : Symbols.counted expected = Symbols.counted listing
      next =>
        rw [(Symbols.compare_eq_agree_iff_counted expected listing).2 equal]
        exact (pure _).congr fun before pass after => by simp [equal]
      next =>
        obtain ⟨diff, differs⟩ := Symbols.compare_eq_differ_of_ne equal
        simp only [differs]
        by_cases update : options.update = true
        next =>
          simp only [update, if_true]
          refine (bind (updateGolden test fixture true (some listing)) fun _ _ => pure _).congr
            fun before pass after => ?_
          grind
        next =>
          simp only [update]
          exact (log_bind_fails test fun _ => throw _).congr (by simp [equal])
    next =>
      rintro ⟨listing, between, listed, ⟨equal, rfl, rfl⟩ | ⟨different, update, rfl, rewritten⟩⟩
      next => exact .same present listed equal
      next => exact .updated present listed different update rewritten
    next =>
      intro compared
      cases compared with
      | absent present' => simp [present] at present'
      | same present' listed equal =>
        obtain rfl := Option.some.inj (present.symm.trans present')
        exact ⟨_, _, listed, .inl ⟨equal, rfl, rfl⟩⟩
      | updated present' listed different update rewritten =>
        obtain rfl := Option.some.inj (present.symm.trans present')
        exact ⟨_, _, listed, .inr ⟨different, update, rfl, rewritten⟩⟩

theorem compareActual (fixture : Fixture) (isAccepted : Bool) :
    Meets (Trial.compareActual setup options test fixture isAccepted)
      (ActualCompared setup options test fixture isAccepted) := by
  refine (bindTo (fun comparison before pass after =>
      comparison = .agree ∧ (isAccepted = false ∧ pass = .ok ∧ after = before ∨
        isAccepted = true ∧ SymbolsCompared setup options test fixture before pass after) ∨
      comparison ≠ .agree ∧ options.update = true ∧ pass = .updated .artifact ∧
        Rewritten test fixture isAccepted none before after)
    (diffFiles setup .diff test.expected (actual test isAccepted)) fun comparison _ => ?_).congr
      fun before pass after => ⟨?_, ?_⟩
  next =>
    cases comparison with
    | agree =>
      cases isAccepted with
      | false => exact (pure _).congr fun before pass after => by simp
      | true =>
        exact (compareSymbols setup options test fixture).congr fun before pass after => by simp
    | differ diff =>
      by_cases update : options.update = true
      next =>
        simp only [update, if_true]
        refine (bind (updateGolden test fixture isAccepted none) fun _ _ => pure _).congr
          fun before pass after => ?_
        grind
      next =>
        simp only [update]
        exact (log_bind_fails test fun _ => throw _).congr (by simp)
  next =>
    rintro ⟨comparison, between, ⟨output, answered, judged⟩, followed⟩
    rcases judged with ⟨success, rfl⟩ | ⟨different, rfl⟩
    next =>
      rcases followed with ⟨-, ⟨verdict, rfl, rfl⟩ | ⟨verdict, symbols⟩⟩ | ⟨different, -⟩
      next => exact .rejected verdict ⟨output, answered, success⟩
      next => exact .accepted verdict ⟨output, answered, success⟩ symbols
      next => exact absurd rfl different
    next =>
      rcases followed with ⟨agreed, -⟩ | ⟨-, update, rfl, rewritten⟩
      next => cases agreed
      next => exact .updated ⟨output, answered, different⟩ update rewritten
  next =>
    intro compared
    cases compared with
    | rejected verdict same =>
      obtain ⟨output, answered, success⟩ := same
      exact ⟨.agree, after, ⟨output, answered, .inl ⟨success, rfl⟩⟩,
        .inl ⟨rfl, .inl ⟨verdict, rfl, rfl⟩⟩⟩
    | accepted verdict same symbols =>
      obtain ⟨output, answered, success⟩ := same
      exact ⟨.agree, _, ⟨output, answered, .inl ⟨success, rfl⟩⟩,
        .inl ⟨rfl, .inr ⟨verdict, symbols⟩⟩⟩
    | updated different update rewritten =>
      obtain ⟨output, answered, exited⟩ := different
      exact ⟨.differ output.combined, _, ⟨output, answered, .inr ⟨exited, rfl⟩⟩,
        .inr ⟨by simp, update, rfl, rewritten⟩⟩

theorem drive : Meets (Trial.drive setup options test) (Driven setup options test) := by
  refine (bind (load test.fixture) fun fixture _ =>
    bind (materialize test fixture) fun _ _ =>
    note_bind fun _ =>
    bind (checkFormat setup test (Directives.ofSource fixture.source)) fun _ _ =>
    note_bind fun _ =>
    bindTo (fun verdict before pass after => ∃ ready,
        Readied setup test options.versions verdict.isAccepted before ready ∧
          ActualCompared setup options test fixture verdict.isAccepted ready pass after)
      (compile setup test (Directives.ofSource fixture.source)) fun verdict _ => ?_).congr
        fun before pass after => ?_
  next =>
    -- Diagnostics are compared as they are.
    cases verdict.isAccepted with
    | false =>
      exact (compareActual setup options test fixture false).congr
        fun before pass after => by simp [Readied]
    | true =>
      exact (note_bind fun _ => bind (normalize setup test options.versions) fun _ _ =>
        compareActual setup options test fixture true).congr
          fun before pass after => by simp [Readied]
  next =>
    constructor
    next =>
      rintro ⟨fixture, _, ⟨loaded, rfl⟩, _, written, materialized, check, checked, settled,
        verdict, compiled, judged, ready, readied, compared⟩
      exact ⟨fixture, verdict.isAccepted, ready, loaded,
        ⟨check, verdict, written, checked, compiled, materialized, settled, judged, rfl, readied⟩,
        compared⟩
    next =>
      rintro ⟨fixture, _, ready, loaded, ⟨check, verdict, written, checked, compiled, materialized,
        settled, judged, rfl, readied⟩, compared⟩
      exact ⟨fixture, before, ⟨loaded, rfl⟩, (), written, materialized, check, checked, settled,
        verdict, compiled, judged, ready, readied, compared⟩

end Meets

end Trial

end GoldenSuite
