import GoldenSuite.Proofs.Trial.Convergence
import GoldenSuite.Proofs.Trial.Course
import GoldenSuite.Proofs.Trial.Lockstep

set_option autoImplicit false

namespace GoldenSuite

namespace TestCase

-- The siblings that a run does not write at once.
def later (test : TestCase) : List Path :=
  [test.formatted, test.artifact, test.object, test.errorLog, test.negative, test.bitcode]

theorem mem_generated_iff {test : TestCase} {place : List Path.Component} :
    place ∈ test.generated.map Path.components ↔
      place ∈ [test.source, test.expected].map Path.components ∨
        place ∈ test.later.map Path.components := by
  simp only [generated, later, List.map_cons, List.map_nil, List.mem_cons, List.not_mem_nil]
  grind

theorem materialize_of_open (test : TestCase) (fixture : Fixture) {files : Store}
    (isOpen : files.isSealed = false) :
    test.materialize fixture files = (.ok (), (files.insert test.source
      fixture.source.toUTF8).insert test.expected fixture.artifact.toUTF8) := by
  have stillOpen : (files.insert test.source fixture.source.toUTF8).isSealed = false := isOpen
  unfold materialize
  rw [Store.write_of_open isOpen]
  exact Store.write_of_open stillOpen _ _

theorem materialize_of_sealed (test : TestCase) (fixture : Fixture) {files : Store}
    (sealed : files.isSealed = true) :
    test.materialize fixture files = (.error (.io (.readOnly test.source.text)), files) := by
  unfold materialize
  rw [Store.write_of_sealed sealed]

end TestCase

namespace Trial

/-- Tools that have no memory and write nothing but generated files. A call goes by the files that
are named in it, that of the compiler by the source alone. -/
structure Reproducible (setup : Setup Store) (test : TestCase) : Prop where
  confined : Confined setup.tools test
  stateless (invocation : Invocation) :
    GoesBy setup.tools (invocation.args.map fun arg => ⟨arg⟩) invocation
  compiler (directives : Directives) :
    GoesBy setup.tools [test.source] (compilerInvocation setup.config test directives)

-- The arguments that are no operands, but may name files all the same.
def plainArgs (config : Config) (options : RunOptions) : List String :=
  config.diffArgs ++ config.symbolDumpArgs ++ if options.versions.isSome then ["-o"] else []

/-- Tools that succeed settle what is read after them, and no option names a file before that. -/
structure Settling (setup : Setup Store) (options : RunOptions) (test : TestCase)
    (fixture : Fixture) : Prop where
  artifact : Makes setup.tools [test.source]
    (compilerInvocation setup.config test (.ofSource fixture.source)) test.artifact
  object (compared : fixture.symbols.isSome = true) : Makes setup.tools [test.source]
    (compilerInvocation setup.config test (.ofSource fixture.source)) test.object
  bitcode {versions : VersionPair} (asked : options.versions = some versions) {file : Path}
      (own : file ∈ [test.expected, test.artifact]) :
    GoesBy setup.tools [file] (assembly setup.config test versions file) ∧
      Makes setup.tools [file] (assembly setup.config test versions file) test.bitcode
  elsewhere {option : String} (given : option ∈ plainArgs setup.config options) :
    Path.components ⟨option⟩ ∉ test.later.map Path.components

-- What is settled once the compiler has given its verdict.
def settledOutputs (test : TestCase) (fixture : Fixture) (isAccepted : Bool) : List Path :=
  if isAccepted then test.artifact :: if fixture.symbols.isSome then [test.object] else []
  else [test.negative]

theorem actual_mem_settledOutputs (test : TestCase) (fixture : Fixture) (isAccepted : Bool) :
    actual test isAccepted ∈ settledOutputs test fixture isAccepted := by
  cases isAccepted <;> simp [actual, settledOutputs]

-- An option that names no later file names one that is settled, or none of the generated ones.
theorem Agrees.plain_eq {test : TestCase} {settled : List Path} {left right : Store}
    (agrees : Agrees test settled left right) (begun : [test.source, test.expected] ⊆ settled)
    {path : Path} (apart : path.components ∉ test.later.map Path.components) :
    left.find? path = right.find? path := by
  by_cases generated : path.components ∈ test.generated.map Path.components
  next =>
    obtain among | later := TestCase.mem_generated_iff.1 generated
    next =>
      obtain ⟨other, own, same⟩ := List.mem_map.1 among
      rw [← left.find?_congr same, ← right.find?_congr same]
      exact agrees.settled_eq other (begun own)
    next => exact absurd later apart
  next => exact agrees.elsewhere_eq generated

namespace Lockstep

variable {setup : Setup Store} {options : RunOptions} {test : TestCase} {fixture : Fixture}
variable {settled : List Path}

theorem load (apart : test.Apart) :
    Lockstep test settled (Trial.load test.fixture) fun _ => settled := by
  intro one other agrees
  have same : Fixture.load one.files test.fixture = Fixture.load other.files test.fixture :=
    Store.load_congr (agrees.elsewhere_eq apart.fixture_notMem)
  simp only [Together, attempt_load, ← same]
  cases Fixture.load one.files test.fixture with
  | ok fixture => exact ⟨rfl, agrees⟩
  | error error => exact ⟨rfl, agrees.mono (List.nil_subset _)⟩

theorem materialize (fixture : Fixture) :
    Lockstep test settled (Trial.onFiles (test.materialize fixture))
      fun _ => test.expected :: test.source :: settled := by
  refine onFiles fun left right agrees => ?_
  have sameSeal := agrees.alike.isSealed_eq
  cases sealed : left.isSealed with
  | false =>
    exact .inl ⟨(), _, _, TestCase.materialize_of_open test fixture sealed,
      TestCase.materialize_of_open test fixture (sameSeal.trans sealed),
      (agrees.insert _ _).insert _ _⟩
  | true =>
    exact .inr ⟨_, _, _, TestCase.materialize_of_sealed test fixture sealed,
      TestCase.materialize_of_sealed test fixture (sameSeal.trans sealed),
      agrees.mono (List.nil_subset _)⟩

-- What a call names is known if its options are plain and its operands are settled.
theorem known_of_named (settling : Settling setup options test fixture)
    (begun : [test.source, test.expected] ⊆ settled) {plain operands : List String}
    (plainGiven : plain ⊆ plainArgs setup.config options)
    (operandsSettled : ∀ operand ∈ operands, ⟨operand⟩ ∈ settled) (left right : Store)
    (agrees : Agrees test settled left right) :
    ∀ path ∈ (plain ++ operands).map fun arg => (⟨arg⟩ : Path),
      left.find? path = right.find? path := by
  intro path named
  obtain ⟨arg, among, rfl⟩ := List.mem_map.1 named
  rcases List.mem_append.1 among with option | operand
  next => exact agrees.plain_eq begun (settling.elsewhere (plainGiven option))
  next => exact agrees.settled_eq _ (operandsSettled arg operand)

theorem diffFiles (reproducible : Reproducible setup test)
    (settling : Settling setup options test fixture)
    (begun : [test.source, test.expected] ⊆ settled) (stage : Stage) {expected actual : Path}
    (expectedSettled : expected ∈ settled) (actualSettled : actual ∈ settled) :
    Lockstep test settled (Trial.diffFiles setup stage expected actual) fun _ => settled := by
  have plain : setup.config.diffArgs ⊆ plainArgs setup.config options := by
    simp [plainArgs]
  have operands : ∀ operand ∈ [expected.text, actual.text], (⟨operand⟩ : Path) ∈ settled :=
    List.forall_mem_cons.2 ⟨expectedSettled, List.forall_mem_singleton.2 actualSettled⟩
  refine (execPlain reproducible.confined (reproducible.stateless _)
    (known_of_named settling begun plain operands)).bind fun output => ?_
  split
  next => exact pure _
  next => exact pure _
  next => exact throw _ _

theorem checkFormat (reproducible : Reproducible setup test)
    (settling : Settling setup options test fixture)
    (begun : [test.source, test.expected] ⊆ settled) (directives : Directives) :
    Lockstep test settled (Trial.checkFormat setup test directives) fun _ => settled := by
  unfold Trial.checkFormat
  split
  next => exact pure _
  next formatter _ =>
    have known (left right : Store) (agrees : Agrees test settled left right) :
        ∀ path ∈ [test.source.text].map fun arg => (⟨arg⟩ : Path),
          left.find? path = right.find? path :=
      List.forall_mem_singleton.2 (agrees.settled_eq test.source (begun (by simp)))
    refine (execPlain reproducible.confined (reproducible.stateless _) known).bind fun output => ?_
    cases crashed : output.crashed with
    | true =>
      simp only [if_true]
      exact fail _ fun _ => throw_bind _ _ _
    | false =>
      cases success : output.success with
      | false =>
        simp only [Bool.not_false, if_true]
        exact pure _
      | true =>
        refine (write test.formatted output.stdout).bind fun _ => ?_
        have begun' : [test.source, test.expected] ⊆ test.formatted :: settled :=
          List.Subset.trans begun (List.subset_cons_self _ _)
        refine (diffFiles reproducible settling begun' .format (begun' (by simp))
          (by simp)).bind fun comparison => ?_
        split
        next => exact (pure _).mono fun _ => List.subset_cons_self _ _
        next => exact fail _ fun _ => throw _ _

theorem compile (reproducible : Reproducible setup test)
    (settling : Settling setup options test fixture)
    (begun : [test.source, test.expected] ⊆ settled) :
    Lockstep test settled (Trial.compile setup test (.ofSource fixture.source))
      fun verdict => settledOutputs test fixture verdict.isAccepted ++ settled := by
  have makes : ∀ path ∈ settledOutputs test fixture true, Makes setup.tools [test.source]
      (compilerInvocation setup.config test (.ofSource fixture.source)) path := by
    simp only [settledOutputs, if_true, List.forall_mem_cons]
    refine ⟨settling.artifact, ?_⟩
    split
    next compared => exact List.forall_mem_singleton.2 (settling.object compared)
    next => simp
  have known (left right : Store) (agrees : Agrees test settled left right) :
      ∀ path ∈ [test.source], left.find? path = right.find? path :=
    List.forall_mem_singleton.2 (agrees.settled_eq test.source (begun (by simp)))
  refine (exec reproducible.confined (reproducible.compiler _) makes known).bind fun output => ?_
  cases crashed : output.crashed with
  | true =>
    simp only [if_true]
    exact fail _ fun _ => throw_bind _ _ _
  | false =>
    cases success : output.success with
    | true => exact pure (Verdict.accepted test.artifact)
    | false => exact (write test.negative output.combined).bind fun _ => pure (Verdict.rejected _)

theorem patch {file : Path} (fileSettled : file ∈ settled) :
    Lockstep test settled (Trial.patch setup file) fun _ => settled := by
  refine (read fileSettled).bind fun text => ?_
  exact (write file (setup.volatile.strip text)).mono fun _ => List.subset_cons_self _ _

theorem convert (reproducible : Reproducible setup test)
    (settling : Settling setup options test fixture)
    (begun : [test.source, test.expected] ⊆ settled) {versions : VersionPair}
    (asked : options.versions = some versions) {file : Path}
    (own : file ∈ [test.expected, test.artifact]) (fileSettled : file ∈ settled) :
    Lockstep test settled (Trial.convert setup test versions file) fun _ => settled := by
  obtain ⟨goesBy, makes⟩ := settling.bitcode asked own
  have known (left right : Store) (agrees : Agrees test settled left right) :
      ∀ path ∈ [file], left.find? path = right.find? path :=
    List.forall_mem_singleton.2 (agrees.settled_eq file fileSettled)
  refine (execChecked reproducible.confined goesBy (List.forall_mem_singleton.2 makes)
    known).bind fun _ => ?_
  have begun' : [test.source, test.expected] ⊆ [test.bitcode] ++ settled :=
    List.Subset.trans begun (List.subset_cons_self _ _)
  have plain : ["-o"] ⊆ plainArgs setup.config options := by
    simp [plainArgs, asked]
  have operands : ∀ operand ∈ [file.text, test.bitcode.text],
      (⟨operand⟩ : Path) ∈ [test.bitcode] ++ settled :=
    List.forall_mem_cons.2 ⟨List.mem_cons_of_mem _ fileSettled, by simp⟩
  have nothing : ∀ path ∈ ([] : List Path), Makes setup.tools
      ((["-o"] ++ [file.text, test.bitcode.text]).map fun arg => ⟨arg⟩)
      (disassembly setup.config test versions file) path := by simp
  refine (execChecked reproducible.confined (reproducible.stateless _) nothing
    (known_of_named settling begun' plain operands)).bind fun _ => ?_
  exact (pure ()).mono fun _ => List.subset_cons_self _ _

theorem normalize (reproducible : Reproducible setup test)
    (settling : Settling setup options test fixture)
    (begun : [test.source, test.expected] ⊆ settled) (artifactSettled : test.artifact ∈ settled) :
    Lockstep test settled (Trial.normalize setup test options.versions) fun _ => settled := by
  have expectedSettled : test.expected ∈ settled := begun (by simp)
  have translates : Lockstep test settled
      (options.versions.forM (Trial.convertBoth setup test)) fun _ => settled := by
    cases asked : options.versions with
    | none => exact pure ()
    | some versions =>
      have converts {file : Path} (own : file ∈ [test.expected, test.artifact])
          (fileSettled : file ∈ settled) :=
        convert reproducible settling begun asked own fileSettled
      exact note_bind fun _ => (converts (by simp) expectedSettled).bind fun _ =>
        (patch expectedSettled).bind fun _ => converts (by simp) artifactSettled
  refine (holds artifactSettled).bind fun found => ?_
  split
  next => exact throw_bind _ _ _
  next => exact translates.bind fun _ => patch artifactSettled

theorem dumpSymbols (reproducible : Reproducible setup test)
    (settling : Settling setup options test fixture)
    (begun : [test.source, test.expected] ⊆ settled) (objectSettled : test.object ∈ settled) :
    Lockstep test settled (Trial.dumpSymbols setup test) fun _ => settled := by
  have plain : setup.config.symbolDumpArgs ⊆ plainArgs setup.config options := by
    simp [plainArgs]
  have operands : ∀ operand ∈ [test.object.text], (⟨operand⟩ : Path) ∈ settled :=
    List.forall_mem_singleton.2 objectSettled
  refine (execPlain reproducible.confined (reproducible.stateless _)
    (known_of_named settling begun plain operands)).bind fun output => ?_
  split
  next => exact pure _
  next => exact fail _ fun _ => throw _ _

theorem updateGolden {isAccepted : Bool} (actualSettled : actual test isAccepted ∈ settled)
    (listing : Option String) :
    Lockstep test settled (Trial.updateGolden test fixture isAccepted listing)
      fun _ => settled := by
  refine (read actualSettled).bind fun text => ?_
  refine (write test.fixture _).bind fun _ => ?_
  exact (note _ _).mono fun _ => List.subset_cons_self _ _

theorem compareSymbols (reproducible : Reproducible setup test)
    (settling : Settling setup options test fixture)
    (begun : [test.source, test.expected] ⊆ settled)
    (outputs : settledOutputs test fixture true ⊆ settled) :
    Lockstep test settled (Trial.compareSymbols setup options test fixture)
      fun _ => settled := by
  unfold Trial.compareSymbols
  split
  next => exact pure _
  next expected present =>
    have objectSettled : test.object ∈ settled := outputs (by simp [settledOutputs, present])
    have actualSettled : actual test true ∈ settled :=
      outputs (actual_mem_settledOutputs test fixture true)
    refine note_bind fun _ => ?_
    refine (dumpSymbols reproducible settling begun objectSettled).bind fun listing => ?_
    split
    next => exact pure _
    next =>
      split
      next => exact (updateGolden actualSettled (some listing)).bind fun _ => pure _
      next => exact fail _ fun _ => throw _ _

theorem compareActual (reproducible : Reproducible setup test)
    (settling : Settling setup options test fixture)
    (begun : [test.source, test.expected] ⊆ settled) (isAccepted : Bool)
    (outputs : settledOutputs test fixture isAccepted ⊆ settled) :
    Lockstep test settled (Trial.compareActual setup options test fixture isAccepted)
      fun _ => settled := by
  have actualSettled := outputs (actual_mem_settledOutputs test fixture isAccepted)
  refine (diffFiles reproducible settling begun .diff (begun (by simp))
    actualSettled).bind fun comparison => ?_
  split
  next =>
    cases isAccepted with
    | true => exact compareSymbols reproducible settling begun outputs
    | false => exact pure _
  next =>
    split
    next => exact (updateGolden actualSettled none).bind fun _ => pure _
    next => exact fail _ fun _ => throw _ _

-- Which files the tools have to settle is known once the fixture is loaded.
theorem drive (reproducible : Reproducible setup test) (apart : test.Apart)
    {one other : World Store} (agrees : Agrees test [] one.files other.files)
    (settling : ∀ fixture, Fixture.load one.files test.fixture = .ok fixture →
      Settling setup options test fixture) :
    Together test (Trial.drive setup options test) (fun _ => []) one other := by
  unfold Trial.drive
  refine bind_at agrees (load apart) fun fixture left came => ?_
  have loaded : Fixture.load one.files test.fixture = .ok fixture :=
    ((Meets.load test.fixture one fixture _).1 ⟨left, came, rfl⟩).1
  have relied := settling fixture loaded
  let begun := [test.expected, test.source]
  have begun_subset (more : List Path) : [test.source, test.expected] ⊆ more ++ begun := by
    simp [begun]
  refine (materialize fixture).bind fun _ => note_bind fun _ => ?_
  refine (checkFormat reproducible relied (begun_subset []) _).bind fun _ => note_bind fun _ => ?_
  refine (compile reproducible relied (begun_subset [])).bind fun verdict => ?_
  cases verdict with
  | accepted artifact =>
    have artifactSettled : test.artifact ∈ settledOutputs test fixture true ++ begun := by
      simp [settledOutputs]
    refine note_bind fun _ => ?_
    refine (normalize reproducible relied (begun_subset _) artifactSettled).bind fun _ => ?_
    exact (compareActual reproducible relied (begun_subset _) true
      (List.subset_append_left _ _)).mono fun _ => List.nil_subset _
  | rejected diagnostics =>
    exact (compareActual reproducible relied (begun_subset _) false
      (List.subset_append_left _ _)).mono fun _ => List.nil_subset _

end Lockstep

section Executing

variable {setup : Setup Store} {options : RunOptions} {test : TestCase}

-- Both runs of a test, and what is done after them.
theorem execute_together (reproducible : Reproducible setup test) (apart : test.Apart)
    {one other : World Store} (alike : Store.ChangesOnly test.generated one.files other.files)
    (settling : ∀ fixture, Fixture.load one.files test.fixture = .ok fixture →
      Settling setup options test fixture) :
    (Action.execute setup options test one).1 = (Action.execute setup options test other).1 ∧
      Store.ChangesOnly test.generated (Action.execute setup options test one).2.files
        (Action.execute setup options test other).2.files := by
  have agrees : Agrees test [] one.files other.files := ⟨alike, by simp⟩
  obtain ⟨same, driven⟩ := Lockstep.drive reproducible apart agrees settling
  rw [execute_eq, execute_eq]
  refine ⟨same, ?_⟩
  exact (driven.changed (Action.conclude_changesOnly options test _ _)
    (Action.conclude_changesOnly options test _ _)).alike

-- A run that does not report an update leaves everything but the generated files as it was.
theorem execute_changesOnly (confined : Confined setup.tools test) (options : RunOptions)
    (world : World Store)
    (other : ∀ update, (Action.execute setup options test world).1 ≠ .ok (.updated update)) :
    Store.ChangesOnly test.generated world.files
      (Action.execute setup options test world).2.files := by
  have upheld : (Course.untilUpdate (Store.ChangesOnly test.generated world.files)).Upheld setup
      test := by
    refine Course.untilUpdate_upheld ?_ ?_ ?_ ?_
    next => exact fun history invocation files known => known.trans (confined _ _ _)
    next => exact fun path own files data known => known.trans (.write own files data)
    next => exact fun path own files known => known.trans (.remove own files)
    next =>
      intro files data error after known failed
      rwa [Store.eq_of_refused failed]
  have kept := Action.execute_keeps upheld options (Store.ChangesOnly.refl _ _)
  rcases outcome : (Action.execute setup options test world).1 with failure | pass
  next =>
    rw [outcome] at kept
    exact kept
  next =>
    rw [outcome] at kept
    cases pass with
    | updated update => exact absurd outcome (other update)
    | ok | dumped => exact kept

/-- What earlier runs left of the generated files has no say in the outcome, nor in what the fixture
holds afterwards. So a run after one that did not update the fixture ends as it would have ended
in its place. -/
theorem execute_ignores_leftovers (reproducible : Reproducible setup test) (apart : test.Apart)
    {one other : World Store} (alike : Store.ChangesOnly test.generated one.files other.files)
    (settling : ∀ fixture, Fixture.load one.files test.fixture = .ok fixture →
      Settling setup options test fixture) :
    (Action.execute setup options test one).1 = (Action.execute setup options test other).1 ∧
    (Action.execute setup options test one).2.files.find? test.fixture =
      (Action.execute setup options test other).2.files.find? test.fixture ∧
    ∀ earlier : RunOptions,
      (∀ update, (Action.execute setup earlier test one).1 ≠ .ok (.updated update)) →
        (Action.execute setup options test (Action.execute setup earlier test one).2).1 =
          (Action.execute setup options test one).1 ∧
        (Action.execute setup options test
            (Action.execute setup earlier test one).2).2.files.find? test.fixture =
          (Action.execute setup options test one).2.files.find? test.fixture := by
  obtain ⟨same, left⟩ := execute_together reproducible apart alike settling
  refine ⟨same, (left.find?_eq _ apart.fixture_notMem).symm, fun earlier notUpdated => ?_⟩
  have follows := execute_changesOnly reproducible.confined earlier one notUpdated
  obtain ⟨repeated, left'⟩ := execute_together reproducible apart follows settling
  exact ⟨repeated.symm, left'.find?_eq _ apart.fixture_notMem⟩

end Executing

section Samples

def insertAll (writes : List (Path × String)) (files : Store) : Store :=
  writes.foldl (fun files write => files.insert write.1 write.2.toUTF8) files

theorem insertAll_changesOnly {paths : List Path} {writes : List (Path × String)}
    (among : ∀ write ∈ writes, write.1 ∈ paths) (files : Store) :
    Store.ChangesOnly paths files (insertAll writes files) := by
  induction writes generalizing files with
  | nil => exact .refl _ _
  | cons write rest ih =>
    obtain ⟨head, tail⟩ := List.forall_mem_cons.1 among
    exact (Store.ChangesOnly.insert head files _).trans (ih tail _)

-- What is at a path afterwards is what was written there, or what was there.
theorem find?_insertAll (writes : List (Path × String)) (path : Path) :
    (∃ data, ∀ files, (insertAll writes files).find? path = some data) ∨
      (∀ write ∈ writes, write.1 ≠ path) ∧
        ∀ files, (insertAll writes files).find? path = files.find? path := by
  induction writes with
  | nil => exact .inr ⟨by simp, fun files => rfl⟩
  | cons write rest ih =>
    obtain ⟨data, written⟩ | ⟨others, kept⟩ := ih
    next => exact .inl ⟨data, fun files => written _⟩
    next =>
      by_cases here : path.components = write.1.components
      next =>
        refine .inl ⟨write.2.toUTF8, fun files => (kept _).trans ?_⟩
        rw [Store.find?_insert, if_pos here]
      next =>
        have elsewhere : write.1 ≠ path := fun same => here (congrArg _ same.symm)
        refine .inr ⟨List.forall_mem_cons.2 ⟨elsewhere, others⟩, fun files => (kept _).trans ?_⟩
        rw [Store.find?_insert, if_neg here]

-- A compiler that writes the same files whatever the source is; every other tool just succeeds.
def writingSetup (writes : List (Path × String)) : Setup Store where
  config := { compiler := "cc", formatter := none, volatileMarkers := [] }
  volatile := ⟨[]⟩
  tools := fun _ invocation files =>
    (.ok (StandIn.succeeded ""),
      if invocation.program = "cc" then insertAll writes files else files)

theorem writingSetup_goesBy (writes : List (Path × String)) (given : List Path)
    (invocation : Invocation) : GoesBy (writingSetup writes).tools given invocation := by
  intro earlier later left right same
  refine ⟨rfl, fun path => ?_⟩
  simp only [writingSetup]
  split
  next =>
    obtain ⟨data, written⟩ | ⟨-, kept⟩ := find?_insertAll writes path
    next => exact .inl ((written left).trans (written right).symm)
    next => exact .inr ⟨kept left, kept right⟩
  next => exact .inr ⟨rfl, rfl⟩

theorem writingSetup_makes {writes : List (Path × String)} {write : Path × String}
    (among : write ∈ writes) (directives : Directives) :
    Makes (writingSetup writes).tools [sampleTest.source]
      (compilerInvocation (writingSetup writes).config sampleTest directives) write.1 := by
  intro earlier later left right same output answered exited
  obtain ⟨data, written⟩ | ⟨others, -⟩ := find?_insertAll writes write.1
  next => exact (written left).trans (written right).symm
  next => exact absurd rfl (others write among)

theorem writingSetup_reproducible {writes : List (Path × String)}
    (among : ∀ write ∈ writes, write.1 ∈ sampleTest.generated) :
    Reproducible (writingSetup writes) sampleTest where
  confined history invocation files := by
    simp only [writingSetup]
    split
    next => exact insertAll_changesOnly among files
    next => exact .refl _ _
  stateless invocation := writingSetup_goesBy writes _ invocation
  compiler directives := writingSetup_goesBy writes _ _

-- The sample as it is found, and with an artifact that an earlier run left.
def leftoverWorld (world : World Store) : World Store :=
  { world with files := world.files.insert sampleTest.artifact "new\n".toUTF8 }

theorem leftoverWorld_alike (world : World Store) :
    Store.ChangesOnly sampleTest.generated world.files (leftoverWorld world).files :=
  .insert (by simp [TestCase.generated]) _ _

-- A compiler that writes the artifact and the object file.
def fruitfulSetup : Setup Store :=
  writingSetup [(sampleTest.artifact, "new\n"), (sampleTest.object, "object")]

theorem fruitfulSetup_settling (update : Bool) (fixture : Fixture) :
    Settling fruitfulSetup { update } sampleTest fixture where
  artifact := by
    have writes : (sampleTest.artifact, "new\n") ∈
        [(sampleTest.artifact, "new\n"), (sampleTest.object, "object")] := by simp
    exact writingSetup_makes writes _
  object _ := by
    have writes : (sampleTest.object, "object") ∈
        [(sampleTest.artifact, "new\n"), (sampleTest.object, "object")] := by simp
    exact writingSetup_makes writes _
  bitcode asked := by cases asked
  elsewhere given := by
    have apart : ∀ option ∈ ["-uwB", "-fp"],
        Path.components ⟨option⟩ ∉ sampleTest.later.map Path.components := by decide +kernel
    exact apart _ given

-- The symbols are brought up to date alike, be there an old artifact or a failed run before.
theorem execute_ignores_leftovers_stale :
    let updating (world : World Store) :=
      Action.execute fruitfulSetup { update := true } sampleTest world
    let failed := Action.execute fruitfulSetup {} sampleTest staleWorld
    (updating staleWorld).1 = .ok (.updated .symbols) ∧
      (updating staleWorld).1 = (updating (leftoverWorld staleWorld)).1 ∧
      (updating staleWorld).2.files.find? sampleTest.fixture =
        (updating (leftoverWorld staleWorld)).2.files.find? sampleTest.fixture ∧
      failed.1.toOption = none ∧
      (updating failed.2).1 = (updating staleWorld).1 := by
  have reproducible : Reproducible fruitfulSetup sampleTest :=
    writingSetup_reproducible (by simp [TestCase.generated])
  have failed : (Action.execute fruitfulSetup {} sampleTest staleWorld).1.toOption = none := by
    decide +kernel
  have notUpdated (update : Update) :
      (Action.execute fruitfulSetup {} sampleTest staleWorld).1 ≠ .ok (.updated update) := by
    intro updated
    rw [updated] at failed
    cases failed
  obtain ⟨same, kept, following⟩ := execute_ignores_leftovers reproducible sampleTest_apart
    (leftoverWorld_alike staleWorld) fun fixture _ => fruitfulSetup_settling true fixture
  exact ⟨outcome_eq_ok (by decide +kernel), same, kept, failed, (following {} notUpdated).1⟩

-- A compiler that succeeds without an artifact.
def barrenSetup : Setup Store := writingSetup []

def confirmedWorld : World Store :=
  sampleWorld sampleTest.fixture "\nint main() {}\n\n========\n\nnew\n"

def failure? : Outcome → Option Failure
  | .ok _ => none
  | .error failure => some failure

theorem outcome_eq_error {outcome : Outcome} {failure : Failure}
    (failed : failure? outcome = some failure) : outcome = .error failure := by
  cases outcome with
  | ok pass => cases failed
  | error found => exact congrArg Except.error (Option.some.inj failed)

-- A test passes on an artifact that was left over, and fails where there is none.
theorem barrenSetup_passes_on_leftovers :
    Reproducible barrenSetup sampleTest ∧ sampleTest.Apart ∧
      Store.ChangesOnly sampleTest.generated confirmedWorld.files
        (leftoverWorld confirmedWorld).files ∧
      (Action.execute barrenSetup {} sampleTest confirmedWorld).1 = .error (.noArtifact ".ll") ∧
      (Action.execute barrenSetup {} sampleTest (leftoverWorld confirmedWorld)).1 = .ok .ok :=
  ⟨writingSetup_reproducible (by simp), sampleTest_apart, leftoverWorld_alike confirmedWorld,
    outcome_eq_error (by decide +kernel), outcome_eq_ok (by decide +kernel)⟩

end Samples

end Trial

end GoldenSuite
