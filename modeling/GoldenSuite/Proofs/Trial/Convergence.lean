import GoldenSuite.Proofs.Symbols
import GoldenSuite.Proofs.Trial.Assertion
import GoldenSuite.Proofs.Trial.GoldenUpdate
import GoldenSuite.Proofs.Trial.Outcome
import GoldenSuite.Proofs.Trial.Replay

set_option autoImplicit false

namespace GoldenSuite.Trial

variable {setup : Setup Store} {test : TestCase}

theorem withoutBlanks_leftTrimmed (text : String) :
    StandIn.withoutBlanks (Text.leftTrimmed text) = StandIn.withoutBlanks text := by
  simp only [StandIn.withoutBlanks, Text.leftTrimmed, String.toList_ofList, Text.trimStart]
  induction text.toList with
  | nil => rfl
  | cons c rest ih => cases blank : Text.isBlank c <;> simp [blank, ih]

/-- What a run leaves that came through, compared with the fixture that it found. -/
structure Leaves (setup : Setup Store) (test : TestCase) (pass : Pass) (isAccepted : Bool)
    (ready after : Scene Store) (fixture stored : Fixture) : Prop where
  loaded : Fixture.load after.files test.fixture = .ok stored
  source_eq : stored.source = fixture.source
  -- The artifact was confirmed, or it is the actual output.
  artifact_settled :
    (pass ≠ .updated .artifact ∧ stored.artifact = fixture.artifact ∧
      ∃ compared, Scene.Exits setup.tools
        (diffInvocation setup.config test.expected (actual test isAccepted)) 0 ready compared) ∨
    ∃ output, FileSystem.read ready.files (actual test isAccepted) = .ok output ∧
      stored.artifact = Text.leftTrimmed output
  -- Unless only the artifact was written, the symbols were confirmed or written too.
  symbols_settled (done : pass ≠ .updated .artifact) (accepted : isAccepted = true) :
    ∃ scene : Scene Store, scene.files = ready.files ∧ SymbolsSettled setup test stored scene

section Leaving

variable {options : RunOptions} {fixture : Fixture} {isAccepted : Bool} {pass : Pass}
variable {before ready after : Scene Store}

theorem Rewritten.loads_framed (steady : Steady setup test) (apart : test.Apart)
    (versions : options.versions = none) (framed : Fixture.framed fixture.source = fixture.source)
    (undelimited : Undelimited setup test fixture.source)
    (loaded : Fixture.load before.files test.fixture = .ok fixture)
    (prepared : Prepared setup options test fixture isAccepted before ready)
    {listing : Option String} {between : Scene Store} (sameFiles : between.files = ready.files)
    (listingClear : ∀ fresh ∈ listing, ¬ Fixture.HoldsDelimiter fresh)
    (rewritten : Rewritten test fixture isAccepted listing between after) :
    ∃ output, FileSystem.read ready.files (actual test isAccepted) = .ok output ∧
      Fixture.load after.files test.fixture =
        .ok ⟨fixture.source, Text.leftTrimmed output,
          if isAccepted then (listing.map Text.leftTrimmed).or fixture.symbols else none⟩ := by
  obtain ⟨original, -, parsed⟩ := Fixture.load_eq_ok_iff.1 loaded
  have outputClear (output : String)
      (read : FileSystem.read between.files (actual test isAccepted) = .ok output) :
      ¬ Fixture.HoldsDelimiter output :=
    prepared.actual_clear steady apart versions undelimited (sameFiles ▸ read)
  obtain ⟨output, read, stored⟩ := rewritten.loads parsed outputClear fun _ => listingClear
  rw [framed] at stored
  exact ⟨output, sameFiles ▸ read, stored⟩

theorem ActualCompared.leaves (steady : Steady setup test) (apart : test.Apart)
    (versions : options.versions = none) (framed : Fixture.framed fixture.source = fixture.source)
    (undelimited : Undelimited setup test fixture.source)
    (loaded : Fixture.load before.files test.fixture = .ok fixture)
    (prepared : Prepared setup options test fixture isAccepted before ready)
    (compared : ActualCompared setup options test fixture isAccepted ready pass after) :
    ∃ stored, Leaves setup test pass isAccepted ready after fixture stored := by
  -- Up to the comparison the fixture is left alone.
  have kept : Fixture.load ready.files test.fixture = .ok fixture := by
    rw [Store.load_congr ((prepared.changesOnly steady versions).find?_eq _ apart.fixture_notMem)]
    exact loaded
  cases compared with
  | rejected verdict same =>
    exact ⟨fixture, diff_files_eq steady same ▸ kept, rfl, .inl ⟨by simp, rfl, after, same⟩,
      by simp [verdict]⟩
  | @accepted _ _ between _ verdict same symbols =>
    have sameFiles := diff_files_eq steady same
    cases symbols with
    | absent none =>
      exact ⟨fixture, sameFiles ▸ kept, rfl, .inl ⟨by simp, rfl, _, same⟩,
        fun _ _ => ⟨_, sameFiles, .inl none⟩⟩
    | same present listed equal =>
      have listedFiles := listed.files_eq steady
      exact ⟨fixture, listedFiles ▸ sameFiles ▸ kept, rfl, .inl ⟨by simp, rfl, _, same⟩,
        fun _ _ => ⟨between, sameFiles, .inr ⟨_, _, _, present, listed, equal⟩⟩⟩
    | @updated expected listing _ listedScene _ present listed different update rewritten =>
      have listedFiles := (listed.files_eq steady).trans sameFiles
      obtain rfl := verdict
      obtain ⟨output, read, stored⟩ := rewritten.loads_framed steady apart versions framed
        undelimited loaded prepared listedFiles (by simpa using undelimited.listing listed)
      -- The listing comes back from the fixture as it was listed.
      have whole : Text.leftTrimmed listing = listing := by
        obtain ⟨_, -, -, rfl⟩ := listed
        exact Symbols.leftTrimmed_filter _
      refine ⟨_, stored, rfl, .inr ⟨output, read, rfl⟩, fun _ _ => ⟨between, sameFiles, ?_⟩⟩
      exact .inr ⟨listing, listing, listedScene, by simp [whole], listed, rfl⟩
  | updated different update rewritten =>
    have sameFiles := diff_files_eq steady different
    obtain ⟨output, read, stored⟩ := rewritten.loads_framed steady apart versions framed
      undelimited loaded prepared sameFiles (by simp)
    exact ⟨_, stored, rfl, .inr ⟨output, read, rfl⟩, fun done => absurd rfl done⟩

theorem Rewritten.changesOnly {listing : Option String}
    (rewritten : Rewritten test fixture isAccepted listing before after) :
    Store.ChangesOnly test.files before.files after.files := by
  obtain ⟨_, -, writes⟩ := rewritten
  exact writes.changesOnly (by simp [TestCase.files])

theorem ActualCompared.changesOnly (steady : Steady setup test)
    (compared : ActualCompared setup options test fixture isAccepted ready pass after) :
    Store.ChangesOnly test.files ready.files after.files := by
  cases compared with
  | rejected verdict same => exact diff_files_eq steady same ▸ .refl _ _
  | accepted verdict same symbols =>
    rw [← diff_files_eq steady same]
    cases symbols with
    | absent none => exact .refl _ _
    | same present listed equal => exact listed.files_eq steady ▸ .refl _ _
    | updated present listed different update rewritten =>
      rw [← listed.files_eq steady]
      exact rewritten.changesOnly
  | updated different update rewritten =>
    rw [← diff_files_eq steady different]
    exact rewritten.changesOnly

end Leaving

section Following

variable {options next : RunOptions} {fixture stored : Fixture} {isAccepted : Bool} {pass : Pass}
variable {before ready after start ready' : Scene Store}

-- An artifact that was written from the output agrees with the same output.
theorem diff_agrees_of_written (steady : Steady setup test) (apart : test.Apart)
    (versions : next.versions = none)
    (prepared' : Prepared setup next test stored isAccepted start ready')
    (alike : Alike test (outputs test isAccepted) ready.files ready'.files) {output : String}
    (read : FileSystem.read ready.files (actual test isAccepted) = .ok output)
    (written : stored.artifact = Text.leftTrimmed output) :
    ∃ answer, answer.exit = .status 0 ∧ (setup.tools ready'.calls
      (diffInvocation setup.config test.expected (actual test isAccepted)) ready'.files).1 =
        .ok answer := by
  have expectedHolds := prepared'.expected_eq steady apart versions
  have actualHolds : ready'.files.find? (actual test isAccepted) = some output.toUTF8 := by
    rw [← alike.shared_eq _ (actual_mem_outputs test isAccepted)]
    exact Store.read_eq_ok_iff.1 read
  refine steady.diff_agrees _ _ _ _ _ _ expectedHolds actualHolds ?_
  rw [written, withoutBlanks_leftTrimmed]

-- The comparison of the artifact finds no difference in a run after one that came through.
theorem Leaves.compares (steady : Steady setup test) (elsewhere : OptionsElsewhere setup test)
    (apart : test.Apart) (versions : options.versions = none) (versions' : next.versions = none)
    (prepared : Prepared setup options test fixture isAccepted before ready)
    (leaves : Leaves setup test pass isAccepted ready after fixture stored)
    (prepared' : Prepared setup next test stored isAccepted start ready')
    (alike : Alike test (outputs test isAccepted) ready.files ready'.files) :
    ∃ compared, Scene.Exits setup.tools
      (diffInvocation setup.config test.expected (actual test isAccepted)) 0 ready' compared := by
  obtain ⟨-, kept, compared, same⟩ | ⟨output, read, written⟩ := leaves.artifact_settled
  next =>
    -- The artifact was confirmed, and the same two files are compared once more.
    have expectedSame : ready.files.find? test.expected = ready'.files.find? test.expected := by
      rw [prepared.expected_eq steady apart versions, prepared'.expected_eq steady apart versions',
        kept]
    exact diff_again steady elsewhere (alike.extend expectedSame) (by simp)
      (List.mem_cons_of_mem _ (actual_mem_outputs test isAccepted)) same
  next =>
    -- The artifact was written, and is the output again but for blanks.
    obtain ⟨answer, success, answered⟩ :=
      diff_agrees_of_written steady apart versions' prepared' alike read written
    exact ⟨_, answer, Scene.answers_iff.2 ⟨answered, rfl⟩, success⟩

theorem SymbolsSettled.again (steady : Steady setup test)
    (elsewhere : OptionsElsewhere setup test) {shared : List Path} {left right : Scene Store}
    (alike : Alike test shared left.files right.files) (objectShared : test.object ∈ shared)
    (settled : SymbolsSettled setup test stored left) : SymbolsSettled setup test stored right := by
  obtain none | ⟨expected, listing, scene, present, listed, equal⟩ := settled
  next => exact .inl none
  next =>
    obtain ⟨later, listed'⟩ := listed.again steady elsewhere alike objectShared
    exact .inr ⟨expected, listing, later, present, listed', equal⟩

-- After a run that came through, the next one passes, unless symbols are left to be settled.
theorem Leaves.next_ok (steady : Steady setup test) (elsewhere : OptionsElsewhere setup test)
    (apart : test.Apart) (versions : options.versions = none) (versions' : next.versions = none)
    (prepared : Prepared setup options test fixture isAccepted before ready)
    (leaves : Leaves setup test pass isAccepted ready after fixture stored)
    (alike : Alike test [] before.files start.files)
    (loaded : Fixture.load start.files test.fixture = .ok stored)
    (done : pass ≠ .updated .artifact ∨ stored.symbols = none) :
    ∃ final, Driven setup next test start .ok final := by
  obtain ⟨ready', prepared'⟩ :=
    prepared.again steady elsewhere apart versions versions' leaves.source_eq alike
  obtain ⟨-, alikeReady⟩ :=
    prepared.agree steady apart versions versions' leaves.source_eq alike prepared'
  obtain ⟨compared, same⟩ :=
    leaves.compares steady elsewhere apart versions versions' prepared prepared' alikeReady
  refine (exists_driven_ok_iff setup next test start).2
    ⟨stored, isAccepted, compared, ⟨loaded, ready', prepared', same⟩, fun accepted => ?_⟩
  obtain settled | none := done
  next =>
    obtain ⟨scene, sameFiles, symbols⟩ := leaves.symbols_settled settled accepted
    rw [← sameFiles, ← diff_files_eq steady same, accepted] at alikeReady
    exact symbols.again steady elsewhere alikeReady (by simp [outputs])
  next => exact .inl none

-- No run updates the artifact right after another one did.
theorem Leaves.not_updated_again (steady : Steady setup test) (apart : test.Apart)
    (versions : options.versions = none) (versions' : next.versions = none)
    (prepared : Prepared setup options test fixture isAccepted before ready)
    (leaves : Leaves setup test (.updated .artifact) isAccepted ready after fixture stored)
    (alike : Alike test [] before.files start.files)
    (loaded : Fixture.load start.files test.fixture = .ok stored) (final : Scene Store) :
    ¬ Driven setup next test start (.updated .artifact) final := by
  rintro ⟨found, isAccepted', ready', loaded', prepared', compared⟩
  obtain rfl := Except.ok.inj (loaded.symm.trans loaded')
  obtain ⟨rfl, alikeReady⟩ :=
    prepared.agree steady apart versions versions' leaves.source_eq alike prepared'
  obtain ⟨settled, -⟩ | ⟨output, read, written⟩ := leaves.artifact_settled
  next => exact settled rfl
  next =>
    obtain ⟨answer, success, answered⟩ :=
      diff_agrees_of_written steady apart versions' prepared' alikeReady read written
    cases compared with
    | accepted verdict same symbols => cases symbols
    | updated different update rewritten =>
      obtain ⟨answer', answers, exited⟩ := different
      obtain rfl := Except.ok.inj (answered.symm.trans (Scene.answers_iff.1 answers).1)
      cases success.symm.trans exited

end Following

section Executing

variable {options next : RunOptions} {world : World Store} {fixture : Fixture} {pass : Pass}

theorem execute_ok (passed : (Action.execute setup options test world).1 = .ok pass) :
    ∃ after, Driven setup options test world.scene pass after ∧
      Store.ChangesOnly test.generated after.files
        (Action.execute setup options test world).2.files := by
  simp only [execute_eq] at passed ⊢
  have run := (Meets.drive setup options test world pass _).1
    ⟨(attempt (drive setup options test) world).2, Prod.ext passed rfl, rfl⟩
  rw [passed]
  exact ⟨_, run, Action.conclude_changesOnly options test (.ok pass) _⟩

theorem execute_leaves (steady : Steady setup test) (apart : test.Apart)
    (versions : options.versions = none)
    (loaded : Fixture.load world.files test.fixture = .ok fixture)
    (framed : Fixture.framed fixture.source = fixture.source)
    (undelimited : Undelimited setup test fixture.source)
    (passed : (Action.execute setup options test world).1 = .ok pass) :
    ∃ isAccepted ready after stored,
      Prepared setup options test fixture isAccepted world.scene ready ∧
      Leaves setup test pass isAccepted ready after fixture stored ∧
      Alike test [] world.files (Action.execute setup options test world).2.files ∧
      Fixture.load (Action.execute setup options test world).2.files test.fixture = .ok stored := by
  obtain ⟨after, ⟨found, isAccepted, ready, loaded', prepared, compared⟩, concluded⟩ :=
    execute_ok passed
  obtain rfl : fixture = found := Except.ok.inj (loaded.symm.trans loaded')
  obtain ⟨stored, leaves⟩ :=
    compared.leaves steady apart versions framed undelimited loaded prepared
  have changed : Store.ChangesOnly test.files world.files
      (Action.execute setup options test world).2.files :=
    ((prepared.changesOnly steady versions).mono TestCase.generated_subset_files).trans
      ((compared.changesOnly steady).trans (concluded.mono TestCase.generated_subset_files))
  refine ⟨isAccepted, ready, after, stored, prepared, leaves, ?_, ?_⟩
  next => exact .of_changesOnly prepared.isOpen changed
  next =>
    rw [Store.load_congr (concluded.find?_eq _ apart.fixture_notMem)]
    exact leaves.loaded

-- A run passes after one that came through, unless that one left symbols to be settled.
theorem execute_next_ok (steady : Steady setup test) (apart : test.Apart)
    (elsewhere : OptionsElsewhere setup test) (versions : options.versions = none)
    (versions' : next.versions = none)
    (loaded : Fixture.load world.files test.fixture = .ok fixture)
    (framed : Fixture.framed fixture.source = fixture.source)
    (undelimited : Undelimited setup test fixture.source)
    (passed : (Action.execute setup options test world).1 = .ok pass) {start : World Store}
    (follows : start.files = (Action.execute setup options test world).2.files)
    (done : pass ≠ .updated .artifact ∨ ∃ stored,
      Fixture.load start.files test.fixture = .ok stored ∧ stored.symbols = none) :
    (Action.execute setup next test start).1 = .ok .ok := by
  obtain ⟨isAccepted, ready, after, stored, prepared, leaves, alike, left⟩ :=
    execute_leaves steady apart versions loaded framed undelimited passed
  rw [← follows] at alike left
  have done' : pass ≠ .updated .artifact ∨ stored.symbols = none := by
    obtain settled | ⟨found, loaded', none⟩ := done
    next => exact .inl settled
    next =>
      obtain rfl := Except.ok.inj (left.symm.trans loaded')
      exact .inr none
  have driven : ∃ final, Driven setup next test start.scene .ok final :=
    leaves.next_ok steady elsewhere apart versions versions' prepared alike left done'
  exact (execute_eq_ok_iff setup next test start .ok).2 driven

theorem execute_not_updated_again (steady : Steady setup test) (apart : test.Apart)
    (versions : options.versions = none) (versions' : next.versions = none)
    (loaded : Fixture.load world.files test.fixture = .ok fixture)
    (framed : Fixture.framed fixture.source = fixture.source)
    (undelimited : Undelimited setup test fixture.source)
    (passed : (Action.execute setup options test world).1 = .ok (.updated .artifact))
    {start : World Store}
    (follows : start.files = (Action.execute setup options test world).2.files) :
    (Action.execute setup next test start).1 ≠ .ok (.updated .artifact) := by
  obtain ⟨isAccepted, ready, after, stored, prepared, leaves, alike, left⟩ :=
    execute_leaves steady apart versions loaded framed undelimited passed
  rw [← follows] at alike left
  have never : ∀ final, ¬ Driven setup next test start.scene (.updated .artifact) final :=
    leaves.not_updated_again steady apart versions versions' prepared alike left
  rw [ne_eq, execute_eq_ok_iff]
  rintro ⟨final, driven⟩
  exact never final driven

/-- Updates converge. Runs that follow each other find the files that the one before left. After a
run that came through, a run passes if the one before did more than write the artifact, or if there
are no symbols; after two runs that came through, it passes in any case. -/
theorem execute_converges (steady : Steady setup test) (apart : test.Apart)
    (elsewhere : OptionsElsewhere setup test) {first second last : RunOptions}
    (versions : first.versions = none ∧ second.versions = none ∧ last.versions = none)
    (loaded : Fixture.load world.files test.fixture = .ok fixture)
    (framed : Fixture.framed fixture.source = fixture.source)
    (undelimited : Undelimited setup test fixture.source)
    (passed : (Action.execute setup first test world).1 = .ok pass) {between : World Store}
    (follows : between.files = (Action.execute setup first test world).2.files) :
    ((pass ≠ .updated .artifact ∨ ∃ stored,
        Fixture.load between.files test.fixture = .ok stored ∧ stored.symbols = none) →
      (Action.execute setup last test between).1 = .ok .ok) ∧
    ∀ pass' final, (Action.execute setup second test between).1 = .ok pass' →
      final.files = (Action.execute setup second test between).2.files →
        (Action.execute setup last test final).1 = .ok .ok := by
  obtain ⟨firstVersions, secondVersions, lastVersions⟩ := versions
  refine ⟨execute_next_ok steady apart elsewhere firstVersions lastVersions loaded framed
    undelimited passed follows, fun pass' final passed' follows' => ?_⟩
  -- The second run has not written the artifact: the first one left it settled.
  have settled : pass' ≠ .updated .artifact := by
    rintro rfl
    by_cases updated : pass = .updated .artifact
    next =>
      subst updated
      exact execute_not_updated_again steady apart firstVersions secondVersions loaded framed
        undelimited passed follows passed'
    next =>
      have agreed := execute_next_ok steady apart elsewhere firstVersions secondVersions loaded
        framed undelimited passed follows (.inl updated)
      simp [agreed] at passed'
  obtain ⟨isAccepted, ready, after, stored, prepared, leaves, alike, left⟩ :=
    execute_leaves steady apart firstVersions loaded framed undelimited passed
  rw [← follows] at left
  have source := leaves.source_eq
  exact execute_next_ok steady apart elsewhere secondVersions lastVersions left
    (source ▸ framed) (source ▸ undelimited) passed' follows' (.inl settled)

end Executing

section Samples

-- A compiler that accepts everything, a comparison without regard to blanks, and a tool that lists
-- symbols.
def sampleSetup (dump : StandIn) (dumpArgs : List String) (object : String) : Setup Store where
  config :=
    { compiler := "cc", formatter := none, symbolDumpArgs := dumpArgs, volatileMarkers := [] }
  volatile := ⟨[]⟩
  tools :=
    let writes := [(".ll", .bytes "new\n".toUTF8), (".o", .bytes object.toUTF8)]
    StandIns.tools ⟨[("cc", 0, .compiler [] ⟨writes, StandIn.succeeded ""⟩),
      ("diff", 0, .difference), ("nm", 0, dump)]⟩

variable {dump : StandIn} {dumpArgs : List String} {object : String}

theorem sampleSetup_compiles (history : List Invocation) (directives : Directives)
    (files : Store) :
    (sampleSetup dump dumpArgs object).tools history
        (compilerInvocation (sampleSetup dump dumpArgs object).config sampleTest directives) files =
      (.ok (StandIn.succeeded ""), (files.insert sampleTest.artifact "new\n".toUTF8).insert
        sampleTest.object object.toUTF8) := by
  have source : StandIn.fromEnd (compilerInvocation (sampleSetup dump dumpArgs object).config
      sampleTest directives) 0 = "a.syp" := by
    simp only [StandIn.fromEnd, compilerInvocation, List.reverse_append]
    rfl
  have stem : String.ofList (Text.dropSuffix ".syp".toList "a.syp".toList) = "a" := by rfl
  have silent : StandIn.withSource "a.syp" "" = "" := by rfl
  simp only [sampleSetup, compilerInvocation] at source
  simp only [sampleSetup, StandIns.tools, compilerInvocation, List.lookup_cons_self,
    StandIn.answer, source, List.find?_nil, Option.map_none, Option.getD_none, StandIn.compile,
    StandIn.succeeded, silent, StandIn.writeAll, List.foldl_cons, List.foldl_nil, stem]
  rfl

theorem difference_answer (earlier : Nat) (program : String) (args : List String)
    (left right : String) (files : Store) :
    StandIn.difference.answer earlier ⟨program, args ++ [left, right]⟩ files =
      (StandIn.diff (files.text? ⟨left⟩) (files.text? ⟨right⟩), files) := by
  simp [StandIn.answer, StandIn.fromEnd]

theorem sampleSetup_diffs (history : List Invocation) (expected actual : Path) (files : Store) :
    (sampleSetup dump dumpArgs object).tools history
        (diffInvocation (sampleSetup dump dumpArgs object).config expected actual) files =
      (.ok (StandIn.diff (files.text? expected) (files.text? actual)), files) := by
  let invocation : Invocation := ⟨"diff", ["-uwB"] ++ [expected.text, actual.text]⟩
  have answered : (sampleSetup dump dumpArgs object).tools history
      (diffInvocation (sampleSetup dump dumpArgs object).config expected actual) files =
      (.ok (StandIn.difference.answer 0 invocation files).1,
        (StandIn.difference.answer 0 invocation files).2) := rfl
  rw [answered, difference_answer]

theorem sampleSetup_lists (history : List Invocation) (files : Store) :
    ∃ earlier, (sampleSetup dump dumpArgs object).tools history
        (symbolsInvocation (sampleSetup dump dumpArgs object).config sampleTest) files =
      (.ok (dump.answer earlier ⟨"nm", dumpArgs ++ ["a.o"]⟩ files).1,
        (dump.answer earlier ⟨"nm", dumpArgs ++ ["a.o"]⟩ files).2) := by
  simp only [sampleSetup, StandIns.tools, symbolsInvocation]
  exact ⟨_, rfl⟩

theorem sampleSetup_steady
    (dumpStateless : Stateless (sampleSetup dump dumpArgs object).tools
      (symbolsInvocation (sampleSetup dump dumpArgs object).config sampleTest))
    (dumpQuiet : Quiet (sampleSetup dump dumpArgs object).tools
      (symbolsInvocation (sampleSetup dump dumpArgs object).config sampleTest)) :
    Steady (sampleSetup dump dumpArgs object) sampleTest where
  formatter_stateless formatter chosen := by cases chosen
  formatter_quiet formatter chosen := by cases chosen
  diff_stateless expected actual earlier later before after same := by
    have left := same expected.text (by simp [diffInvocation])
    have right := same actual.text (by simp [diffInvocation])
    rw [sampleSetup_diffs, sampleSetup_diffs]
    simp only [Store.text?, left, right]
  diff_quiet expected actual history files := by rw [sampleSetup_diffs]
  diff_agrees history files expected actual left right expectedHolds actualHolds same := by
    rw [sampleSetup_diffs]
    refine ⟨_, ?_, rfl⟩
    simp [Store.text?, expectedHolds, actualHolds, StandIn.diff, same, StandIn.succeeded]
  dump_stateless := dumpStateless
  dump_quiet := dumpQuiet
  compiler_answer directives earlier later before after sameSource := by
    rw [sampleSetup_compiles, sampleSetup_compiles]
  compiler_changes directives history files := by
    rw [sampleSetup_compiles]
    exact (Store.ChangesOnly.insert (by simp) _ _).trans (.insert (by simp) _ _)
  compiler_writes directives earlier later before after sameSource output success answer file
      among := by
    have apart : sampleTest.artifact.components ≠ sampleTest.object.components := by
      decide +kernel
    rw [sampleSetup_compiles, sampleSetup_compiles]
    simp only [List.mem_cons, List.not_mem_nil, or_false] at among
    rcases among with rfl | rfl
    next => exact ⟨"new\n".toUTF8, by simp [apart], by simp [apart]⟩
    next => exact ⟨object.toUTF8, by simp, by simp⟩

theorem sampleSetup_undelimited {source : String}
    (listing : ∀ {listing : String} {before after : Scene Store},
      Listed (sampleSetup dump dumpArgs object) sampleTest listing before after →
        ¬ Fixture.HoldsDelimiter listing) :
    Undelimited (sampleSetup dump dumpArgs object) sampleTest source where
  artifact {output before after text} written answers success made := by
    have apart : sampleTest.artifact.components ≠ sampleTest.object.components := by
      decide +kernel
    obtain ⟨-, rfl⟩ := Scene.answers_iff.1 answers
    rw [Store.read_eq_ok_iff, sampleSetup_compiles] at made
    obtain rfl : "new\n" = text := by
      rw [← String.toByteArray_inj]
      simpa [apart] using made
    have clear : ¬ Fixture.HoldsDelimiter (VolatileFilter.strip ⟨[]⟩ "new\n") := by
      decide +kernel
    exact clear
  diagnostics written answers exit positive := by
    obtain ⟨answer, -⟩ := Scene.answers_iff.1 answers
    rw [sampleSetup_compiles] at answer
    cases answer
    cases exit
    exact absurd positive (by decide)
  listing listed := listing listed

-- A fixture whose artifact and symbols are both out of date.
def staleWorld : World Store :=
  sampleWorld sampleTest.fixture "\nint main() {}\n\n========\n\nold\n\n========\n\nstale T\n"

def staleFixture : Fixture := ⟨"\nint main() {}\n\n", "old\n", some "stale T\n"⟩

def updateStale (setup : Setup Store) : Outcome × World Store :=
  Action.execute setup { update := true } sampleTest staleWorld

def updateStaleTwice (setup : Setup Store) : Outcome × World Store :=
  Action.execute setup { update := true } sampleTest (updateStale setup).2

theorem load_staleWorld :
    Fixture.load staleWorld.files sampleTest.fixture = .ok staleFixture := by
  rfl

theorem framed_staleFixture : Fixture.framed staleFixture.source = staleFixture.source := by
  rfl

theorem sampleTest_apart : sampleTest.Apart := by
  decide +kernel

theorem outcome_eq_ok {outcome : Outcome} {pass : Pass}
    (passed : outcome.toOption = some pass) : outcome = .ok pass := by
  cases outcome <;> simp_all [Except.toOption]

-- The symbols of an object file that always has the same ones.
def listingSetup : Setup Store :=
  sampleSetup (.fixed (StandIn.succeeded "main T 0 b\n")) ["-fp"] "object"

theorem listingSetup_steady : Steady listingSetup sampleTest :=
  sampleSetup_steady (fun _ _ _ _ _ => rfl) (fun _ _ => rfl)

theorem listingSetup_undelimited : Undelimited listingSetup sampleTest staleFixture.source := by
  refine sampleSetup_undelimited ?_
  rintro listing before after ⟨output, answers, -, rfl⟩
  obtain ⟨answer, -⟩ := Scene.answers_iff.1 answers
  have output_eq : StandIn.succeeded "main T 0 b\n" = output := Except.ok.inj answer
  have clear : ¬ Fixture.HoldsDelimiter (Symbols.filter "main T 0 b\n") := by decide +kernel
  exact output_eq ▸ clear

theorem execute_converges_stale :
    (updateStale listingSetup).1 = .ok (.updated .artifact) ∧
      (updateStaleTwice listingSetup).1 = .ok (.updated .symbols) ∧
      (Action.execute listingSetup {} sampleTest (updateStaleTwice listingSetup).2).1 =
        .ok .ok := by
  have first : (updateStale listingSetup).1 = .ok (.updated .artifact) :=
    outcome_eq_ok (by decide +kernel)
  have second : (updateStaleTwice listingSetup).1 = .ok (.updated .symbols) :=
    outcome_eq_ok (by decide +kernel)
  have elsewhere : OptionsElsewhere listingSetup sampleTest := by decide +kernel
  have versions : ({ update := true } : RunOptions).versions = none ∧
      ({ update := true } : RunOptions).versions = none ∧
      ({} : RunOptions).versions = none := ⟨rfl, rfl, rfl⟩
  obtain ⟨-, settled⟩ := execute_converges listingSetup_steady sampleTest_apart elsewhere versions
    load_staleWorld framed_staleFixture listingSetup_undelimited first rfl
  exact ⟨first, second, settled _ _ second rfl⟩

-- The symbols are listed as long as the object file is like the fixture, which an option names.
def mirrorSetup : Setup Store :=
  sampleSetup .difference ["a.test"]
    "\nint main() {}\n\n========\n\nnew\n\n========\n\nstale T\n"

theorem mirrorSetup_lists (history : List Invocation) (files : Store) :
    mirrorSetup.tools history (symbolsInvocation mirrorSetup.config sampleTest) files =
      (.ok (StandIn.diff (files.text? ⟨"a.test"⟩) (files.text? ⟨"a.o"⟩)), files) := by
  obtain ⟨earlier, answered⟩ := @sampleSetup_lists .difference ["a.test"]
    "\nint main() {}\n\n========\n\nnew\n\n========\n\nstale T\n" history files
  have mirrored := difference_answer earlier "nm" [] "a.test" "a.o" files
  simp only [List.nil_append] at mirrored
  simp only [List.singleton_append, mirrored] at answered
  exact answered

theorem mirrorSetup_steady : Steady mirrorSetup sampleTest := by
  refine sampleSetup_steady ?_ ?_
  next =>
    intro earlier later before after same
    have fixture := same "a.test" (by decide +kernel)
    have object := same "a.o" (by decide +kernel)
    change (mirrorSetup.tools earlier (symbolsInvocation mirrorSetup.config sampleTest) before).1 =
      (mirrorSetup.tools later (symbolsInvocation mirrorSetup.config sampleTest) after).1
    rw [mirrorSetup_lists, mirrorSetup_lists]
    simp only [Store.text?, fixture, object]
  next =>
    intro history files
    change (mirrorSetup.tools history (symbolsInvocation mirrorSetup.config sampleTest) files).2 =
      files
    rw [mirrorSetup_lists]

theorem mirrorSetup_undelimited : Undelimited mirrorSetup sampleTest staleFixture.source := by
  refine sampleSetup_undelimited ?_
  rintro listing before after ⟨output, answers, success, rfl⟩
  obtain ⟨answer, -⟩ := Scene.answers_iff.1 answers
  change (mirrorSetup.tools before.calls (symbolsInvocation mirrorSetup.config sampleTest)
    before.files).1 = .ok output at answer
  rw [mirrorSetup_lists] at answer
  obtain rfl := Except.ok.inj answer
  have clear : ¬ Fixture.HoldsDelimiter (Symbols.filter "") := by decide +kernel
  have silent : (StandIn.diff (before.files.text? ⟨"a.test"⟩)
      (before.files.text? ⟨"a.o"⟩)).stdout = "" := by
    unfold StandIn.diff at success ⊢
    split at success
    next =>
      split at success
      next same => simp [same, StandIn.succeeded]
      next => cases success
    next => cases success
  rw [silent]
  exact clear

-- Two updating runs do not settle the symbols where an option names the fixture itself.
theorem mirrorSetup_diverges :
    Steady mirrorSetup sampleTest ∧ sampleTest.Apart ∧
      Fixture.load staleWorld.files sampleTest.fixture = .ok staleFixture ∧
      Fixture.framed staleFixture.source = staleFixture.source ∧
      Undelimited mirrorSetup sampleTest staleFixture.source ∧
      (updateStale mirrorSetup).1 = .ok (.updated .artifact) ∧
      (updateStaleTwice mirrorSetup).1 = .ok (.updated .symbols) ∧
      (Action.execute mirrorSetup {} sampleTest (updateStaleTwice mirrorSetup).2).1 ≠ .ok .ok := by
  refine ⟨mirrorSetup_steady, sampleTest_apart, load_staleWorld, framed_staleFixture,
    mirrorSetup_undelimited, outcome_eq_ok (by decide +kernel),
    outcome_eq_ok (by decide +kernel), fun passed => ?_⟩
  have failed : (Action.execute mirrorSetup {} sampleTest
      (updateStaleTwice mirrorSetup).2).1.toOption = none := by decide +kernel
  simp [passed, Except.toOption] at failed

end Samples

end GoldenSuite.Trial
