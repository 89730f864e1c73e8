import GoldenSuite.Proofs.Trial.Tooling

set_option autoImplicit false

namespace GoldenSuite.Trial

variable {setup : Setup Store} {test : TestCase} {directives : Directives} {shared : List Path}
variable {left left' right right' : Scene Store}

-- What the verdict of the compiler leaves to be compared.
def outputs (test : TestCase) (isAccepted : Bool) : List Path :=
  if isAccepted then [test.artifact, test.object] else [test.negative]

theorem actual_mem_outputs (test : TestCase) (isAccepted : Bool) :
    actual test isAccepted ∈ outputs test isAccepted := by
  cases isAccepted <;> simp [actual, outputs]

theorem diff_again (steady : Steady setup test) (options : OptionsElsewhere setup test)
    {expected actual : Path} {code : Int} (alike : Alike test shared left.files right.files)
    (expectedShared : expected ∈ shared) (actualShared : actual ∈ shared)
    (exits : Scene.Exits setup.tools (diffInvocation setup.config expected actual) code left
      left') :
    ∃ right', Scene.Exits setup.tools (diffInvocation setup.config expected actual) code right
      right' := by
  obtain ⟨output, answers, exited⟩ := exits
  have named : ∀ arg ∈ (diffInvocation setup.config expected actual).args,
      left.files.find? ⟨arg⟩ = right.files.find? ⟨arg⟩ := by
    intro arg among
    rcases List.mem_append.1 among with option | operand
    next => exact alike.elsewhere_eq _ (options arg (List.mem_append_left _ option))
    next =>
      simp only [List.mem_cons, List.not_mem_nil, or_false] at operand
      rcases operand with rfl | rfl
      next => exact alike.shared_eq _ expectedShared
      next => exact alike.shared_eq _ actualShared
  obtain ⟨later, answered⟩ := answers.again (steady.diff_stateless expected actual) named
  exact ⟨later, output, answered, exited⟩

theorem diff_files_eq (steady : Steady setup test) {expected actual : Path} {code : Int}
    (exits : Scene.Exits setup.tools (diffInvocation setup.config expected actual) code left
      left') : left'.files = left.files := by
  obtain ⟨output, answers, -⟩ := exits
  exact answers.files_eq (steady.diff_quiet expected actual)

theorem Listed.files_eq (steady : Steady setup test) {listing : String}
    (listed : Listed setup test listing left left') : left'.files = left.files := by
  obtain ⟨output, answers, -⟩ := listed
  exact answers.files_eq steady.dump_quiet

theorem Listed.again (steady : Steady setup test) (options : OptionsElsewhere setup test)
    {listing : String} (alike : Alike test shared left.files right.files)
    (objectShared : test.object ∈ shared) (listed : Listed setup test listing left left') :
    ∃ right', Listed setup test listing right right' := by
  obtain ⟨output, answers, found⟩ := listed
  have named : ∀ arg ∈ (symbolsInvocation setup.config test).args,
      left.files.find? ⟨arg⟩ = right.files.find? ⟨arg⟩ := by
    intro arg among
    rcases List.mem_append.1 among with option | operand
    next => exact alike.elsewhere_eq _ (options arg (List.mem_append_right _ option))
    next =>
      obtain rfl := List.mem_singleton.1 operand
      exact alike.shared_eq _ objectShared
  obtain ⟨later, answered⟩ := answers.again steady.dump_stateless named
  exact ⟨later, output, answered, found⟩

namespace FormatSettled

theorem changesOnly (steady : Steady setup test) {check : FormatCheck}
    (settled : FormatSettled setup test directives left check left') :
    Store.ChangesOnly [test.formatted] left.files left'.files := by
  cases settled with
  | skipped off => exact .refl _ _
  | declined on chosen exits positive =>
    obtain ⟨output, answers, -⟩ := exits
    rw [answers.files_eq (steady.formatter_quiet _ chosen)]
    exact .refl _ _
  | stable on chosen answers success saves unchanged =>
    rw [diff_files_eq steady unchanged, ← answers.files_eq (steady.formatter_quiet _ chosen)]
    exact saves.changesOnly (List.mem_singleton_self _)

theorem agree (steady : Steady setup test) (apart : test.Apart) {check check' : FormatCheck}
    (alike : Alike test [test.source] left.files right.files)
    (settled : FormatSettled setup test directives left check left')
    (settled' : FormatSettled setup test directives right check' right') :
    Alike test [test.source] left'.files right'.files := by
  refine alike.step [test.formatted] (by simp [TestCase.files, TestCase.generated])
    (settled.changesOnly steady) (settled'.changesOnly steady) fun path among => .inr ⟨among, ?_⟩
  obtain rfl := List.mem_singleton.1 among
  exact fun clash => apart.source_notMem (List.map_subset _ (by simp [TestCase.made]) clash)

theorem again (steady : Steady setup test) (options : OptionsElsewhere setup test)
    {check : FormatCheck}
    (alike : Alike test [test.source] left.files right.files)
    (settled : FormatSettled setup test directives left check left') :
    ∃ right', FormatSettled setup test directives right check right' := by
  have named (formatter : String) : ∀ arg ∈ (formatting test formatter).args,
      left.files.find? ⟨arg⟩ = right.files.find? ⟨arg⟩ := by
    intro arg among
    obtain rfl := List.mem_singleton.1 among
    exact alike.shared_eq _ (List.mem_singleton_self _)
  cases settled with
  | skipped off => exact ⟨right, .skipped off⟩
  | declined on chosen exits positive =>
    obtain ⟨output, answers, exited⟩ := exits
    obtain ⟨later, answered⟩ := answers.again (steady.formatter_stateless _ chosen) (named _)
    exact ⟨later, .declined on chosen ⟨output, answered, exited⟩ positive⟩
  | stable on chosen answers success saves unchanged =>
    obtain ⟨later, answered⟩ := answers.again (steady.formatter_stateless _ chosen) (named _)
    have leftSame := answers.files_eq (steady.formatter_quiet _ chosen)
    have rightSame := answered.files_eq (steady.formatter_quiet _ chosen)
    rw [← leftSame, ← rightSame] at alike
    -- Both sides save the same text, so that the comparison is between the same two files.
    obtain ⟨saved, saves'⟩ := Scene.exists_writes alike.right_open test.formatted _
    have both := alike.write (by simp [TestCase.files, TestCase.generated]) saves saves'
    obtain ⟨final, compared⟩ := diff_again steady options both (by simp) (by simp) unchanged
    exact ⟨final, .stable on chosen answered success saves' compared⟩

end FormatSettled

-- The compiler has done its work, but nothing was saved yet.
theorem compiler_step (steady : Steady setup test) {output output' : Output}
    (alike : Alike test [test.source] left.files right.files)
    (answers : Scene.Answers setup.tools (compilerInvocation setup.config test directives) output
      left left')
    (answers' : Scene.Answers setup.tools (compilerInvocation setup.config test directives) output'
      right right') :
    output' = output ∧ Alike test [] left'.files right'.files ∧
      (output.exit = .status 0 → Alike test (outputs test true) left'.files right'.files) := by
  obtain ⟨answer, rfl⟩ := Scene.answers_iff.1 answers
  obtain ⟨answer', rfl⟩ := Scene.answers_iff.1 answers'
  have sameSource := alike.shared_eq test.source (List.mem_singleton_self _)
  have own : [test.artifact, test.object] ⊆ test.files := by
    simp [TestCase.files, TestCase.generated]
  have leftChange := steady.compiler_changes directives left.calls left.files
  have rightChange := steady.compiler_changes directives right.calls right.files
  refine ⟨?_, alike.step _ own leftChange rightChange (by simp), fun success => ?_⟩
  next =>
    have agreed := steady.compiler_answer directives left.calls right.calls _ _ sameSource
    rw [answer, answer'] at agreed
    exact (Except.ok.inj agreed).symm
  next =>
    refine alike.step _ own leftChange rightChange fun file among => .inl ?_
    obtain ⟨data, leftHolds, rightHolds⟩ := steady.compiler_writes directives left.calls right.calls
      _ _ sameSource output success answer file among
    exact leftHolds.trans rightHolds.symm

namespace Compiled

theorem changesOnly (steady : Steady setup test) {verdict : Verdict}
    (compiled : Compiled setup test directives left verdict left') :
    Store.ChangesOnly [test.artifact, test.object, test.negative] left.files left'.files := by
  have work {output : Output} {between : Scene Store}
      (answers : Scene.Answers setup.tools (compilerInvocation setup.config test directives) output
        left between) :
      Store.ChangesOnly [test.artifact, test.object, test.negative] left.files between.files := by
    obtain ⟨-, rfl⟩ := Scene.answers_iff.1 answers
    exact (steady.compiler_changes directives left.calls left.files).mono (by simp)
  cases compiled with
  | accepted exits =>
    obtain ⟨output, answers, -⟩ := exits
    exact work answers
  | rejected answers exit positive saves =>
    exact (work answers).trans (saves.changesOnly (by simp))

theorem agree (steady : Steady setup test) {verdict verdict' : Verdict}
    (alike : Alike test [test.source] left.files right.files)
    (compiled : Compiled setup test directives left verdict left')
    (compiled' : Compiled setup test directives right verdict' right') :
    verdict' = verdict ∧ Alike test (outputs test verdict.isAccepted) left'.files right'.files := by
  cases compiled with
  | accepted exits =>
    obtain ⟨output, answers, success⟩ := exits
    cases compiled' with
    | accepted exits' =>
      obtain ⟨output', answers', -⟩ := exits'
      obtain ⟨-, -, both⟩ := compiler_step steady alike answers answers'
      exact ⟨rfl, both success⟩
    | rejected answers' exit positive saves =>
      -- One output cannot both succeed and decline.
      obtain ⟨rfl, -⟩ := compiler_step steady alike answers answers'
      obtain rfl := Exit.status.inj (success.symm.trans exit)
      exact absurd positive (by decide)
  | rejected answers exit positive saves =>
    cases compiled' with
    | accepted exits' =>
      obtain ⟨output', answers', success⟩ := exits'
      obtain ⟨rfl, -⟩ := compiler_step steady alike answers answers'
      obtain rfl := Exit.status.inj (success.symm.trans exit)
      exact absurd positive (by decide)
    | rejected answers' exit' positive' saves' =>
      obtain ⟨rfl, bare, -⟩ := compiler_step steady alike answers answers'
      exact ⟨rfl, bare.write (by simp [TestCase.files, TestCase.generated]) saves saves'⟩

theorem again (steady : Steady setup test) {verdict : Verdict}
    (alike : Alike test [test.source] left.files right.files)
    (compiled : Compiled setup test directives left verdict left') :
    ∃ right', Compiled setup test directives right verdict right' := by
  have sameSource := alike.shared_eq test.source (List.mem_singleton_self _)
  have work {output : Output} {between : Scene Store}
      (answers : Scene.Answers setup.tools (compilerInvocation setup.config test directives) output
        left between) :
      ∃ later, Scene.Answers setup.tools (compilerInvocation setup.config test directives) output
        right later := by
    obtain ⟨answer, -⟩ := Scene.answers_iff.1 answers
    rw [steady.compiler_answer directives left.calls right.calls _ _ sameSource] at answer
    exact ⟨_, Scene.answers_iff.2 ⟨answer, rfl⟩⟩
  cases compiled with
  | accepted exits =>
    obtain ⟨output, answers, success⟩ := exits
    obtain ⟨later, answers'⟩ := work answers
    exact ⟨later, .accepted ⟨output, answers', success⟩⟩
  | rejected answers exit positive saves =>
    obtain ⟨later, answers'⟩ := work answers
    obtain ⟨-, bare, -⟩ := compiler_step steady alike answers answers'
    obtain ⟨saved, saves'⟩ := Scene.exists_writes bare.right_open test.negative _
    exact ⟨saved, .rejected answers' exit positive saves'⟩

end Compiled

namespace Readied

variable {isAccepted : Bool}

theorem normalized (readied : Readied setup test none true left left') :
    ∃ text, FileSystem.read left.files test.artifact = .ok text ∧
      Scene.Writes test.artifact (setup.volatile.strip text) left left' := by
  obtain ⟨-, _, rfl, patched⟩ := (if_pos rfl).mp readied
  exact patched

theorem changesOnly (readied : Readied setup test none isAccepted left left') :
    Store.ChangesOnly [test.artifact] left.files left'.files := by
  cases isAccepted with
  | false =>
    obtain rfl : left' = left := readied
    exact .refl _ _
  | true =>
    obtain ⟨text, -, writes⟩ := normalized readied
    exact writes.changesOnly (by simp)

theorem agree (alike : Alike test (outputs test isAccepted) left.files right.files)
    (readied : Readied setup test none isAccepted left left')
    (readied' : Readied setup test none isAccepted right right') :
    Alike test (outputs test isAccepted) left'.files right'.files := by
  cases isAccepted with
  | false =>
    obtain rfl : left' = left := readied
    obtain rfl : right' = right := readied'
    exact alike
  | true =>
    obtain ⟨text, read, writes⟩ := normalized readied
    obtain ⟨text', read', writes'⟩ := normalized readied'
    have same := alike.shared_eq test.artifact (by simp [outputs])
    rw [Store.read_eq_ok_iff, same, ← Store.read_eq_ok_iff] at read
    obtain rfl := Except.ok.inj (read.symm.trans read')
    exact (alike.write (by simp [TestCase.files, TestCase.generated]) writes writes').mono
      (by simp [outputs])

theorem again (alike : Alike test (outputs test isAccepted) left.files right.files)
    (readied : Readied setup test none isAccepted left left') :
    ∃ right', Readied setup test none isAccepted right right' := by
  cases isAccepted with
  | false => exact ⟨right, rfl⟩
  | true =>
    obtain ⟨text, read, writes⟩ := normalized readied
    have same := alike.shared_eq test.artifact (by simp [outputs])
    rw [Store.read_eq_ok_iff, same] at read
    obtain ⟨later, writes'⟩ :=
      Scene.exists_writes alike.right_open test.artifact (setup.volatile.strip text)
    have found : FileSystem.holds right.files test.artifact = true := by
      change (right.files.find? test.artifact).isSome = true
      simp [read]
    exact ⟨later, found, right, rfl, text, Store.read_eq_ok_iff.2 read, writes'⟩

end Readied

namespace Materialized

variable {fixture fixture' : Fixture}

theorem changesOnly (materialized : Materialized test fixture left left') :
    Store.ChangesOnly [test.source, test.expected] left.files left'.files := by
  obtain ⟨between, source, expected⟩ := materialized
  exact (source.changesOnly (by simp)).trans (expected.changesOnly (by simp))

theorem source_eq (apart : test.Apart) (materialized : Materialized test fixture left left') :
    left'.files.find? test.source = some fixture.source.toUTF8 := by
  obtain ⟨between, source, expected⟩ := materialized
  have other : test.source.components ∉ [test.expected].map Path.components :=
    fun clash => apart.source_notMem (List.map_subset _ (by simp) clash)
  rw [(expected.changesOnly (List.mem_singleton_self _)).find?_eq _ other, source.find?_eq]

theorem expected_eq (materialized : Materialized test fixture left left') :
    left'.files.find? test.expected = some fixture.artifact.toUTF8 := by
  obtain ⟨between, source, expected⟩ := materialized
  exact expected.find?_eq

theorem agree (apart : test.Apart) (sameSource : fixture'.source = fixture.source)
    (alike : Alike test [] left.files right.files)
    (materialized : Materialized test fixture left left')
    (materialized' : Materialized test fixture' right right') :
    Alike test [test.source] left'.files right'.files := by
  refine alike.step [test.source, test.expected]
    (by simp [TestCase.files, TestCase.generated]) materialized.changesOnly
    materialized'.changesOnly fun path among => .inl ?_
  obtain rfl := List.mem_singleton.1 among
  rw [materialized.source_eq apart, materialized'.source_eq apart, sameSource]

theorem again (test : TestCase) (isOpen : right.files.isSealed = false) (fixture : Fixture) :
    ∃ right', Materialized test fixture right right' := by
  obtain ⟨between, source⟩ := Scene.exists_writes isOpen test.source fixture.source
  have stillOpen : between.files.isSealed = false :=
    (source.changesOnly (List.mem_singleton_self _)).isSealed_eq.trans isOpen
  obtain ⟨later, expected⟩ := Scene.exists_writes stillOpen test.expected fixture.artifact
  exact ⟨later, between, source, expected⟩

end Materialized

namespace Prepared

variable {options options' : RunOptions} {fixture fixture' : Fixture}
variable {isAccepted isAccepted' : Bool}

-- Apart from the sections that are written out, a preparation makes files of its own only.
theorem materialized (steady : Steady setup test) (versions : options.versions = none)
    (prepared : Prepared setup options test fixture isAccepted left left') :
    ∃ written, Materialized test fixture left written ∧
      Store.ChangesOnly test.made written.files left'.files := by
  obtain ⟨check, verdict, written, checked, compiled, writes, settled, judged, -, readied⟩ :=
    prepared
  rw [versions] at readied
  refine ⟨written, writes, ?_⟩
  exact ((settled.changesOnly steady).mono (by simp [TestCase.made])).trans
    (((judged.changesOnly steady).mono (by simp [TestCase.made])).trans
      (readied.changesOnly.mono (by simp [TestCase.made])))

theorem changesOnly (steady : Steady setup test) (versions : options.versions = none)
    (prepared : Prepared setup options test fixture isAccepted left left') :
    Store.ChangesOnly test.generated left.files left'.files := by
  obtain ⟨written, materialized, made⟩ := prepared.materialized steady versions
  exact (materialized.changesOnly.mono (by simp [TestCase.generated])).trans
    (made.mono TestCase.made_subset_generated)

theorem isOpen (prepared : Prepared setup options test fixture isAccepted left left') :
    left.files.isSealed = false := by
  obtain ⟨_, _, _, _, _, ⟨_, source, _⟩, -⟩ := prepared
  exact (Scene.writes_iff.1 source).1

theorem expected_eq (steady : Steady setup test) (apart : test.Apart)
    (versions : options.versions = none)
    (prepared : Prepared setup options test fixture isAccepted left left') :
    left'.files.find? test.expected = some fixture.artifact.toUTF8 := by
  obtain ⟨written, materialized, made⟩ := prepared.materialized steady versions
  rw [made.find?_eq _ apart.expected_notMem, materialized.expected_eq]

theorem agree (steady : Steady setup test) (apart : test.Apart)
    (versions : options.versions = none) (versions' : options'.versions = none)
    (sameSource : fixture'.source = fixture.source) (alike : Alike test [] left.files right.files)
    (prepared : Prepared setup options test fixture isAccepted left left')
    (prepared' : Prepared setup options' test fixture' isAccepted' right right') :
    isAccepted' = isAccepted ∧ Alike test (outputs test isAccepted) left'.files right'.files := by
  obtain ⟨check, verdict, written, checked, compiled, writes, settled, judged, rfl, readied⟩ :=
    prepared
  obtain ⟨check', verdict', written', checked', compiled', writes', settled', judged', rfl,
    readied'⟩ := prepared'
  rw [versions] at readied
  rw [versions'] at readied'
  rw [sameSource] at settled' judged'
  -- The two runs share the source from the first stage on, and their output from the compiler on.
  have alikeWritten := writes.agree apart sameSource alike writes'
  have alikeChecked := settled.agree steady apart alikeWritten settled'
  obtain ⟨rfl, alikeCompiled⟩ := judged.agree steady alikeChecked judged'
  exact ⟨rfl, readied.agree alikeCompiled readied'⟩

theorem again (steady : Steady setup test) (options_ : OptionsElsewhere setup test)
    (apart : test.Apart) (versions : options.versions = none) (versions' : options'.versions = none)
    (sameSource : fixture'.source = fixture.source) (alike : Alike test [] left.files right.files)
    (prepared : Prepared setup options test fixture isAccepted left left') :
    ∃ right', Prepared setup options' test fixture' isAccepted right right' := by
  obtain ⟨check, verdict, written, checked, compiled, writes, settled, judged, rfl, readied⟩ :=
    prepared
  rw [versions] at readied
  obtain ⟨written', writes'⟩ := Materialized.again test alike.right_open fixture'
  have alikeWritten := writes.agree apart sameSource alike writes'
  obtain ⟨checked', settled'⟩ := settled.again steady options_ alikeWritten
  have alikeChecked := settled.agree steady apart alikeWritten settled'
  obtain ⟨compiled', judged'⟩ := judged.again steady alikeChecked
  obtain ⟨-, alikeCompiled⟩ := judged.agree steady alikeChecked judged'
  obtain ⟨ready', readied'⟩ := readied.again alikeCompiled
  refine ⟨ready', check, verdict, written', checked', compiled', writes', ?_, ?_, rfl, ?_⟩
  next => rwa [sameSource]
  next => rwa [sameSource]
  next => rwa [versions']

-- The output that is compared holds no delimiter where the tools give none.
theorem actual_clear (steady : Steady setup test) (apart : test.Apart)
    (versions : options.versions = none) (undelimited : Undelimited setup test fixture.source)
    (prepared : Prepared setup options test fixture isAccepted left left') {text : String}
    (read : FileSystem.read left'.files (actual test isAccepted) = .ok text) :
    ¬ Fixture.HoldsDelimiter text := by
  obtain ⟨check, verdict, written, checked, compiled, writes, settled, judged, rfl, readied⟩ :=
    prepared
  rw [versions] at readied
  have source : checked.files.find? test.source = some fixture.source.toUTF8 := by
    have other : test.source.components ∉ [test.formatted].map Path.components :=
      fun clash => apart.source_notMem (List.map_subset _ (by simp [TestCase.made]) clash)
    rw [(settled.changesOnly steady).find?_eq _ other, writes.source_eq apart]
  cases judged with
  | accepted exits =>
    obtain ⟨output, answers, success⟩ := exits
    obtain ⟨raw, made, saves⟩ := Readied.normalized readied
    have back := ReadsBack.read_of_write saves.1
    obtain rfl := Except.ok.inj (back.symm.trans read)
    exact undelimited.artifact source answers success made
  | rejected answers exit positive saves =>
    obtain rfl : left' = compiled := readied
    have back := ReadsBack.read_of_write saves.1
    obtain rfl := Except.ok.inj (back.symm.trans read)
    exact undelimited.diagnostics source answers exit positive

end Prepared

end GoldenSuite.Trial
