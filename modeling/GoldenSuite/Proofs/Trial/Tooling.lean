import GoldenSuite.Proofs.Files.Store
import GoldenSuite.Proofs.Fixture.RoundTrip
import GoldenSuite.Proofs.Trial.Stages
import GoldenSuite.StandIn

set_option autoImplicit false

namespace GoldenSuite

def TestCase.files (test : TestCase) : List Path := test.fixture :: test.generated

-- No two files of a test are at the same place.
def TestCase.Apart (test : TestCase) : Prop := (test.files.map Path.components).Nodup

instance (test : TestCase) : Decidable test.Apart :=
  inferInstanceAs (Decidable (test.files.map Path.components).Nodup)

namespace TestCase

variable {test : TestCase}

-- What the formatter and the compiler are behind.
def made (test : TestCase) : List Path :=
  [test.formatted, test.artifact, test.object, test.negative]

theorem made_subset_generated : test.made ⊆ test.generated := by
  simp [made, generated]

theorem generated_subset_files : test.generated ⊆ test.files := by
  simp [files]

theorem Apart.fixture_notMem (apart : test.Apart) :
    test.fixture.components ∉ test.generated.map Path.components :=
  (List.nodup_cons.1 apart).1

theorem Apart.source_notMem (apart : test.Apart) :
    test.source.components ∉ (test.expected :: test.made).map Path.components := by
  simp only [Apart, files, generated, List.map_cons, List.nodup_cons, List.mem_cons] at apart
  simp only [made, List.map_cons, List.mem_cons]
  grind

theorem Apart.expected_notMem (apart : test.Apart) :
    test.expected.components ∉ test.made.map Path.components := by
  simp only [Apart, files, generated, List.map_cons, List.nodup_cons, List.mem_cons] at apart
  simp only [made, List.map_cons, List.mem_cons]
  grind

end TestCase

namespace Trial

-- The tool answers a call by the files that are named in it, and by nothing else.
def Stateless (tools : Tools Store) (invocation : Invocation) : Prop :=
  ∀ earlier later before after,
    (∀ arg ∈ invocation.args, before.find? ⟨arg⟩ = after.find? ⟨arg⟩) →
      (tools earlier invocation before).1 = (tools later invocation after).1

def Quiet (tools : Tools Store) (invocation : Invocation) : Prop :=
  ∀ history files, (tools history invocation files).2 = files

/-- What a test relies on in its tools. -/
structure Steady (setup : Setup Store) (test : TestCase) : Prop where
  formatter_stateless (formatter : String) (chosen : setup.config.formatter = some formatter) :
    Stateless setup.tools (formatting test formatter)
  formatter_quiet (formatter : String) (chosen : setup.config.formatter = some formatter) :
    Quiet setup.tools (formatting test formatter)
  diff_stateless (expected actual : Path) :
    Stateless setup.tools (diffInvocation setup.config expected actual)
  diff_quiet (expected actual : Path) :
    Quiet setup.tools (diffInvocation setup.config expected actual)
  diff_agrees (history : List Invocation) (files : Store) (expected actual : Path)
      (left right : String) (expectedHolds : files.find? expected = some left.toUTF8)
      (actualHolds : files.find? actual = some right.toUTF8)
      (same : StandIn.withoutBlanks left = StandIn.withoutBlanks right) :
    ∃ output, output.exit = .status 0 ∧
      (setup.tools history (diffInvocation setup.config expected actual) files).1 = .ok output
  dump_stateless : Stateless setup.tools (symbolsInvocation setup.config test)
  dump_quiet : Quiet setup.tools (symbolsInvocation setup.config test)
  compiler_answer (directives : Directives) (earlier later : List Invocation)
      (before after : Store) (sameSource : before.find? test.source = after.find? test.source) :
    (setup.tools earlier (compilerInvocation setup.config test directives) before).1 =
      (setup.tools later (compilerInvocation setup.config test directives) after).1
  compiler_changes (directives : Directives) (history : List Invocation) (files : Store) :
    Store.ChangesOnly [test.artifact, test.object] files
      (setup.tools history (compilerInvocation setup.config test directives) files).2
  compiler_writes (directives : Directives) (earlier later : List Invocation)
      (before after : Store) (sameSource : before.find? test.source = after.find? test.source)
      (output : Output) (success : output.exit = .status 0)
      (answer : (setup.tools earlier (compilerInvocation setup.config test directives) before).1 =
        .ok output) (file : Path) (among : file ∈ [test.artifact, test.object]) :
    ∃ data,
      (setup.tools earlier (compilerInvocation setup.config test directives) before).2.find? file =
          some data ∧
        (setup.tools later (compilerInvocation setup.config test directives) after).2.find? file =
          some data

/-- Nothing that can get into a fixture with this source holds a delimiter. -/
structure Undelimited (setup : Setup Store) (test : TestCase) (source : String) : Prop where
  artifact {output : Output} {before after : Scene Store} {text : String}
      (written : before.files.find? test.source = some source.toUTF8)
      (answers : Scene.Answers setup.tools
        (compilerInvocation setup.config test (.ofSource source)) output before after)
      (success : output.exit = .status 0)
      (made : FileSystem.read after.files test.artifact = .ok text) :
    ¬ Fixture.HoldsDelimiter (setup.volatile.strip text)
  diagnostics {output : Output} {code : Int} {before after : Scene Store}
      (written : before.files.find? test.source = some source.toUTF8)
      (answers : Scene.Answers setup.tools
        (compilerInvocation setup.config test (.ofSource source)) output before after)
      (exit : output.exit = .status code) (positive : 0 < code) :
    ¬ Fixture.HoldsDelimiter output.combined
  listing {listing : String} {before after : Scene Store}
      (listed : Listed setup test listing before after) : ¬ Fixture.HoldsDelimiter listing

def OptionsElsewhere (setup : Setup Store) (test : TestCase) : Prop :=
  ∀ option ∈ setup.config.diffArgs ++ setup.config.symbolDumpArgs,
    Path.components ⟨option⟩ ∉ test.files.map Path.components

instance (setup : Setup Store) (test : TestCase) : Decidable (OptionsElsewhere setup test) :=
  inferInstanceAs (Decidable (∀ option ∈ setup.config.diffArgs ++ setup.config.symbolDumpArgs,
    Path.components ⟨option⟩ ∉ test.files.map Path.components))

/-- Two stores in which nothing is different but files of the test, and of those none that is
shared. -/
structure Alike (test : TestCase) (shared : List Path) (left right : Store) : Prop where
  left_open : left.isSealed = false
  right_open : right.isSealed = false
  elsewhere_eq (path : Path) (elsewhere : path.components ∉ test.files.map Path.components) :
    left.find? path = right.find? path
  shared_eq (path : Path) (among : path ∈ shared) : left.find? path = right.find? path

namespace Alike

variable {test : TestCase} {shared : List Path} {left right : Store}

theorem of_changesOnly {before after : Store} (isOpen : before.isSealed = false)
    (change : Store.ChangesOnly test.files before after) : Alike test [] before after where
  left_open := isOpen
  right_open := change.isSealed_eq.trans isOpen
  elsewhere_eq path elsewhere := (change.find?_eq path elsewhere).symm
  shared_eq path among := by simp at among

theorem mono {fewer : List Path} (alike : Alike test shared left right) (sub : fewer ⊆ shared) :
    Alike test fewer left right :=
  { alike with shared_eq := fun path among => alike.shared_eq path (sub among) }

theorem extend {path : Path} (alike : Alike test shared left right)
    (same : left.find? path = right.find? path) : Alike test (path :: shared) left right where
  left_open := alike.left_open
  right_open := alike.right_open
  elsewhere_eq := alike.elsewhere_eq
  shared_eq other among := by
    rcases List.mem_cons.1 among with rfl | before
    next => exact same
    next => exact alike.shared_eq other before

-- Changes to files of the test on both sides. What is shared afterwards is what both sides agree
-- on by then, or what neither of them touched.
theorem step {next : List Path} {left' right' : Store} (alike : Alike test shared left right)
    (paths : List Path) (own : paths ⊆ test.files) (leftChange : Store.ChangesOnly paths left left')
    (rightChange : Store.ChangesOnly paths right right')
    (agree : ∀ path ∈ next, left'.find? path = right'.find? path ∨
      path ∈ shared ∧ path.components ∉ paths.map Path.components) :
    Alike test next left' right' where
  left_open := leftChange.isSealed_eq.trans alike.left_open
  right_open := rightChange.isSealed_eq.trans alike.right_open
  elsewhere_eq path elsewhere := by
    have apart : path.components ∉ paths.map Path.components :=
      fun among => elsewhere (List.map_subset _ own among)
    rw [leftChange.find?_eq path apart, rightChange.find?_eq path apart]
    exact alike.elsewhere_eq path elsewhere
  shared_eq path among := by
    obtain same | ⟨before, apart⟩ := agree path among
    next => exact same
    next =>
      rw [leftChange.find?_eq path apart, rightChange.find?_eq path apart]
      exact alike.shared_eq path before

end Alike

end Trial

namespace Scene

variable {tools : Tools Store} {invocation : Invocation} {path : Path} {text : String}
variable {output : Output} {before after : Scene Store}

theorem writes_iff :
    Writes path text before after ↔
      before.files.isSealed = false ∧
        after = ⟨before.files.insert path text.toUTF8, before.calls⟩ := by
  simp only [Writes, Store.write_eq_ok_iff, Scene.ext_iff, and_assoc]

theorem answers_iff :
    Answers tools invocation output before after ↔
      (tools before.calls invocation before.files).1 = .ok output ∧
        after = ⟨(tools before.calls invocation before.files).2, before.calls ++ [invocation]⟩ := by
  simp only [Answers, Prod.ext_iff, Scene.ext_iff, and_assoc, eq_comm (a := after.files)]

theorem exists_writes (isOpen : before.files.isSealed = false) (path : Path) (text : String) :
    ∃ after, Writes path text before after :=
  ⟨_, writes_iff.2 ⟨isOpen, rfl⟩⟩

theorem Writes.changesOnly {paths : List Path} (writes : Writes path text before after)
    (among : path ∈ paths) : Store.ChangesOnly paths before.files after.files := by
  obtain ⟨-, rfl⟩ := writes_iff.1 writes
  exact .insert among _ _

theorem Writes.find?_eq (writes : Writes path text before after) :
    after.files.find? path = some text.toUTF8 := by
  obtain ⟨-, rfl⟩ := writes_iff.1 writes
  simp

theorem Answers.files_eq (quiet : Trial.Quiet tools invocation)
    (answers : Answers tools invocation output before after) : after.files = before.files := by
  obtain ⟨-, rfl⟩ := answers_iff.1 answers
  exact quiet _ _

-- A stateless tool answers the same where the files that it is given are the same.
theorem Answers.again (stateless : Trial.Stateless tools invocation) {other : Scene Store}
    (answers : Answers tools invocation output before after)
    (same : ∀ arg ∈ invocation.args, before.files.find? ⟨arg⟩ = other.files.find? ⟨arg⟩) :
    ∃ later, Answers tools invocation output other later := by
  obtain ⟨answer, -⟩ := answers_iff.1 answers
  exact ⟨_, answers_iff.2 ⟨(stateless _ _ _ _ same).symm.trans answer, rfl⟩⟩

end Scene

-- The same text written into a file of the test on both sides is shared from then on.
theorem Trial.Alike.write {test : TestCase} {shared : List Path} {path : Path} {text : String}
    {left left' right right' : Scene Store} (alike : Alike test shared left.files right.files)
    (own : path ∈ test.files) (leftWrites : Scene.Writes path text left left')
    (rightWrites : Scene.Writes path text right right') :
    Alike test (path :: shared) left'.files right'.files := by
  obtain ⟨-, rfl⟩ := Scene.writes_iff.1 leftWrites
  obtain ⟨-, rfl⟩ := Scene.writes_iff.1 rightWrites
  refine alike.step [path] (by simpa using own) (.insert (by simp) _ _)
    (.insert (by simp) _ _) fun other among => ?_
  by_cases same : other.components = path.components
  next => exact .inl (by simp [same])
  next =>
    rcases List.mem_cons.1 among with rfl | before
    next => exact absurd rfl same
    next => exact .inr ⟨before, by simpa using same⟩

end GoldenSuite
