import GoldenSuite.Proofs.Fixture.Delimiter
import GoldenSuite.Proofs.Suite.Siblings
import GoldenSuite.Proofs.Trial.GoldenUpdate

set_option autoImplicit false

namespace GoldenSuite

def Path.IsFixture (path : Path) : Prop := path.nameMatches (.ending ".test") = true

def Path.IsOutput (path : Path) : Prop :=
  path.nameMatches (.ending ".ll") = true ∨ path.nameMatches (.ending ".neg") = true

theorem Path.IsFixture.not_isOutput {path : Path} (named : path.IsFixture) : ¬ path.IsOutput := by
  have told : ∀ literal ∈ [".ll", ".neg"], ¬ (".test".toList <:+ literal.toList ∨
      literal.toList <:+ ".test".toList) := by decide
  rintro (artifact | negative)
  next => exact told ".ll" (by simp) (suffix_or_suffix_of_nameMatches named artifact)
  next => exact told ".neg" (by simp) (suffix_or_suffix_of_nameMatches named negative)

theorem Path.isOutput_congr {path other : Path} (same : path.components = other.components) :
    path.IsOutput ↔ other.IsOutput := by
  simp only [IsOutput, nameMatches_congr same]

/-- What is never lost of a file: it stays; what could not be loaded is left alone; and what could
be loaded still can, with the same source. -/
structure Fixture.Preserved (before after : Store) (path : Path) : Prop where
  present : (before.find? path).isSome → (after.find? path).isSome
  broken : (∀ fixture, Fixture.load before path ≠ .ok fixture) →
    after.find? path = before.find? path
  loads : ∀ fixture, Fixture.load before path = .ok fixture →
    ∃ stored, Fixture.load after path = .ok stored ∧
      Text.trim stored.source.toList = Text.trim fixture.source.toList

namespace Fixture.Preserved

variable {before between after : Store} {path : Path}

theorem of_find?_eq (same : after.find? path = before.find? path) :
    Preserved before after path where
  present held := same ▸ held
  broken _ := same
  loads fixture loaded := ⟨fixture, (Store.load_congr same).trans loaded, rfl⟩

theorem congr {other : Path} (same : path.components = other.components)
    (preserved : Preserved before after path) : Preserved before after other where
  present held := by
    rw [← Store.find?_congr _ same] at held ⊢
    exact preserved.present held
  broken unloaded := by
    rw [← Store.find?_congr _ same, ← Store.find?_congr _ same]
    exact preserved.broken fun fixture loads =>
      unloaded fixture ((Store.load_eq_ok_congr before same fixture).1 loads)
  loads fixture loaded := by
    obtain ⟨stored, storedLoads, source⟩ :=
      preserved.loads fixture ((Store.load_eq_ok_congr before same fixture).2 loaded)
    exact ⟨stored, (Store.load_eq_ok_congr after same stored).1 storedLoads, source⟩

theorem trans (first : Preserved before between path) (second : Preserved between after path) :
    Preserved before after path where
  present held := second.present (first.present held)
  broken unloaded := by
    have same := first.broken unloaded
    have still : ∀ fixture, Fixture.load between path ≠ .ok fixture := by
      rwa [Store.load_congr same]
    exact (second.broken still).trans same
  loads fixture loaded := by
    obtain ⟨kept, keptLoads, keptSource⟩ := first.loads fixture loaded
    obtain ⟨stored, storedLoads, storedSource⟩ := second.loads kept keptLoads
    exact ⟨stored, storedLoads, storedSource.trans keptSource⟩

end Fixture.Preserved

namespace Store

def Clear (files : Store) : Prop :=
  ∀ path : Path, path.IsOutput → ∀ text : String, files.find? path = some text.toUTF8 →
    ¬ Fixture.HoldsDelimiter text

namespace Clear

variable {files : Store} {path : Path}

theorem toUTF8_inj {left right : String} (same : left.toUTF8 = right.toUTF8) : left = right :=
  Except.ok.inj ((strict_eq_ok_iff.2 rfl).symm.trans (strict_eq_ok_iff.2 same))

theorem insert (clear : files.Clear) {data : ByteArray}
    (written : path.IsOutput → ∀ text : String, data = text.toUTF8 →
      ¬ Fixture.HoldsDelimiter text) : (files.insert path data).Clear := by
  intro other output text held
  rw [find?_insert] at held
  split at held
  next same => exact written ((Path.isOutput_congr same).1 output) text (Option.some.inj held)
  next => exact clear other output text held

theorem insert_text (clear : files.Clear) {text : String}
    (clean : ¬ Fixture.HoldsDelimiter text) : (files.insert path text.toUTF8).Clear := by
  refine clear.insert fun _ other same => ?_
  rwa [← toUTF8_inj same]

theorem write_elsewhere (clear : files.Clear) (other : ¬ path.IsOutput) (data : ByteArray) :
    (FileSystem.write files path data).2.Clear := by
  cases sealed : files.isSealed with
  | true => exact (write_of_sealed sealed path data).symm ▸ clear
  | false =>
    exact (write_of_open sealed path data).symm ▸ clear.insert fun output => absurd output other

theorem write_text (clear : files.Clear) {text : String} (clean : ¬ Fixture.HoldsDelimiter text) :
    (FileSystem.write files path text.toUTF8).2.Clear := by
  cases sealed : files.isSealed with
  | true => exact (write_of_sealed sealed path _).symm ▸ clear
  | false => exact (write_of_open sealed path _).symm ▸ clear.insert_text clean

theorem remove (clear : files.Clear) (path : Path) : (FileSystem.remove files path).2.Clear := by
  change (Store.remove files path).2.Clear
  unfold Store.remove
  cases files.find? path with
  | none => exact clear
  | some data =>
    intro other output text held
    rw [find?_erase] at held
    split at held
    next => cases held
    next => exact clear other output text held

end Clear

end Store

/-- Situations in which tools may be asked: the calls so far, the call, and the files. -/
abbrev Situations := List Invocation → Invocation → Store → Prop

/-- In these situations the tools leave the fixtures alone, bring no delimiter into an output, and
answer with none. -/
structure Harmless (tools : Tools Store) (asked : Situations) : Prop where
  spares {history : List Invocation} {invocation : Invocation} {files : Store}
      (call : asked history invocation files) (path : Path) (named : path.IsFixture) :
    (tools history invocation files).2.find? path = files.find? path
  clear {history : List Invocation} {invocation : Invocation} {files : Store}
      (call : asked history invocation files) (clear : files.Clear) :
    (tools history invocation files).2.Clear
  answers {history : List Invocation} {invocation : Invocation} {files : Store}
      (call : asked history invocation files) {output : Output}
      (answer : (tools history invocation files).1 = .ok output) :
    ¬ Fixture.HoldsDelimiter output.combined

namespace TestCase

variable {fixture path : Path}

theorem not_isOutput_of_free (named : fixture.IsFixture)
    (free : path ∈ Trial.freeSiblings (of fixture {})) : ¬ path.IsOutput := by
  have paths : Trial.freeSiblings (of fixture {}) =
      [".syp", ".exp", ".syp.txt", ".err"].map fixture.base.withSuffix := rfl
  have told : ∀ given ∈ [".syp", ".exp", ".syp.txt", ".err"], '/' ∉ given.toList ∧
      ∀ literal ∈ [".ll", ".neg"],
        ¬ literal.toList <:+ given.toList ∧ ¬ given.toList <:+ literal.toList := by decide
  rw [paths] at free
  obtain ⟨given, among, rfl⟩ := List.mem_map.1 free
  obtain ⟨clear, apart⟩ := told given among
  have other (literal : String) (output : literal ∈ [".ll", ".neg"]) :
      (fixture.base.withSuffix given).nameMatches (.ending literal) = false := by
    obtain ⟨notLonger, notShorter⟩ := apart literal output
    exact Path.nameMatches_withSuffix_eq_false (Path.base_endsSolid_of_nameMatches named) clear
      notLonger notShorter
  rw [Path.IsOutput, other ".ll" (by simp), other ".neg" (by simp)]
  simp

theorem isOutput_actual (named : fixture.IsFixture) (isAccepted : Bool) :
    (Trial.actual (of fixture {}) isAccepted).IsOutput := by
  have solid := Path.base_endsSolid_of_nameMatches named
  cases isAccepted with
  | true => exact .inl (Path.nameMatches_withSuffix solid (by decide) (by decide))
  | false => exact .inr (Path.nameMatches_withSuffix solid (by decide) (by decide))

end TestCase

namespace Trial

variable {before : Store} {fixture : Path} {setup : Setup Store}

def keeping (before : Store) (fixture : Path) : Course Store where
  files files := files.Clear ∧ ∀ path : Path, path.IsFixture → files.find? path = before.find? path
  updated files := files.Clear ∧ ∀ path : Path, path.IsFixture →
    Fixture.Preserved before files path ∧
      (files.find? path ≠ before.find? path → path.components = fixture.components)
  output output := ¬ Fixture.HoldsDelimiter output.combined
  fixture loaded := Fixture.load before fixture = .ok loaded

theorem not_holdsDelimiter_of_listing {listing : String}
    (listed : (keeping before fixture).Listing listing) : ¬ Fixture.HoldsDelimiter listing := by
  obtain ⟨output, clean, rfl⟩ := listed
  refine Symbols.not_holdsDelimiter_filter fun holds => clean ?_
  rw [Fixture.HoldsDelimiter, Output.combined, String.toList_append]
  exact holds.trans (List.suffix_append _ _).isInfix

-- A fixture that was written anew can be loaded, and has the source that it had.
theorem preserved_of_written {files after : Store} {loaded : Fixture} {isAccepted : Bool}
    {listing : Option String} {text : String} (loads : Fixture.load before fixture = .ok loaded)
    (listed : ∀ fresh ∈ listing, ¬ Fixture.HoldsDelimiter fresh)
    (clean : ¬ Fixture.HoldsDelimiter text)
    (wrote : FileSystem.write files fixture (Fixture.render loaded.source text
      (keptSymbols loaded isAccepted listing)).toUTF8 = (.ok (), after)) :
    Fixture.Preserved before after fixture := by
  obtain ⟨original, read, parsed⟩ := Fixture.load_eq_ok_iff.1 loads
  have stored := load_of_rendered parsed clean (fun _ => listed) wrote
  have held := Contents.bytes?_written wrote fixture
  rw [if_pos rfl] at held
  refine ⟨fun _ => ?_, fun unloaded => absurd loads (unloaded loaded), fun other otherLoads => ?_⟩
  next => exact Option.isSome_of_eq_some held
  next =>
    obtain rfl := Except.ok.inj (loads.symm.trans otherLoads)
    exact ⟨_, stored, by simp [Fixture.framed]⟩

theorem keeping_written {files : Store} (known : (keeping before fixture).files files)
    (named : fixture.IsFixture) {own : Path} (among : own ∈ (TestCase.of fixture {}).generated)
    {data : ByteArray} (clear : (FileSystem.write files own data).2.Clear) :
    (keeping before fixture).files (FileSystem.write files own data).2 := by
  refine ⟨clear, fun path isFixture => ?_⟩
  have apart := TestCase.notMem_generated_of defaultPattern_skips named isFixture
  exact (bytes?_write_generated apart among files data).trans (known.2 path isFixture)

theorem keeping_free {files : Store} (known : (keeping before fixture).files files)
    (named : fixture.IsFixture) {own : Path} (free : own ∈ freeSiblings (TestCase.of fixture {}))
    (data : ByteArray) : (keeping before fixture).files (FileSystem.write files own data).2 :=
  keeping_written known named (mem_generated_of_free free)
    (known.1.write_elsewhere (TestCase.not_isOutput_of_free named free) data)

theorem keeping_updated {files after : Store} (known : (keeping before fixture).files files)
    (named : fixture.IsFixture) {data : ByteArray}
    (wrote : FileSystem.write files fixture data = (.ok (), after))
    (preserved : Fixture.Preserved before after fixture) :
    (keeping before fixture).updated after := by
  obtain ⟨clear, same⟩ := known
  have written := Contents.bytes?_written wrote
  have left := clear.write_elsewhere named.not_isOutput data
  rw [wrote] at left
  refine ⟨left, fun path isFixture => ?_⟩
  by_cases here : path.components = fixture.components
  next => exact ⟨preserved.congr here.symm, fun _ => here⟩
  next =>
    have kept := written path
    rw [if_neg here] at kept
    have kept : after.find? path = before.find? path := kept.trans (same path isFixture)
    exact ⟨.of_find?_eq kept, fun changed => absurd kept changed⟩

theorem keeping_upheld (before : Store) (harmless : Harmless setup.tools fun _ _ _ => True)
    (named : fixture.IsFixture) :
    (keeping before fixture).Upheld setup (TestCase.of fixture {}) where
  called known history invocation := by
    obtain ⟨clear, same⟩ := known
    refine ⟨⟨harmless.clear trivial clear, fun path isFixture => ?_⟩, fun output answer => ?_⟩
    next => exact (harmless.spares trivial path isFixture).trans (same path isFixture)
    next => exact harmless.answers trivial answer
  loaded known loads := by
    have same := known.2 fixture named
    rwa [show (TestCase.of fixture {}).fixture = fixture from rfl, Store.load_congr same] at loads
  written known own data := keeping_free known named own data
  patched known own read := by
    rcases own with rfl | rfl
    next => exact keeping_free known named (by simp [freeSiblings]) _
    next =>
      have clean := known.1 _ (TestCase.isOutput_actual named true) _
        (Store.read_eq_ok_iff.1 read)
      exact keeping_written known named (by simp [TestCase.generated])
        (known.1.write_text (setup.volatile.not_holdsDelimiter_strip clean))
  saved known clean :=
    keeping_written known named (by simp [TestCase.generated]) (known.1.write_text clean)
  updates {files after loaded isAccepted listing text} known original listed read wrote := by
    have clean := known.1 _ (TestCase.isOutput_actual named isAccepted) _
      (Store.read_eq_ok_iff.1 read)
    refine keeping_updated known named wrote (preserved_of_written original ?_ clean wrote)
    exact fun fresh given => not_holdsDelimiter_of_listing (listed fresh given)
  refused known failed := by
    rwa [Store.eq_of_refused failed]
  removed {files path} own := by
    have kept (other : Path) (isFixture : other.IsFixture) :
        (FileSystem.remove files path).2.find? other = files.find? other :=
      bytes?_remove_generated (TestCase.notMem_generated_of defaultPattern_skips named isFixture)
        own files
    refine ⟨fun known => ⟨known.1.remove path, fun other isFixture => ?_⟩,
      fun known => ⟨known.1.remove path, fun other isFixture => ?_⟩⟩
    next => exact (kept other isFixture).trans (known.2 other isFixture)
    next =>
      obtain ⟨preserved, changes⟩ := known.2 other isFixture
      exact ⟨preserved.trans (.of_find?_eq (kept other isFixture)),
        (kept other isFixture).symm ▸ changes⟩

end Trial

namespace Suite

def Lists (root : Path) (results : List TestResult) (path : Path) : Prop :=
  ∃ result ∈ results, path.components = (root.join result.fixture).components ∧
    ∃ update, result.outcome = .ok (.updated update)

structure Keeping (root : Path) (results : List TestResult) (before after : Store) : Prop where
  clear : after.Clear
  preserved (path : Path) (isFixture : path.IsFixture) : Fixture.Preserved before after path
  listed (path : Path) (isFixture : path.IsFixture)
      (changed : after.find? path ≠ before.find? path) : Lists root results path

namespace Keeping

variable {root : Path} {results more : List TestResult} {before between after : Store}

theorem of_find?_eq (root : Path) (results : List TestResult) (clear : after.Clear)
    (same : ∀ path : Path, path.IsFixture → after.find? path = before.find? path) :
    Keeping root results before after where
  clear := clear
  preserved path isFixture := .of_find?_eq (same path isFixture)
  listed path isFixture changed := absurd (same path isFixture) changed

theorem append (first : Keeping root results before between)
    (second : Keeping root more between after) : Keeping root (results ++ more) before after where
  clear := second.clear
  preserved path isFixture :=
    (first.preserved path isFixture).trans (second.preserved path isFixture)
  listed path isFixture changed := by
    by_cases early : between.find? path = before.find? path
    next =>
      obtain ⟨result, among, told⟩ := second.listed path isFixture (early ▸ changed)
      exact ⟨result, List.mem_append_right _ among, told⟩
    next =>
      obtain ⟨result, among, told⟩ := first.listed path isFixture early
      exact ⟨result, List.mem_append_left _ among, told⟩

end Keeping

open Trial

variable {setup : Setup Store} {config : Config} {root fixture : Path} {fixtures : List Path}
  {world : World Store}

theorem execute_keeping (harmless : Harmless setup.tools fun _ _ _ => True)
    (endings : config.endings = {}) (named : (root.join fixture).IsFixture) (options : RunOptions)
    (clear : world.files.Clear) :
    let run := Action.execute setup options (caseOf config root fixture) world
    Keeping root [⟨fixture, run.1⟩] world.files run.2.files := by
  intro run
  have upheld := keeping_upheld world.files harmless named
  have left : (keeping world.files (root.join fixture)).After run.1 run.2.files := by
    have kept := Action.execute_keeps upheld options ⟨clear, fun _ _ => rfl⟩
    rwa [← endings] at kept
  rcases outcome : run.1 with failure | pass
  next =>
    rw [outcome] at left
    exact .of_find?_eq root _ left.1 left.2
  next =>
    rw [outcome] at left
    cases pass with
    | ok | dumped => exact .of_find?_eq root _ left.1 left.2
    | updated update =>
      refine ⟨left.1, fun path isFixture => (left.2 path isFixture).1,
        fun path isFixture changed => ?_⟩
      exact ⟨_, List.mem_singleton_self _, (left.2 path isFixture).2 changed, update, rfl⟩

theorem dumpOne_keeping (endings : config.endings = {}) (named : (root.join fixture).IsFixture)
    (clear : world.files.Clear) :
    let run := ExceptT.run (Trial.dump (caseOf config root fixture)) world
    Keeping root [⟨fixture, run.1⟩] world.files run.2.files := by
  intro run
  have idle : Harmless (idleSetup Store).tools fun _ _ _ => True :=
    ⟨fun _ _ _ => rfl, fun _ clear => clear, fun _ _ answer => by cases answer⟩
  have left := (keeping_upheld world.files idle named).dump.files ⟨clear, fun _ _ => rfl⟩
  rw [← endings] at left
  exact .of_find?_eq root _ left.1 left.2

theorem each_keeping {tryCase : TestCase → Action Store Outcome} (verb : String)
    (step : ∀ fixture ∈ fixtures, ∀ world : World Store, world.files.Clear →
      let run := tryCase (caseOf config root fixture) world
      Keeping root [⟨fixture, run.1⟩] world.files run.2.files)
    (clear : world.files.Clear) :
    let run := each config root fixtures verb tryCase world
    Keeping root run.1.results world.files run.2.files := by
  refine each_invariant (Keeping root · world.files) verb ?_
    (.of_find?_eq root [] clear fun _ _ => rfl)
  exact fun fixture among done between known =>
    known.append (step fixture among between known.clear)

theorem run_keeping (harmless : Harmless setup.tools fun _ _ _ => True)
    (endings : setup.config.endings = {})
    (named : ∀ fixture ∈ fixtures, (root.join fixture).IsFixture) (options : RunOptions)
    (clear : world.files.Clear) :
    let ran := run setup options root fixtures world
    Keeping root ran.1.results world.files ran.2.files :=
  each_keeping "passed" (fun fixture among _ clear =>
    execute_keeping harmless endings (named fixture among) options clear) clear

theorem dump_keeping (endings : config.endings = {})
    (named : ∀ fixture ∈ fixtures, (root.join fixture).IsFixture) (clear : world.files.Clear) :
    let dumped := dump config root fixtures world
    Keeping root dumped.1.results world.files dumped.2.files :=
  each_keeping "dumped" (fun fixture among _ clear =>
    dumpOne_keeping endings (named fixture among) clear) clear

theorem clean_keeping (endings : config.endings = {})
    (named : ∀ fixture ∈ fixtures, (root.join fixture).IsFixture) (clear : world.files.Clear) :
    Keeping root [] world.files (clean config root fixtures world).2.files := by
  rw [files_clean]
  refine removeGenerated_keeps (Keeping root [] world.files) ?_
    (.of_find?_eq root [] clear fun _ _ => rfl)
  intro fixture among own generated files known
  rw [caseOf, endings] at generated
  have removed : Keeping root [] files (FileSystem.remove files own).2 := by
    refine .of_find?_eq root [] (known.clear.remove own) fun path isFixture => ?_
    have apart := TestCase.notMem_generated_of defaultPattern_skips (named fixture among) isFixture
    exact bytes?_remove_generated apart generated files
  exact known.append removed

end Suite

end GoldenSuite
