import GoldenSuite.Proofs.Files.Glob
import GoldenSuite.Proofs.Suite.Frame
import GoldenSuite.Proofs.Suite.Selecting

set_option autoImplicit false

namespace GoldenSuite

def SiblingEndings.all (endings : SiblingEndings) : List String :=
  [endings.source, endings.formatted, endings.artifact, endings.expected, endings.errorLog,
    endings.negative, endings.bitcode, endings.object]

structure SiblingEndings.Apart (endings : SiblingEndings) : Prop where
  distinct : endings.all.Nodup
  clear : ∀ ending ∈ endings.all, '/' ∉ ending.toList

/-- No path that the pattern matches has a sibling that it matches as well. -/
def Glob.Skips (glob : Glob) (endings : SiblingEndings) : Prop :=
  ∀ path : Path, path.nameMatches glob = true →
    ∀ ending ∈ endings.all, (path.base.withSuffix ending).nameMatches glob = false

namespace Path

theorem exists_lastName?_of_nameMatches {path : Path} {glob : Glob}
    (named : path.nameMatches glob = true) :
    ∃ before name, path.lastName? = some (before, name) := by
  unfold nameMatches at named
  obtain ⟨name, found, -⟩ := (Option.any_eq_true _ _).1 named
  obtain ⟨⟨before, name⟩, found, -⟩ := Option.map_eq_some_iff.1 found
  exact ⟨before, name, found⟩

theorem base_endsSolid_of_nameMatches {path : Path} {glob : Glob}
    (named : path.nameMatches glob = true) : path.base.EndsSolid := by
  obtain ⟨before, name, found⟩ := exists_lastName?_of_nameMatches named
  exact base_endsSolid found

section Endings

variable {path : Path} {ending : String}

-- A name does not have two endings that are told apart.
theorem suffix_or_suffix_of_nameMatches {left right : String}
    (leftMatches : path.nameMatches (.ending left) = true)
    (rightMatches : path.nameMatches (.ending right) = true) :
    left.toList <:+ right.toList ∨ right.toList <:+ left.toList := by
  obtain ⟨name, named, isLeft⟩ := (Option.any_eq_true _ _).1 leftMatches
  obtain ⟨other, named', isRight⟩ := (Option.any_eq_true _ _).1 rightMatches
  obtain rfl := Option.some.inj (named.symm.trans named')
  exact List.suffix_or_suffix_of_suffix (Glob.isMatch_ending_iff.1 isLeft)
    (Glob.isMatch_ending_iff.1 isRight)

theorem nameMatches_withSuffix (solid : path.EndsSolid) (clear : '/' ∉ ending.toList)
    (long : 2 ≤ ending.toList.length) :
    (path.withSuffix ending).nameMatches (.ending ending) = true := by
  obtain ⟨name, found⟩ := exists_fileName?_withSuffix solid clear long
  have notEmpty : ending ≠ "" := by
    rintro rfl
    simp at long
  have ends := isSuffix_fileName?_withSuffix solid clear notEmpty found
  simp [nameMatches, found, Glob.isMatch_ending_iff.2 ends]

theorem nameMatches_withSuffix_eq_false (solid : path.EndsSolid) (clear : '/' ∉ ending.toList)
    {literal : String} (notLonger : ¬ literal.toList <:+ ending.toList)
    (notShorter : ¬ ending.toList <:+ literal.toList) :
    (path.withSuffix ending).nameMatches (.ending literal) = false := by
  have notEmpty : ending ≠ "" := by
    rintro rfl
    exact notShorter List.nil_suffix
  rw [Bool.eq_false_iff]
  intro matched
  obtain ⟨name, named, isMatch⟩ := (Option.any_eq_true _ _).1 matched
  have endsOtherwise := isSuffix_fileName?_withSuffix solid clear notEmpty named
  rcases List.suffix_or_suffix_of_suffix (Glob.isMatch_ending_iff.1 isMatch) endsOtherwise with
    longer | shorter
  next => exact notLonger longer
  next => exact notShorter shorter

end Endings

end Path

namespace TestCase

variable {glob : Glob} {fixture : Path} {endings : SiblingEndings}

theorem generated_of (fixture : Path) (endings : SiblingEndings) :
    (of fixture endings).generated = endings.all.map fixture.base.withSuffix := rfl

theorem nodup_generated_of (apart : endings.Apart) (named : fixture.nameMatches glob = true) :
    ((of fixture endings).generated.map Path.components).Nodup := by
  have solid := Path.base_endsSolid_of_nameMatches named
  rw [generated_of, List.map_map]
  refine List.pairwise_map.2 (apart.distinct.imp_of_mem fun among amongOther different same => ?_)
  exact different (Path.components_withSuffix_inj solid (apart.clear _ among)
    (apart.clear _ amongOther) same)

theorem notMem_generated_of (skips : glob.Skips endings) (named : fixture.nameMatches glob = true)
    {other : Path} (matched : other.nameMatches glob = true) :
    other.components ∉ (of fixture endings).generated.map Path.components := by
  rw [generated_of, List.map_map]
  intro among
  obtain ⟨ending, given, same⟩ := List.mem_map.1 among
  have skipped := skips fixture named ending given
  rw [Path.nameMatches_congr same, matched] at skipped
  cases skipped

end TestCase

theorem Glob.skips_of_ending {literal : String} {endings : SiblingEndings} (apart : endings.Apart)
    (other : ∀ given ∈ endings.all,
      ¬ literal.toList <:+ given.toList ∧ ¬ given.toList <:+ literal.toList) :
    (Glob.ending literal).Skips endings := fun _ named given among =>
  Path.nameMatches_withSuffix_eq_false (Path.base_endsSolid_of_nameMatches named)
    (apart.clear given among) (other given among).1 (other given among).2

/-- Whatever is selected, its generated files are at different places, and at none of them is a
fixture that was found; nothing that the pattern matches is changed by a run that updates nothing,
by a dump or by a clean. -/
theorem select_spares_fixtures {config : Config} {glob : Glob}
    (parsed : Glob.parse config.fixturePattern = .ok glob) (apart : config.endings.Apart)
    (skips : glob.Skips config.endings) {root : Path} {filters : List String}
    {world left : World Store} {fixtures all : List Path}
    (selected : Command.attempt (Command.select config root filters) world = (.ok fixtures, left))
    (found : Selection.discover world.files root config.fixturePattern = .ok all) :
    (∀ fixture ∈ fixtures,
      ((Suite.caseOf config root fixture).generated.map Path.components).Nodup ∧
        ∀ other ∈ all, (root.join other).components ∉
          (Suite.caseOf config root fixture).generated.map Path.components) ∧
      (∀ other ∈ all, (root.join other).nameMatches glob = true) ∧
      ∀ path : Path, path.nameMatches glob = true →
        (∀ setup options, setup.config = config → options.update = false →
          Trial.Spares setup.tools path →
            (Suite.run setup options root fixtures left).2.files.find? path =
              world.files.find? path) ∧
          (Suite.dump config root fixtures left).2.files.find? path = world.files.find? path ∧
          (Suite.clean config root fixtures left).2.files.find? path = world.files.find? path := by
  obtain ⟨unchanged, chosen⟩ := Command.select_spec selected
  obtain ⟨all', found', rfl, -⟩ := chosen fixtures rfl
  obtain rfl := Except.ok.inj (found.symm.trans found')
  have files : left.files = world.files := congrArg Scene.files unchanged
  have named (fixture : Path) (among : fixture ∈ all) :
      (root.join fixture).nameMatches glob = true :=
    Selection.nameMatches_of_discover parsed found among
  have among {fixture : Path} (taken : fixture ∈ Selection.select all filters) : fixture ∈ all :=
    Selection.select_subset all filters taken
  have misses {path : Path} (matched : path.nameMatches glob = true) :
      Suite.Misses config root (Selection.select all filters) path :=
    fun fixture taken => TestCase.notMem_generated_of skips (named fixture (among taken)) matched
  refine ⟨fun fixture taken => ⟨?_, ?_⟩, named, fun path matched => ⟨?_, ?_, ?_⟩⟩
  next => exact TestCase.nodup_generated_of apart (named fixture (among taken))
  next => exact fun other given => misses (named other given) fixture taken
  next =>
    rintro setup options rfl plain spared
    rw [← files]
    exact Suite.bytes?_run plain (misses matched) spared left
  next =>
    rw [← files]
    exact Suite.bytes?_dump (misses matched) left
  next =>
    rw [← files]
    exact Suite.bytes?_clean (misses matched) left

section Default

theorem parse_defaultPattern : Glob.parse "*.test" = .ok (.ending ".test") := by rfl

theorem defaultEndings_apart : SiblingEndings.Apart {} where
  distinct := by decide
  clear := by decide

theorem defaultPattern_skips : (Glob.ending ".test").Skips {} :=
  Glob.skips_of_ending defaultEndings_apart (by decide)

end Default

section Samples

def sampleRoot : Path := ⟨"t"⟩

-- Two fixtures, and a formatted source that is left over from the first one.
def sampleSuite : World Store where
  files := ((Store.empty.insert ⟨"t/a.syp.txt"⟩ "formatted".toUTF8).insert ⟨"t/a.test"⟩
    "first".toUTF8).insert ⟨"t/b.test"⟩ "second".toUTF8
  log := ⟨.normal, []⟩

def selectSample (config : Config) : Except CommandError (List Path) × World Store :=
  Command.attempt (Command.select config sampleRoot []) sampleSuite

def takenBy (glob : Glob) : List Path :=
  (sampleSuite.files.entries.map (·.1)).filter fun path =>
    (Store.isWholeTree sampleRoot || path.startsWith sampleRoot) && path.nameMatches glob

theorem discover_sampleSuite :
    Selection.discover sampleSuite.files sampleRoot "*.test" = .ok [⟨"a.test"⟩, ⟨"b.test"⟩] := by
  have kept : takenBy (.ending ".test") = [⟨"t/a.test"⟩, ⟨"t/b.test"⟩] := by decide +kernel
  exact Selection.discover_of_sorted parse_defaultPattern kept (by decide +kernel)
    (by decide +kernel)

-- The default configuration, but for its endings.
theorem selectSample_eq_ok {config : Config} (pattern : config.fixturePattern = "*.test") :
    (selectSample config).1 = .ok [⟨"a.test"⟩, ⟨"b.test"⟩] :=
  Command.select_of_discover (pattern ▸ discover_sampleSuite) (by decide) (by decide +kernel)

theorem select_spares_fixtures_default :
    ∃ left, selectSample {} = (.ok [⟨"a.test"⟩, ⟨"b.test"⟩], left) ∧
      ((Suite.caseOf {} sampleRoot ⟨"a.test"⟩).generated.map Path.components).Nodup ∧
      (Suite.run (Suite.idleSetup Store) {} sampleRoot [⟨"a.test"⟩, ⟨"b.test"⟩]
        left).2.files.find? ⟨"t/a.test"⟩ = some "first".toUTF8 ∧
      (Suite.clean {} sampleRoot [⟨"a.test"⟩, ⟨"b.test"⟩] left).2.files.find? ⟨"t/a.test"⟩ =
        some "first".toUTF8 := by
  have selected : selectSample {} = (.ok [⟨"a.test"⟩, ⟨"b.test"⟩], (selectSample {}).2) :=
    Prod.ext (selectSample_eq_ok rfl) rfl
  obtain ⟨generated, named, spared⟩ := select_spares_fixtures parse_defaultPattern
    defaultEndings_apart defaultPattern_skips selected discover_sampleSuite
  obtain ⟨ran, -, cleaned⟩ := spared ⟨"t/a.test"⟩ (by decide +kernel)
  have held : sampleSuite.files.find? ⟨"t/a.test"⟩ = some "first".toUTF8 := by rfl
  exact ⟨_, selected, (generated ⟨"a.test"⟩ (by simp)).1,
    (ran (Suite.idleSetup Store) {} rfl rfl fun _ _ _ => rfl).trans held, cleaned.trans held⟩

-- A pattern that takes the formatted source of one fixture for another fixture.
def wideConfig : Config := { fixturePattern := "*.t*" }

def twinConfig : Config := { endings := { expected := ".syp" } }

def slashConfig : Config := { endings := { source := "/x", expected := "//x" } }

def wideGlob : Glob := ⟨[.anyRun, .char '.', .char 't', .anyRun]⟩

theorem discover_wide : Selection.discover sampleSuite.files sampleRoot wideConfig.fixturePattern =
    .ok [⟨"a.syp.txt"⟩, ⟨"a.test"⟩, ⟨"b.test"⟩] := by
  have parsed : Glob.parse wideConfig.fixturePattern = .ok wideGlob := by rfl
  have kept : takenBy wideGlob = [⟨"t/a.syp.txt"⟩, ⟨"t/a.test"⟩, ⟨"t/b.test"⟩] := by
    decide +kernel
  exact Selection.discover_of_sorted parsed kept (by decide +kernel) (by decide +kernel)

theorem validate_eq_ok {config : Config} (valid : config.validate.toOption = some ()) :
    config.validate = .ok () := by
  rcases checked : config.validate with error | _
  next =>
    rw [checked] at valid
    cases valid
  next => rfl

-- Cleaning a selection removes a fixture of it; and the generated files of a fixture may share a
-- place, also where no ending is given twice.
theorem wideConfig_removes_fixture :
    (wideConfig.validate = .ok () ∧
      (selectSample wideConfig).1 = .ok [⟨"a.syp.txt"⟩, ⟨"a.test"⟩, ⟨"b.test"⟩] ∧
      (sampleRoot.join ⟨"a.syp.txt"⟩).components ∈
        (Suite.caseOf wideConfig sampleRoot ⟨"a.test"⟩).generated.map Path.components ∧
      sampleSuite.files.find? (sampleRoot.join ⟨"a.syp.txt"⟩) = some "formatted".toUTF8 ∧
      (Suite.clean wideConfig sampleRoot [⟨"a.syp.txt"⟩, ⟨"a.test"⟩, ⟨"b.test"⟩]
        (selectSample wideConfig).2).2.files.find? (sampleRoot.join ⟨"a.syp.txt"⟩) = none) ∧
    (∀ config ∈ [twinConfig, slashConfig],
      config.validate = .ok () ∧ (selectSample config).1 = .ok [⟨"a.test"⟩, ⟨"b.test"⟩] ∧
        ¬ ((Suite.caseOf config sampleRoot ⟨"a.test"⟩).generated.map Path.components).Nodup) ∧
    slashConfig.endings.all.Nodup := by
  refine ⟨⟨validate_eq_ok (by decide +kernel), ?_, by decide +kernel, by rfl, ?_⟩, ?_, by decide⟩
  next => exact Command.select_of_discover discover_wide (by decide) (by decide +kernel)
  next =>
    have unchanged := (Command.select_spec (Prod.ext rfl rfl : selectSample wideConfig = (_, _))).1
    have files : (selectSample wideConfig).2.files = sampleSuite.files :=
      congrArg Scene.files unchanged
    rw [Suite.files_clean, files]
    decide +kernel
  next =>
    have valid : ∀ config ∈ [twinConfig, slashConfig], config.validate.toOption = some () ∧
        config.fixturePattern = "*.test" ∧
        ¬ ((Suite.caseOf config sampleRoot ⟨"a.test"⟩).generated.map Path.components).Nodup := by
      decide +kernel
    intro config among
    obtain ⟨accepted, pattern, shared⟩ := valid config among
    exact ⟨validate_eq_ok accepted, selectSample_eq_ok pattern, shared⟩

end Samples

end GoldenSuite
