import GoldenSuite.Proofs.Files.Contents
import GoldenSuite.Proofs.Trial.Convergence
import GoldenSuite.Proofs.Trial.Course

set_option autoImplicit false

namespace GoldenSuite.Trial

open Contents

variable {φ : Type} [FileSystem φ] [Contents φ] {setup : Setup φ} {test : TestCase}

def Spares (tools : Tools φ) (path : Path) : Prop :=
  ∀ history invocation files, bytes? (tools history invocation files).2 path = bytes? files path

section Elsewhere

variable {path own : Path}

theorem bytes?_write_generated (apart : path.components ∉ test.generated.map Path.components)
    (among : own ∈ test.generated) (files : φ) (data : ByteArray) :
    bytes? (FileSystem.write files own data).2 path = bytes? files path :=
  bytes?_write files data fun same => apart (same ▸ List.mem_map_of_mem among)

theorem bytes?_remove_generated (apart : path.components ∉ test.generated.map Path.components)
    (among : own ∈ test.generated) (files : φ) :
    bytes? (FileSystem.remove files own).2 path = bytes? files path :=
  bytes?_remove files fun same => apart (same ▸ List.mem_map_of_mem among)

-- A file that is not generated holds what it held at the start, up to an update.
theorem unchanged_upheld (apart : path.components ∉ test.generated.map Path.components)
    (spared : Spares setup.tools path) (held : Option ByteArray) :
    (Course.untilUpdate fun files : φ => bytes? files path = held).Upheld setup test := by
  refine Course.untilUpdate_upheld ?_ ?_ ?_ ?_
  next => exact fun history invocation files => (spared history invocation files).trans
  next => exact fun own among files data => (bytes?_write_generated apart among files data).trans
  next => exact fun own among files => (bytes?_remove_generated apart among files).trans
  next => exact fun files data error after known failed => (bytes?_refused failed _).trans known

end Elsewhere

/-- A test that reports an update was asked for it, and its fixture holds the rendering of the old
source, of the actual output as it was then, and of the symbols that go with it. After any other
outcome the fixture holds the bytes that it held before. -/
theorem execute_rewrites_only_on_update (options : RunOptions)
    (apart : test.fixture.components ∉ test.generated.map Path.components)
    (spared : Spares setup.tools test.fixture) (world : World φ) :
    let run := Action.execute setup options test world
    (∀ update, run.1 = .ok (.updated update) →
      options.update = true ∧ ∃ fixture isAccepted listing moment output,
        ComesToUpdate setup options test fixture isAccepted listing world.scene moment update ∧
        FileSystem.read moment.files (actual test isAccepted) = .ok output ∧
        bytes? run.2.files test.fixture = some (Fixture.render fixture.source output
          (if isAccepted then listing.or fixture.symbols else none)).toUTF8) ∧
    ((∀ update, run.1 ≠ .ok (.updated update)) →
      bytes? run.2.files test.fixture = bytes? world.files test.fixture) := by
  refine ⟨fun update updated => ?_, fun other => ?_⟩
  next =>
    obtain ⟨left, came⟩ : ∃ left, attempt (drive setup options test) world =
        (.ok (.updated update), left) :=
      ⟨_, Prod.ext updated rfl⟩
    have driven := (Meets.drive setup options test world _ _).1 ⟨left, came, rfl⟩
    obtain ⟨asked, fixture, isAccepted, listing, moment, comes, output, read, written, -⟩ :=
      (driven_updated_iff _ _ _ _ _ _).1 driven
    refine ⟨asked, fixture, isAccepted, listing, moment, output, comes, read, ?_⟩
    have rendered := bytes?_written written test.fixture
    rw [if_pos rfl] at rendered
    -- The generated files go, the fixture stays as it was written.
    rw [execute_of_driven setup options test came]
    unfold Action.conclude
    cases options.keep with
    | true => exact rendered
    | false =>
      have removed (path : Path) (own : path ∈ test.generated) (files : φ)
          (kept : bytes? files test.fixture = bytes? left.files test.fixture) :
          bytes? (FileSystem.remove files path).2 test.fixture = bytes? left.files test.fixture :=
        (bytes?_remove_generated apart own files).trans kept
      exact (Action.cleanUp_keeps removed rfl).trans rendered
  next =>
    have kept := Action.execute_keeps
      (unchanged_upheld apart spared (bytes? world.files test.fixture)) options rfl
    exact kept.files other

section Samples

-- A compiler that accepts everything, and a comparison that finds a difference in everything.
def differingSetup : Setup Store where
  config := { compiler := "cc", formatter := none, volatileMarkers := [] }
  volatile := ⟨[]⟩
  tools := fun _ invocation files =>
    if invocation.program = "cc" then
      (.ok (StandIn.succeeded ""), files.insert sampleTest.artifact "new\n".toUTF8)
    else (.ok ⟨.status 1, "", ""⟩, files)

theorem differingSetup_spares : Spares differingSetup.tools sampleTest.fixture := by
  intro history invocation files
  have apart : sampleTest.fixture.components ≠ sampleTest.artifact.components := by decide +kernel
  simp only [differingSetup]
  split
  next =>
    change (files.insert sampleTest.artifact _).find? sampleTest.fixture = files.find? _
    rw [Store.find?_insert, if_neg apart]
  next => rfl

-- The update takes the new artifact and the old symbols; without it nothing is written.
theorem execute_rewrites_only_on_update_stale :
    (∃ fixture isAccepted listing moment output,
      ComesToUpdate differingSetup { update := true } sampleTest fixture isAccepted listing
          staleWorld.scene moment .artifact ∧
        FileSystem.read moment.files (actual sampleTest isAccepted) = .ok output ∧
        bytes? (Action.execute differingSetup { update := true } sampleTest staleWorld).2.files
          sampleTest.fixture = some (Fixture.render fixture.source output
            (if isAccepted then listing.or fixture.symbols else none)).toUTF8) ∧
      bytes? (Action.execute differingSetup {} sampleTest staleWorld).2.files sampleTest.fixture =
        bytes? staleWorld.files sampleTest.fixture := by
  have apart := sampleTest_apart.fixture_notMem
  have updated : (Action.execute differingSetup { update := true } sampleTest staleWorld).1 =
      .ok (.updated .artifact) := outcome_eq_ok (by decide +kernel)
  have failed : (Action.execute differingSetup {} sampleTest staleWorld).1.toOption = none := by
    decide +kernel
  obtain ⟨rewrites, -⟩ :=
    execute_rewrites_only_on_update { update := true } apart differingSetup_spares staleWorld
  obtain ⟨-, keeps⟩ :=
    execute_rewrites_only_on_update {} apart differingSetup_spares staleWorld
  refine ⟨(rewrites .artifact updated).2, keeps fun update came => ?_⟩
  rw [came] at failed
  cases failed

end Samples

end GoldenSuite.Trial
