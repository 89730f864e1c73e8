import GoldenSuite.Proofs.Trial.Sites

set_option autoImplicit false

namespace GoldenSuite.Trial

variable (config : Config) (options : RunOptions) (fixture : Fixture) (succeeds : Site → Bool)

def firstSite : Site :=
  match formatter? config (Directives.ofSource fixture.source) with
  | none => .compiler
  | some program => .formatter program

-- The call that comes after another one, unless the test ends there.
def next? (succeeded : Bool) : Site → Option Site
  | .formatter _ => some (if succeeded then .formatDiff else .compiler)
  | .formatDiff => some .compiler
  | .compiler =>
      match succeeded, options.versions with
      | true, some versions => some (.assembler versions false)
      | isAccepted, _ => some (.diff isAccepted)
  | .assembler versions isArtifact => some (.disassembler versions isArtifact)
  | .disassembler versions false => some (.assembler versions true)
  | .disassembler _ true => some (.diff true)
  | .diff isAccepted => if isAccepted && succeeded then fixture.symbols.map .symbols else none
  | .symbols _ => none

inductive Begins : Site → List Site → Prop
  | only (site : Site) : Begins site [site]
  | call {site next : Site} {sites : List Site}
      (goes : next? options fixture (succeeds site) site = some next)
      (onward : Begins next sites) : Begins site (site :: sites)

inductive Completes : Site → List Site → Prop
  | last {site : Site} (ends : next? options fixture (succeeds site) site = none) :
      Completes site [site]
  | call {site next : Site} {sites : List Site}
      (goes : next? options fixture (succeeds site) site = some next)
      (onward : Completes next sites) : Completes site (site :: sites)

variable {config options fixture succeeds}

theorem Completes.begins {site : Site} {sites : List Site}
    (completes : Completes options fixture succeeds site sites) :
    Begins options fixture succeeds site sites := by
  induction completes with
  | last ends => exact .only _
  | call goes onward ih => exact .call goes ih

end GoldenSuite.Trial
