import GoldenSuite.Proofs.Suite.Selecting

set_option autoImplicit false

namespace GoldenSuite.Command

variable {φ : Type} [FileSystem φ]

-- What is said in the document of a report, if one is asked for, and whether it can be written.
inductive Filed (line : CommandLine) (time : Int) (report : Report) (before : φ) :
    Except FileError Unit → φ → Prop
  | unasked (none : line.report = none) : Filed line time report before (.ok ()) before
  | written {path : Path} {outcome : Except FileError Unit} {after : φ}
      (asked : line.report = some path)
      (wrote : FileSystem.write before path
        ((report.document line.mode.name (Timestamp.text time)).pretty 0 ++ "\n").toUTF8 =
          (outcome, after)) :
      Filed line time report before outcome after

/-- The ways a command can go, and where each leaves the world. -/
inductive Executed (setup : Setup φ) (line : CommandLine) (time : Int) (world : World φ) :
    Except CommandError Bool → World φ → Prop
  | misused {error : UsageError} (unchosen : line.choice = .error error) :
      Executed setup line time world (.error (.usage error)) world
  | unselected {choice : Choice} {error : CommandError} {left : World φ}
      (chosen : line.choice = .ok choice)
      (refused : attempt (select setup.config line.root choice.filters) world =
        (.error error, left)) :
      Executed setup line time world (.error error) left
  | cleaned {choice : Choice} {fixtures : List Path} {noted left : World φ}
      {removed : Except FileError Nat} (chosen : line.choice = .ok choice)
      (selected : attempt (select setup.config line.root choice.filters) world =
        (.ok fixtures, noted))
      (mode : line.mode = .clean)
      (clean : Suite.clean setup.config line.root fixtures noted = (removed, left)) :
      Executed setup line time world ((removed.map fun _ => true).mapError .files) left
  | reported {choice : Choice} {fixtures : List Path} {noted ran : World φ} {report : Report}
      {filed : Except FileError Unit} {files : φ} (chosen : line.choice = .ok choice)
      (selected : attempt (select setup.config line.root choice.filters) world =
        (.ok fixtures, noted))
      (mode : line.mode ≠ .clean)
      (run : reportOf setup line choice fixtures noted = (report, ran))
      (document : Filed line time report ran.files filed files) :
      Executed setup line time world ((filed.map fun _ => report.succeeded).mapError .files)
        { ran with files }

theorem attempt_writeReport (line : CommandLine) (time : Int) (report : Report) (world : World φ) :
    ∃ filed files, Filed line time report world.files filed files ∧
      attempt (writeReport line time report) world =
        (filed.mapError .files, { world with files }) := by
  cases asked : line.report with
  | none => exact ⟨.ok (), world.files, .unasked asked, by rw [writeReport, asked]; rfl⟩
  | some path =>
    rcases wrote : FileSystem.write world.files path
      ((report.document line.mode.name (Timestamp.text time)).pretty 0 ++ "\n").toUTF8 with
      ⟨outcome, after⟩
    refine ⟨outcome, after, .written asked wrote, ?_⟩
    rw [writeReport, asked]
    dsimp only
    rw [attempt_bind, attempt_lift, Action.onFiles, Report.text]
    simp only [wrote]
    cases outcome with
    | ok _ => rfl
    | error error => rfl

section Steps

variable {setup : Setup φ} {line : CommandLine} {world noted : World φ} {choice : Choice}
  {fixtures : List Path}

theorem attempt_execute_of_misused {error : UsageError} (unchosen : line.choice = .error error)
    (time : Int) : attempt (execute setup line time) world = (.error (.usage error), world) := by
  have read : attempt (choiceOf line) world = (line.choice.mapError .usage, world) := rfl
  unfold execute
  rw [attempt_bind, read, unchosen]
  rfl

theorem attempt_execute_of_refused {error : CommandError} {left : World φ}
    (chosen : line.choice = .ok choice)
    (refused : attempt (select setup.config line.root choice.filters) world =
      (.error error, left)) (time : Int) :
    attempt (execute setup line time) world = (.error error, left) := by
  have read : attempt (choiceOf line) world = (line.choice.mapError .usage, world) := rfl
  unfold execute
  rw [attempt_bind, read, chosen]
  dsimp only [Except.mapError]
  rw [attempt_bind, refused]

-- With a choice made and fixtures selected, a command is what is done with them.
theorem attempt_execute_of_selected (chosen : line.choice = .ok choice)
    (selected : attempt (select setup.config line.root choice.filters) world =
      (.ok fixtures, noted)) (time : Int) :
    attempt (execute setup line time) world =
      if line.mode = .clean then
        let cleaned := Suite.clean setup.config line.root fixtures noted
        ((cleaned.1.map fun _ => true).mapError .files, cleaned.2)
      else
        let reported := reportOf setup line choice fixtures noted
        let filed := attempt (writeReport line time reported.1) reported.2
        (filed.1.map fun _ => reported.1.succeeded, filed.2) := by
  have read : attempt (choiceOf line) world = (line.choice.mapError .usage, world) := rfl
  unfold execute
  rw [attempt_bind, read, chosen]
  dsimp only [Except.mapError]
  rw [attempt_bind, selected]
  dsimp only
  by_cases mode : line.mode = .clean
  next =>
    rw [if_pos mode, if_pos mode, attempt_bind, attempt_lift]
    rcases Suite.clean setup.config line.root fixtures noted with ⟨error | count, left⟩
    next => rfl
    next => rfl
  next =>
    rw [if_neg mode, if_neg mode, attempt_bind, attempt_lift]
    dsimp only
    rw [attempt_bind]
    rcases attempt (writeReport line time (reportOf setup line choice fixtures noted).1)
      (reportOf setup line choice fixtures noted).2 with ⟨error | _, left⟩
    next => rfl
    next => rfl

end Steps

theorem execute_cases {setup : Setup φ} {line : CommandLine} {time : Int} {world left : World φ}
    {outcome : Except CommandError Bool}
    (executed : attempt (execute setup line time) world = (outcome, left)) :
    Executed setup line time world outcome left := by
  suffices ways : Executed setup line time world (attempt (execute setup line time) world).1
      (attempt (execute setup line time) world).2 by rwa [executed] at ways
  cases chosen : line.choice with
  | error error =>
    rw [attempt_execute_of_misused chosen]
    exact .misused chosen
  | ok choice =>
    rcases selected : attempt (select setup.config line.root choice.filters) world with
      ⟨error | fixtures, noted⟩
    next =>
      rw [attempt_execute_of_refused chosen selected]
      exact .unselected chosen selected
    next =>
      rw [attempt_execute_of_selected chosen selected]
      by_cases mode : line.mode = .clean
      next =>
        rw [if_pos mode]
        exact .cleaned chosen selected mode rfl
      next =>
        rw [if_neg mode]
        rcases run : reportOf setup line choice fixtures noted with ⟨report, ran⟩
        obtain ⟨filed, files, document, written⟩ := attempt_writeReport line time report ran
        dsimp only
        rw [written]
        cases filed with
        | ok _ => exact .reported chosen selected mode run document
        | error error => exact .reported chosen selected mode run document

end GoldenSuite.Command
