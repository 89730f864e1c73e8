import GoldenSuite.Proofs.Json.Reading
import GoldenSuite.Suite
import Mathlib.Data.List.Basic

set_option autoImplicit false

namespace GoldenSuite

namespace TestResult

theorem toList_statusLine (result : TestResult) (width : Nat) :
    (result.statusLine width).toList =
      result.fixture.chars ++ List.replicate (width - result.fixture.chars.length) ' ' ++
        " = ".toList ++ result.tag.toList := by
  simp [statusLine]

def TaggedAt (result : TestResult) (width : Nat) (line : String) : Prop :=
  ∃ blanks, line.toList = result.fixture.chars ++ List.replicate blanks ' ' ++ " = ".toList ++
    result.tag.toList ∧ result.fixture.chars.length + blanks = width

theorem taggedAt_statusLine {result : TestResult} {width : Nat}
    (fits : result.fixture.chars.length ≤ width) :
    result.TaggedAt width (result.statusLine width) :=
  ⟨width - result.fixture.chars.length, result.toList_statusLine width, by omega⟩

end TestResult

namespace Suite

-- The width of some fixtures that come after others.
theorem foldl_max_spec (fixtures : List Path) (start : Nat) :
    let width := fixtures.foldl (fun width fixture => max width fixture.chars.length) start
    start ≤ width ∧ (∀ fixture ∈ fixtures, fixture.chars.length ≤ width) ∧
      (width = start ∨ ∃ fixture ∈ fixtures, fixture.chars.length = width) := by
  induction fixtures generalizing start with
  | nil => simp
  | cons first rest ih =>
    obtain ⟨above, covers, attained⟩ := ih (max start first.chars.length)
    rw [List.foldl_cons]
    refine ⟨by omega, List.forall_mem_cons.2 ⟨by omega, covers⟩, ?_⟩
    rcases attained with same | ⟨fixture, among, longest⟩
    next =>
      rw [same]
      rcases Nat.le_total first.chars.length start with shorter | longer
      next => exact .inl (Nat.max_eq_left shorter)
      next => exact .inr ⟨first, List.mem_cons_self, (Nat.max_eq_right longer).symm⟩
    next => exact .inr ⟨fixture, List.mem_cons_of_mem _ among, longest⟩

theorem columnWidth_spec {fixtures : List Path} (some : fixtures ≠ []) :
    (∀ fixture ∈ fixtures, fixture.chars.length ≤ columnWidth fixtures) ∧
      ∃ fixture ∈ fixtures, fixture.chars.length = columnWidth fixtures := by
  obtain ⟨-, covers, attained⟩ := foldl_max_spec fixtures 0
  refine ⟨covers, ?_⟩
  rcases attained with zero | attained
  next =>
    obtain ⟨first, rest, rfl⟩ := List.exists_cons_of_ne_nil some
    refine ⟨first, List.mem_cons_self, ?_⟩
    have below := covers first List.mem_cons_self
    rw [columnWidth]
    omega
  next => exact attained

end Suite

namespace Report

variable (report : Report)

theorem failed_eq : report.failed = report.results.countP fun result => !result.passed := by
  have split : report.results.length = report.results.countP TestResult.passed +
      report.results.countP fun result => !result.passed := by
    simpa using List.length_eq_countP_add_countP TestResult.passed
  simp only [failed, total, passed]
  omega

theorem passed_add_failed : report.passed + report.failed = report.total := by
  have fewer : report.passed ≤ report.total := List.countP_le_length
  rw [failed]
  omega

theorem succeeded_eq : report.succeeded = report.results.all (·.outcome.isOk) := by
  have nothing : report.failed = 0 ↔ ∀ result ∈ report.results, result.outcome.isOk := by
    simp [failed_eq, TestResult.passed]
  rw [succeeded, Bool.eq_iff_iff, decide_eq_true_eq, nothing, List.all_eq_true]

section Document

open Json (Value)

theorem fitItems_entries (results : List TestResult) : Value.FitItems (results.map entry) := by
  induction results with
  | nil => trivial
  | cons result results ih => exact ⟨⟨trivial, trivial, trivial, trivial⟩, ih⟩

theorem fits_document (few : report.results.length < UInt64.size) (command time : String) :
    (report.document command time).Fits := by
  have total : report.total < UInt64.size := few
  have whole := report.passed_add_failed
  have passed : report.passed < UInt64.size := by omega
  have failed : report.failed < UInt64.size := by omega
  exact ⟨trivial, trivial, total, passed, failed, fitItems_entries report.results, trivial⟩

theorem sortedItems_entries (results : List TestResult) :
    Value.sortedItems (results.map entry) = results.map fun result => .object
      [("fixture", .string result.fixture.text), ("passed", .bool result.outcome.isOk),
        ("tag", .string result.tag)] := by
  induction results with
  | nil => rfl
  | cons result results ih =>
    rw [List.map_cons, List.map_cons, Value.sortedItems, ih]
    rfl

theorem sorted_document (command time : String) :
    (report.document command time).sorted = .object
      [("command", .string command),
        ("failed", .number (.natural (report.results.countP (!·.outcome.isOk)))),
        ("generated_at", .string time),
        ("passed", .number (.natural (report.results.countP (·.outcome.isOk)))),
        ("results", .array (report.results.map fun result => .object
          [("fixture", .string result.fixture.text), ("passed", .bool result.outcome.isOk),
            ("tag", .string result.tag)])),
        ("total", .number (.natural report.results.length))] := by
  rw [document, failed_eq, Value.sorted]
  simp only [Value.sortedMembers, Value.sorted, sortedItems_entries]
  rfl

end Document

/-- The numbers of a report and the list of its outcomes, in the summary, in the document, and to
whoever reads the text of the document. -/
structure Told (verb command time : String) : Prop where
  whole : report.passed + report.failed = report.total
  summary : report.summary verb =
    s!"{report.results.countP (·.outcome.isOk)} / {report.results.length} tests {verb}"
  total : (report.document command time).field? "total" =
    some (.number (.natural report.results.length))
  passed : (report.document command time).field? "passed" =
    some (.number (.natural (report.results.countP (·.outcome.isOk))))
  failed : (report.document command time).field? "failed" =
    some (.number (.natural (report.results.countP (!·.outcome.isOk))))
  results : (report.document command time).field? "results" =
    some (.array (report.results.map fun result => .object
      [("fixture", .string result.fixture.text), ("tag", .string result.tag),
        ("passed", .bool result.outcome.isOk)]))
  -- Numbers that a text holds are read as natural numbers up to 64 bits.
  read (few : report.results.length < UInt64.size) :
    Json.Value.read ((report.document command time).pretty 0 ++ "\n") = .ok (.object
      [("command", .string command),
        ("failed", .number (.natural (report.results.countP (!·.outcome.isOk)))),
        ("generated_at", .string time),
        ("passed", .number (.natural (report.results.countP (·.outcome.isOk)))),
        ("results", .array (report.results.map fun result => .object
          [("fixture", .string result.fixture.text), ("passed", .bool result.outcome.isOk),
            ("tag", .string result.tag)])),
        ("total", .number (.natural report.results.length))])

theorem told (verb command time : String) : report.Told verb command time where
  whole := report.passed_add_failed
  summary := rfl
  total := rfl
  passed := rfl
  failed := congrArg (fun count => some (Json.Value.number (.natural count))) report.failed_eq
  results := rfl
  read few := by
    rw [Json.Value.read_pretty (report.fits_document few command time), sorted_document]

end Report

end GoldenSuite
