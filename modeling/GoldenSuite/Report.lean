import GoldenSuite.Json.Value
import GoldenSuite.Outcome

set_option autoImplicit false

namespace GoldenSuite

structure TestResult where
  fixture : Path
  outcome : Outcome

namespace TestResult

def passed (result : TestResult) : Bool := result.outcome.isOk

def tag (result : TestResult) : String := result.outcome.tag

def statusLine (result : TestResult) (width : Nat) : String :=
  let name := result.fixture.chars
  let fill := List.replicate (width - name.length) ' '
  String.ofList (name ++ fill) ++ " = " ++ result.tag

end TestResult

structure Report where
  results : List TestResult := []

namespace Report

def total (report : Report) : Nat := report.results.length

def passed (report : Report) : Nat := report.results.countP TestResult.passed

def failed (report : Report) : Nat := report.total - report.passed

def succeeded (report : Report) : Bool := report.failed = 0

def summary (report : Report) (verb : String) : String :=
  s!"{report.passed} / {report.total} tests {verb}"

def entry (result : TestResult) : Json.Value :=
  .object
    [("fixture", .string result.fixture.text), ("tag", .string result.tag),
      ("passed", .bool result.passed)]

def document (report : Report) (command time : String) : Json.Value :=
  .object
    [("generated_at", .string time), ("command", .string command),
      ("total", .number (.natural report.total)), ("passed", .number (.natural report.passed)),
      ("failed", .number (.natural report.failed)),
      ("results", .array (report.results.map entry))]

def text (report : Report) (command time : String) : String :=
  (report.document command time).pretty 0 ++ "\n"

end Report

end GoldenSuite
