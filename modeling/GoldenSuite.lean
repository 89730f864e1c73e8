import GoldenSuite.Console
import GoldenSuite.Disk.Tree
import GoldenSuite.Json.Value
import GoldenSuite.Main
import GoldenSuite.Proofs.Trial.Convergence
import GoldenSuite.Shell.Launch
import GoldenSuite.StandIn
import GoldenSuite.Proofs.Trial.Assertion
import GoldenSuite.Proofs.Trial.Course
import GoldenSuite.Proofs.Files.Contents
import GoldenSuite.Proofs.Trial.Rewriting
import GoldenSuite.Proofs.Trial.Lockstep
import GoldenSuite.Proofs.Trial.Leftovers
import GoldenSuite.Proofs.Path.Segments
import GoldenSuite.Proofs.Path.Sibling
import GoldenSuite.Proofs.Files.Glob
import GoldenSuite.Proofs.Path.Below
import GoldenSuite.Proofs.Suite.Selecting
import GoldenSuite.Proofs.Suite.Frame
import GoldenSuite.Proofs.Fixture.Canonical
import GoldenSuite.Proofs.Fixture.Delimiter
import GoldenSuite.Proofs.Suite.Siblings
import GoldenSuite.Proofs.Suite.Keeping
import GoldenSuite.Proofs.Suite.Session
import GoldenSuite.Proofs.Diff.Hunk
import GoldenSuite.Proofs.Diff.Reading
import GoldenSuite.Proofs.Trial.Sites
import GoldenSuite.Proofs.Trial.Transcript
import GoldenSuite.Proofs.Trial.Faults
import GoldenSuite.Proofs.Files.Separate
import GoldenSuite.Proofs.Trial.Own
import GoldenSuite.Proofs.Suite.Independence
import GoldenSuite.Proofs.Trial.Order
import GoldenSuite.Proofs.Trial.Remains
import GoldenSuite.Proofs.Trial.Quiet
import GoldenSuite.Proofs.Report
import GoldenSuite.Proofs.Suite.Executing
import GoldenSuite.Proofs.Suite.Reporting
import GoldenSuite.Proofs.Suite.Refusals
import GoldenSuite.Proofs.Fixture.Directives
import GoldenSuite.Proofs.Fixture.Grammar
import GoldenSuite.Proofs.Diff.Layout
import GoldenSuite.Proofs.Selection.Partition
import GoldenSuite.Proofs.Symbols.Agreement
import GoldenSuite.Proofs.Volatile.Literals
import GoldenSuite.Proofs.Selection.Naming
import GoldenSuite.Proofs.Suite.Collisions
import GoldenSuite.Proofs.Suite.Cleaning
import GoldenSuite.Proofs.Trial.ErrorLog
import GoldenSuite.Proofs.Selection.Repetition
import GoldenSuite.Proofs.Symbols.Filtering
import GoldenSuite.Proofs.Selection.Discovery
import GoldenSuite.Proofs.Suite.Launching
