import GoldenSuite.Diff.Unified
import GoldenSuite.Text.Lines

/-!
Symbol listings: the names and types of the symbols in an object file, one to a line. Read-only data
is left out, and listings are compared line by line without regard to blanks at the ends of lines.
-/

set_option autoImplicit false

namespace GoldenSuite

inductive Comparison where
  | agree
  | differ (diff : String)
  deriving DecidableEq, Repr

namespace Symbols

def readOnlyType : List Char := ['r']

def entry? (line : List Char) : Option (List Char) :=
  match Text.words line with
  | [] => none
  | [name] => some name
  | name :: type :: _ => if type = readOnlyType then none else some (name ++ ' ' :: type)

def filter (raw : String) : String :=
  String.ofList (((Text.lines raw.toList).filterMap entry?).flatMap (· ++ ['\n']))

def entries (listing : String) : List String :=
  ((Text.lines listing.toList).map Text.trimEnd).filter (· ≠ []) |>.map String.ofList

def compare (expected actual : String) : Comparison :=
  let diff := Diff.unified (entries expected) (entries actual) "expected.sym" "actual.sym"
  if diff.isEmpty then .agree else .differ diff

end Symbols

end GoldenSuite
