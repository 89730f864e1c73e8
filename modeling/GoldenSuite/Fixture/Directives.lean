import GoldenSuite.Text.Lines
import GoldenSuite.Text.Search

/-!
Directives in the head of a source: words on its first two lines that change how the fixture is
driven.
-/

set_option autoImplicit false

namespace GoldenSuite

structure Directives where
  skipFormat : Bool
  printDebug : Bool
  deriving DecidableEq, Repr, Inhabited

namespace Directives

def headLines : Nat := 2

def head (source : List Char) : List Char := ((Text.linesWithEnds source).take headLines).flatten

def ofSource (source : String) : Directives :=
  let text := head source.toList
  let printDebug := Text.occurs "print-debug".toList text
  { skipFormat := printDebug || Text.occurs "nofmt".toList text
    printDebug := printDebug }

end Directives

end GoldenSuite
