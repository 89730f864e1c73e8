import GoldenSuite.Regex.Parser
import GoldenSuite.Regex.Size
import GoldenSuite.Text.Lines

/-!
Volatile lines: lines of an artifact that change from one run to the next without meaning. Markers
tell them; what is left is trimmed and ends in one line feed.
-/

set_option autoImplicit false

namespace GoldenSuite

structure VolatileFilter where
  markers : List Regex

namespace VolatileFilter

def marker? (written : String) : Option Regex := (Regex.parse? written).filter (·.fits)

def ofMarkers : List String → Except String VolatileFilter
  | [] => .ok ⟨[]⟩
  | marker :: markers =>
      match marker? marker with
      | none => .error marker
      | some regex => do return ⟨regex :: (← ofMarkers markers).markers⟩

def isVolatile (filter : VolatileFilter) (line : List Char) : Bool :=
  filter.markers.any (·.isMatch line)

def stripChars (filter : VolatileFilter) (text : List Char) : List Char :=
  Text.trim ((Text.linesWithEnds text).filter fun line => !filter.isVolatile line).flatten ++ ['\n']

def strip (filter : VolatileFilter) (text : String) : String :=
  String.ofList (filter.stripChars text.toList)

end VolatileFilter

end GoldenSuite
