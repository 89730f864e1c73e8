import GoldenSuite.Diff.Hunk

set_option autoImplicit false

namespace GoldenSuite.Diff

def contextLines : Nat := 3

/-- A slice of a list in a hunk header. A count of one is left out, and an empty slice names the
line before it. -/
def sliceText (start length : Nat) : String :=
  match length with
  | 0 => s!"{start},0"
  | 1 => s!"{start + 1}"
  | _ => s!"{start + 1},{length}"

def Run.texts : Run String → List String
  | .same lines => lines.map (" " ++ ·)
  | .change deleted inserted => deleted.map ("-" ++ ·) ++ inserted.map ("+" ++ ·)

def Hunk.header (hunk : Hunk String) : String :=
  s!"@@ -{sliceText hunk.oldStart hunk.old.length} +{sliceText hunk.newStart hunk.new.length} @@"

def Hunk.texts (hunk : Hunk String) : List String :=
  hunk.header :: hunk.flatMap fun placed => placed.run.texts

def unifiedLines (old new : List String) (oldLabel newLabel : String) : List String :=
  match hunks contextLines (script old new) with
  | [] => []
  | found => ("--- " ++ oldLabel) :: ("+++ " ++ newLabel) :: found.flatMap Hunk.texts

def unified (old new : List String) (oldLabel newLabel : String) : String :=
  String.join ((unifiedLines old new oldLabel newLabel).map (· ++ "\n"))

end GoldenSuite.Diff
