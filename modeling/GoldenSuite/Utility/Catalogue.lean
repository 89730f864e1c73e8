import GoldenSuite.Utility.Condition
import GoldenSuite.Utility.Difference.Octetwise
import GoldenSuite.Utility.Editor.Run
import GoldenSuite.Utility.Listing
import GoldenSuite.Utility.Merge
import GoldenSuite.Utility.Search
import GoldenSuite.Utility.Show
import GoldenSuite.Utility.Slice
import GoldenSuite.Utility.Translate
import GoldenSuite.Utility.Words

set_option autoImplicit false

namespace GoldenSuite.Utility

open Text (Octets)

def ending (status : Nat) (_ : List Octets) : Task Unit := Task.atLeast status

def textUtilities : List (String × (List Octets → Task Unit)) :=
  [("cat", Cat.task), ("cmp", Octetwise.task), ("comm", Comm.task), ("cut", Cut.task),
    ("diff", Difference.task),
    ("egrep", Search.task "E"), ("expand", Tabs.expand), ("fgrep", Search.task "F"),
    ("fold", Fold.task), ("grep", Search.task ""), ("head", head), ("join", Join.task),
    ("nl", Numbered.task), ("paste", Paste.task), ("rev", rev), ("sed", Editor.task), ("sort", Sort.task),
    ("tac", tac),
    ("tail", tail), ("tee", tee), ("tr", Translate.task), ("unexpand", Tabs.unexpand),
    ("uniq", Uniq.task), ("wc", Count.task)]

def fileUtilities : List (String × (List Octets → Task Unit)) :=
  [("chmod", Mode.change), ("cp", Copy.task), ("ln", Links.task), ("ls", Listing.task),
    ("mkdir", Directories.make), ("mktemp", makeTemporary), ("mv", Move.task),
    ("readlink", Links.read), ("realpath", Links.realPath), ("rm", Remove.task),
    ("rmdir", Directories.remove), ("stat", Status.task), ("touch", touch),
    ("truncate", truncate)]

def wordUtilities : List (String × (List Octets → Task Unit)) :=
  [("[", Condition.bracketTask), ("basename", Name.base), ("dirname", Name.directory),
    ("echo", echo), ("expr", Calculation.task), ("false", ending 1),
    ("printenv", printEnvironment), ("printf", Format.task), ("pwd", workingDirectory),
    ("seq", Sequence.task), ("test", Condition.task), ("true", ending 0)]

def catalogue : List (String × (List Octets → Task Unit)) :=
  textUtilities ++ fileUtilities ++ wordUtilities

end GoldenSuite.Utility
