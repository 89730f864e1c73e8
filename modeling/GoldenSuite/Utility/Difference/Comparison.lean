import GoldenSuite.Utility.Difference.Columns
import GoldenSuite.Utility.Files
import GoldenSuite.Utility.Sort
import GoldenSuite.Utility.Wildcard

set_option autoImplicit false

namespace GoldenSuite.Utility

open Text (Octets)

namespace Difference

def groupNames : List (String × String) :=
  ["unchanged-group-format", "unchanged-line-format", "old-group-format", "old-line-format",
    "new-group-format", "new-line-format", "changed-group-format", "line-format"].map fun name =>
      (name ++ ":", "format")

def form : Form :=
  .of "0123456789abBcC:dD:eEfF:hHiI:lL:nNpPqrsS:tTuU:vwW:x:yZ" <|
    groupNames ++ [("text", "a"), ("ignore-space-change", "b"), ("ignore-blank-lines", "B"), ("context::", "c"),
      ("minimal", "d"), ("ifdef:", "D"), ("ed", "e"),
 ("ignore-tab-expansion", "E"),
      ("forward-ed", "f"), ("show-function-line:", "F"), ("speed-large-files", "H"),
      ("ignore-case", "i"), ("ignore-matching-lines:", "I"), ("label:", "L"), ("rcs", "n"),
      ("new-file", "N"), ("show-c-function", "p"), ("unidirectional-new-file", "P"),
      ("brief", "q"), ("recursive", "r"), ("report-identical-files", "s"), ("starting-file:", "S"),
      ("expand-tabs", "t"), ("initial-tab", "T"), ("unified::", "u"), ("ignore-all-space", "w"),
      ("width:", "W"), ("exclude:", "x"), ("side-by-side", "y"), ("ignore-trailing-space", "Z"),
      ("normal", "normal"), ("left-column", "left"), ("suppress-common-lines", "common"),
      ("suppress-blank-empty", "empty"), ("strip-trailing-cr", "cr"), ("tabsize:", "tab"),
      ("horizon-lines:", "horizon"), ("color::", "color"), ("no-dereference", "nolinks"),
      ("no-ignore-file-name-case", "names"), ("binary", "binary")]

def misused {α : Type} (text : Octets) : Task α := do
  Task.complain text 2
  Task.give (say s!"Try '{(← get).name} --help' for more information.") 2

def number? (written : Octets) : Option Nat :=
  if !written.isEmpty && written.all Char.isDigit then (String.ofList written).toNat? else none

def styleOf? : String → Option Style
  | "u" | "U" => some .unified
  | "c" | "C" => some .contextual
  | "e" => some .commands
  | "f" => some .forwardCommands
  | "n" => some .numbered
  | "y" => some .sideBySide
  | "normal" => some .normal
  | _ => none

def style? (choice : Choice) : Task (Option Style) := do
  match choice.options.filterMap fun option => styleOf? option.1 with
  | [] => return none
  | style :: others =>
      if others.all (· = style) then return some style
      else misused (say "conflicting output style options")

def contextOf (choice : Choice) : Task (Nat × Option Nat) := do
  let mut asked : Nat := 0
  for (key, value) in choice.options do
    if (key = "u" || key = "c") && value.isEmpty then asked := max asked 3
    else if ["u", "c", "U", "C"].contains key then
      match number? value with
      | some number => asked := max asked number
      | none => let _ ← misused (α := Unit) (say "invalid context length " ++ inQuotes value)
  let digits := choice.options.filterMap fun (key, _) =>
    if key.toList.all Char.isDigit then some key.toList else none
  return (asked, number? digits.flatten)

def blanksOf (choice : Choice) : Blanks :=
  if choice.has "w" then .every
  else if choice.has "b" then .amount
  else if choice.has "Z" then (if choice.has "E" then .tabsAndTrailing else .trailing)
  else if choice.has "E" then .tabs else .none

def patternOf (values : List Octets) : Task (Option Regular) := do
  if values.isEmpty then return none
  match Regular.parse false (values.intersperse ['\n']).flatten with
  | .ok regular => return some regular
  | .error _ =>
      Task.give ((values.getLast?.getD []) ++ say ": Invalid regular expression") 2

def sizeOf (choice : Choice) (key what : String) (otherwise : Nat) : Task Nat := do
  match choice.values key with
  | [] => return otherwise
  | written :: others =>
      if others.any (· ≠ written) then Task.give (say s!"conflicting {what} options") 2
      match number? written with
      | some number => if 0 < number then return number else misused (bad written)
      | none => misused (bad written)
where
  bad (written : Octets) : Octets := say s!"invalid {what} " ++ inQuotes written

def mannerOf (choice : Choice) : Task Manner := do
  let style ← style? choice
  let (asked, bare) ← contextOf choice
  let style := style.getD (if choice.has "p" || choice.has "F" && bare.isSome then .contextual else .normal)
  let isAround : Bool := style = .unified || style = .contextual
  let asked := if isAround && asked = 0 && choice.has "p" && style = .contextual then 3 else asked
  let isExplicit := (choice.values "U" ++ choice.values "C").any (!·.isEmpty)
    || choice.options.any fun option => (option.1 = "u" || option.1 = "c") && !option.2.isEmpty
  let around := match bare with
    | some bare => if isExplicit then max asked bare else bare
    | none => asked
  let context := if isAround then around else 0
  let functions := if choice.has "p" then ["^[[:alpha:]$_]".toList] else []
  return {
    style, context
    horizon := max context (((choice.last? "horizon").bind number?).getD 0)
    blanks := blanksOf choice
    foldsCase := choice.has "i"
    ignoresEmpty := choice.has "B"
    ignored := ← patternOf (choice.values "I")
    heading := ← patternOf (choice.values "F" ++ functions)
    isMinimal := choice.has "d"
    tabBefore := choice.has "T"
    expandsTabs := choice.has "t"
    tabSize := ← sizeOf choice "tab" "tabsize" 8
    width := ← sizeOf choice "W" "width" 130
    skipsCommon := choice.has "common"
    showsLeft := choice.has "left"
    trimsEmpty := choice.has "empty" }

def Manner.report (manner : Manner) (title : Octets) (left right : Side) (changes : List Change) :
    Octets :=
  let told := changes.filter fun change => !manner.ignores left right [change]
  let around (shown : List Change → Octets) : Octets :=
    let hunks := (manner.hunks left right changes).filter fun hunk => !manner.ignores left right hunk
    if hunks.isEmpty then [] else title ++ hunks.flatMap shown
  match manner.style with
  | .normal => told.flatMap (manner.normal left right)
  | .unified => around (manner.unified left right)
  | .contextual => around (manner.contextual left right)
  | .commands => told.reverse.flatMap (manner.command right)
  | .forwardCommands => told.flatMap (manner.forwardCommand right)
  | .numbered => told.flatMap (manner.numbered right)
  | .sideBySide => manner.sideBySide left right (0, 0) told

structure Subject where
  name : Octets
  node : Option Disk.Node
  place : Place := []

namespace Subject

def isDirectory (subject : Subject) : Bool := subject.node matches some .directory

def isMissing (subject : Subject) : Bool := subject.node.isNone

def contents (subject : Subject) : Octets :=
  match subject.node with
  | some (.file data _) => Text.Octets.ofBytes data
  | _ => []

def kind (subject : Subject) : Octets :=
  match subject.node with
  | some .directory => say "directory"
  | some (.file data _) =>
      if data.isEmpty then say "regular empty file" else say "regular file"
  | some (.link _) => say "symbolic link"
  | none => []

end Subject

def subject (name : Octets) : Task (Except FileFault Subject) := do
  if name = ['-'] then
    let input ← Task.takeInput
    return .ok ⟨name, some (.file (Text.Octets.toBytes input)), []⟩
  return ((← get).disk.lookup (pathOf name)).map fun (place, node) => ⟨name, some node, place⟩

structure Work where
  choice : Choice
  manner : Manner
  written : List Octets

namespace Work

def has (work : Work) (key : String) : Bool := work.choice.has key

def labelOf (work : Work) (subject : Subject) (index : Nat) : Octets :=
  ((work.choice.values "L")[index]?).getD subject.name

def titleRow (work : Work) (sign : String) (subject : Subject) (index : Nat) : Octets :=
  let name := match (work.choice.values "L")[index]? with
    | some label => label
    | none =>
        let time :=
          if work.manner.style = .contextual then "Thu Jan  1 00:00:00 1970"
          else "1970-01-01 00:00:00.000000000 +0000"
        subject.name ++ '\t' :: say time
  say sign ++ ' ' :: name ++ ['\n']

def title (work : Work) (left right : Subject) : Octets :=
  match work.manner.style with
  | .unified => work.titleRow "---" left 0 ++ work.titleRow "+++" right 1
  | .contextual => work.titleRow "***" left 0 ++ work.titleRow "---" right 1
  | _ => []

def banner (work : Work) (left right : Subject) : Octets :=
  ((say "diff" :: (work.written ++ [work.labelOf left 0, work.labelOf right 1]).map quotedIfNeeded).intersperse [' ']).flatten
    ++ ['\n']

def tell (work : Work) (verb : String) (left right : Subject) (ending : String) : Task Unit :=
  Task.writeLine (say verb ++ work.labelOf left 0 ++ say " and " ++ work.labelOf right 1 ++ say ending)

def holdsNul (octets : Octets) : Bool := octets.contains '\x00'

def cleaned (work : Work) (octets : Octets) : Octets :=
  if work.has "cr" then withoutReturns octets else octets
where
  withoutReturns : Octets → Octets
    | '\r' :: '\n' :: rest => '\n' :: withoutReturns rest
    | c :: rest => c :: withoutReturns rest
    | [] => []

def compareTexts (work : Work) (isInside : Bool) (left right : Subject) : Task Nat := do
  let manner := work.manner
  let leftText := work.cleaned left.contents
  let rightText := work.cleaned right.contents
  let isBinary := !work.has "a" && (holdsNul leftText || holdsNul rightText)
  if isBinary then
    if leftText = rightText then return 0
    work.tell (if work.has "q" then "Files " else "Binary files ") left right " differ"
    return 1
  let leftSide := Side.of leftText
  let rightSide := Side.of rightText
  let changes := manner.changes leftSide rightSide
  let hunks := changes.map fun change => [change]
  let differs := hunks.any fun hunk => !manner.ignores leftSide rightSide hunk
  if work.has "q" then
    if differs then work.tell "Files " left right " differ"
  else if differs || manner.style = .sideBySide then
    if isInside then Task.write (work.banner left right)
    Task.write (manner.report (work.title left right) leftSide rightSide changes)
  if !manner.isRobust then
    for (subject, side) in [(left, leftSide), (right, rightSide)] do
      if side.isCut then
        Task.complain (subject.name ++ say ": No newline at end of file\n") 2
    if leftSide.isCut || rightSide.isCut then return 2
  return if differs then 1 else 0

def onlyIn (directory : Octets) (name : Octets) : Task Nat := do
  Task.writeLine (say "Only in " ++ directory ++ say ": " ++ name)
  return 1

def compare (work : Work) : Nat → Option (Octets × Octets × Octets) → Subject → Subject → Task Nat
  | 0, _, _, _ => return 2
  | fuel + 1, parent, left, right => do
      let status ← match left.isDirectory || left.isMissing, right.isDirectory || right.isMissing with
        | true, true =>
            if parent.isSome && !work.has "r" then
              if left.isMissing || right.isMissing then missing parent left
              else
                Task.writeLine (say "Common subdirectories: " ++ left.name ++ say " and " ++ right.name)
                pure 0
            else do
              let leftNames ← namesIn left
              let rightNames ← namesIn right
              let names := ((leftNames ++ rightNames).eraseDups).mergeSort fun a b =>
                (Sort.compareOctets a b).isLE
              let mut worst := 0
              for name in names do
                if !isExcluded name then
                  let found ← inBoth fuel left right name (leftNames.contains name)
                    (rightNames.contains name)
                  worst := max worst found
              pure worst
        | false, false =>
            if left.place = right.place && !left.place.isEmpty && work.manner.style ≠ .sideBySide
            then pure 0
            else work.compareTexts parent.isSome left right
        | _, _ =>
            if left.isMissing || right.isMissing then work.compareTexts parent.isSome left right
            else do
              Task.writeLine (say "File " ++ work.labelOf left 0 ++ say " is a " ++ left.kind
                ++ say " while file " ++ work.labelOf right 1 ++ say " is a " ++ right.kind)
              pure 1
      if status = 0 && work.has "s" && !left.isDirectory && !right.isDirectory then
        work.tell "Files " left right " are identical"
      return status
where
  isExcluded (name : Octets) : Bool :=
    (work.choice.values "x").any fun pattern =>
      Wildcard.isMatch (Wildcard.parse (Marked.ofText pattern)) name
  missing (parent : Option (Octets × Octets × Octets)) (left : Subject) : Task Nat :=
    match parent with
    | some (leftDirectory, rightDirectory, name) =>
        onlyIn (if left.isMissing then rightDirectory else leftDirectory) name
    | none => return 0
  namesIn (subject : Subject) : Task (List Octets) := do
    if subject.isMissing then return []
    return ((← get).disk.children subject.place).map fun child => Text.Octets.ofText child.1
  inBoth (fuel : Nat) (left right : Subject) (name : Octets) (isLeft isRight : Bool) : Task Nat := do
    let parent := (left.name, right.name, name)
    let child (directory : Subject) (isThere : Bool) : Task Subject := do
      let path := Files.inside directory.name name
      if !isThere then return ⟨path, none, []⟩
      match ← subject path with
      | .ok found => return found
      | .error fault =>
          Task.complain (path ++ say ": " ++ reason fault) 2
          return ⟨path, none, []⟩
    let first ← child left isLeft
    let second ← child right isRight
    let countsMissing := work.has "N" || (work.has "P" && isRight)
    if !countsMissing && (!isLeft || !isRight) then
      onlyIn (if isLeft then left.name else right.name) name
    else work.compare fuel (some parent) first second

end Work

def optionsOf (arguments : List Octets) (operands : List Octets) : List Octets :=
  arguments.filter fun argument => !operands.contains argument

def subjects (work : Work) (leftName rightName : Octets) : Task (Subject × Subject) := do
  let left ← subject leftName
  let right ← if leftName = rightName then pure left else subject rightName
  let stands (found other : Except FileFault Subject) (isCounted : Bool) (name : Octets) :
      Task (Option Subject) := do
    match found with
    | .ok found => return some found
    | .error fault =>
        if isCounted && fault = .noEntry && other.isOk then return some ⟨name, none, []⟩
        Task.complain (name ++ say ": " ++ reason fault) 2
        return none
  let first ← stands left right (work.has "N" || work.has "P") leftName
  let second ← stands right left (work.has "N") rightName
  match first, second with
  | some left, some right =>
      if left.isDirectory && !right.isDirectory && !right.isMissing then
        return (← within left right, right)
      if right.isDirectory && !left.isDirectory && !left.isMissing then
        return (left, ← within right left)
      return (left, right)
  | _, _ => Task.leave 2
where
  within (directory file : Subject) : Task Subject := do
    if file.name = ['-'] then Task.give (say "cannot compare '-' to a directory") 2
    let name :=
      Files.inside (Files.withoutSlashes directory.name) (Files.baseName file.name)
    match ← subject name with
    | .ok found => return found
    | .error fault => Task.give (name ++ say ": " ++ reason fault) 2

def task (arguments : List Octets) : Task Unit := do
  let choice ← match form.read arguments with
    | .ok choice => pure choice
    | .error fault => misused fault.message
  let manner ← mannerOf choice
  if 2 < (choice.values "L").length then Task.give (say "too many file label options") 2
  let work : Work := ⟨choice, manner, optionsOf arguments choice.operands⟩
  match choice.operands with
  | [leftName, rightName] =>
      let (left, right) ← subjects work leftName rightName
      let depth := (← get).disk.entries.length + 2
      let status ← work.compare depth none left right
      Task.atLeast status
  | [] => misused (say "missing operand after " ++ inQuotes (arguments.getLast?.getD (say (← get).name)))
  | [_] => misused (say "missing operand after " ++ inQuotes (arguments.getLast?.getD []))
  | _ :: _ :: extra :: _ => misused (say "extra operand " ++ inQuotes extra)

end Difference

end GoldenSuite.Utility
