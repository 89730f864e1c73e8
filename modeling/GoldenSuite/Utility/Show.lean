import GoldenSuite.Utility.Options

set_option autoImplicit false

namespace GoldenSuite.Utility

open Text (Octets)

def Task.allContents (operands : List Octets) (status : Nat := 1) : Task Octets := do
  let names := if operands.isEmpty then [['-']] else operands
  let parts ← names.mapM fun name => do
    match ← contentsOrInput name with
    | .ok octets => return octets
    | .error fault =>
        complain (quotedIfNeeded name ++ say ": " ++ reason fault) status
        return []
  return parts.flatten

namespace Cat

def visible (c : Char) : Octets :=
  let low (code : Nat) : Octets :=
    if code < 32 then ['^', Char.ofNat (code + 64)]
    else if code = 127 then ['^', '?'] else [Char.ofNat code]
  if c.toNat < 128 then low c.toNat else 'M' :: '-' :: low (c.toNat - 128)

def paddedLeft (width : Nat) (octets : Octets) : Octets :=
  List.replicate (width - octets.length) ' ' ++ octets

def shown (keys : Choice) (line : Octets) (number : Option Nat) : Octets :=
  let hasEnd := line.getLast? = some '\n'
  let body := if hasEnd then line.dropLast else line
  let isVisible := ["v", "A", "e", "t"].any keys.has
  let showsTabs := ["T", "A", "t"].any keys.has
  let marked := body.flatMap fun c =>
    if c = '\t' then (if showsTabs then ['^', 'I'] else [c])
    else if isVisible then visible c else [c]
  let mark := if ["E", "A", "e"].any keys.has then ['$'] else []
  let label := match number with
    | some number => paddedLeft 6 (decimal number) ++ ['\t']
    | none => []
  label ++ marked ++ (if hasEnd then mark ++ ['\n'] else [])

def shownFrom (keys : Choice) : Nat → Bool → List Octets → Octets
  | _, _, [] => []
  | number, wasEmpty, line :: rest =>
      let isEmpty := line = ['\n']
      if keys.has "s" && isEmpty && wasEmpty then shownFrom keys number true rest
      else
        let counts := if keys.has "b" then !isEmpty else keys.has "n"
        shown keys line (if counts then some number else none)
          ++ shownFrom keys (if counts then number + 1 else number) isEmpty rest

def form : Form :=
  .of "AbeEnstTuv" [("show-all", "A"), ("number-nonblank", "b"), ("show-ends", "E"),
    ("number", "n"), ("squeeze-blank", "s"), ("show-tabs", "T"), ("show-nonprinting", "v")]

def task (arguments : List Octets) : Task Unit := do
  let choice ← Task.choose form arguments
  if choice.options.all (·.1 = "u") then
    (if choice.operands.isEmpty then [['-']] else choice.operands).forM fun name => do
      match ← Task.contentsOrInput name with
      | .ok octets => Task.write octets
      | .error fault => Task.complain (quotedIfNeeded name ++ say ": " ++ reason fault)
  else
    let text ← Task.allContents choice.operands
    Task.write (shownFrom choice 1 false (Text.linesWithEnds text))

end Cat

def tac (arguments : List Octets) : Task Unit := do
  let choice ← Task.choose (.of "br s:" [("before", "b"), ("regex", "r"), ("separator:", "s")]) arguments
  (if choice.operands.isEmpty then [['-']] else choice.operands).forM fun name => do
    match ← Task.contentsOrInput name with
    | .ok octets => Task.write (Text.linesWithEnds octets).reverse.flatten
    | .error .isDirectory => Task.complain (quotedIfNeeded name ++ say ": read error: Is a directory")
    | .error fault =>
        Task.complain (say "failed to open " ++ quoted name ++ say " for reading: " ++ reason fault)

def rev (arguments : List Octets) : Task Unit := do
  let choice ← Task.choose (.of "0") arguments
  (if choice.operands.isEmpty then [['-']] else choice.operands).forM fun name => do
    match ← Task.contentsOrInput name with
    | .ok octets =>
        Task.write <| (Text.linesWithEnds octets).flatMap fun line =>
          if line.getLast? = some '\n' then line.dropLast.reverse ++ ['\n'] else line.reverse
    | .error fault => Task.complain (say "cannot open " ++ name ++ say ": " ++ reason fault)

namespace Numbered

structure Style where
  body : Octets := ['t']
  separator : Octets := ['\t']
  width : Nat := 6
  format : Octets := say "rn"
  first : Int := 1
  step : Int := 1

def label (style : Style) (number : Int) : Octets :=
  let digits := decimal number.natAbs
  let sign := if number < 0 then ['-'] else []
  let missing := style.width - (digits.length + sign.length)
  match String.ofList style.format with
  | "ln" => sign ++ digits ++ List.replicate missing ' '
  | "rz" => sign ++ List.replicate missing '0' ++ digits
  | _ => List.replicate missing ' ' ++ sign ++ digits

def linesFrom (style : Style) : Int → List Octets → Octets
  | _, [] => []
  | number, line :: rest =>
      let counts := style.body = ['a'] || (style.body = ['t'] && !line.isEmpty)
      if counts then
        label style number ++ style.separator ++ line ++ '\n' :: linesFrom style (number + style.step) rest
      else
        List.replicate (style.width + style.separator.length) ' ' ++ line
          ++ '\n' :: linesFrom style number rest

def task (arguments : List Octets) : Task Unit := do
  let form := Form.of "b:d:f:h:i:l:n:ps:v:w:" [("body-numbering:", "b"), ("line-increment:", "i"),
    ("number-format:", "n"), ("number-separator:", "s"), ("starting-line-number:", "v"),
    ("number-width:", "w")]
  let choice ← Task.choose form arguments
  let number (key : String) (otherwise : Int) : Int :=
    ((choice.last? key).bind fun octets => (String.ofList octets).toInt?).getD otherwise
  let style : Style :=
    { body := (choice.last? "b").getD ['t']
      separator := (choice.last? "s").getD ['\t']
      width := (number "w" 6).toNat
      format := (choice.last? "n").getD (say "rn")
      first := number "v" 1
      step := number "i" 1 }
  let text ← Task.allContents choice.operands
  Task.write (linesFrom style style.first (linesOf text))

end Numbered

namespace Fold

def column (inBytes : Bool) (before : Nat) (c : Char) : Nat :=
  if inBytes then before + 1
  else match c with
    | '\x08' => before - 1
    | '\x0d' => 0
    | '\t' => before + 8 - before % 8
    | _ => before + 1

def columns (inBytes : Bool) (octets : Octets) : Nat := octets.foldl (column inBytes) 0

/-- A line cut into rows of at most so many columns, at blanks if that is wanted. The row that is
begun is given in reverse. -/
def rows (inBytes atBlanks : Bool) (width : Nat) : Nat → Octets → Octets → Octets
  | 0, begun, rest => begun.reverse ++ rest
  | _, begun, [] => begun.reverse
  | fuel + 1, begun, c :: rest =>
      if c = '\n' then begun.reverse ++ '\n' :: rows inBytes atBlanks width fuel [] rest
      else if columns inBytes (c :: begun).reverse ≤ width || begun.isEmpty then
        rows inBytes atBlanks width fuel (c :: begun) rest
      else
        let tail := begun.takeWhile fun c => c ≠ ' ' && c ≠ '\t'
        if atBlanks && tail.length < begun.length then
          (begun.drop tail.length).reverse ++ '\n' :: rows inBytes atBlanks width fuel tail (c :: rest)
        else begun.reverse ++ '\n' :: rows inBytes atBlanks width fuel [] (c :: rest)

def task (arguments : List Octets) : Task Unit := do
  let isWidth : Octets → Bool
    | '-' :: digits => !digits.isEmpty && digits.all Char.isDigit
    | _ => false
  let arguments := arguments.map fun argument =>
    if isWidth argument then say "-w" ++ argument.tail else argument
  let choice ← Task.choose (.of "bsw:" [("bytes", "b"), ("spaces", "s"), ("width:", "w")]) arguments
  let written := (choice.last? "w").getD (say "80")
  match (String.ofList written).toNat?.filter (0 < ·) with
  | none => Task.give (say "invalid number of columns: " ++ cited written)
  | some width =>
      let text ← Task.allContents choice.operands
      Task.write (rows (choice.has "b") (choice.has "s") width (3 * text.length + 1) [] text)

end Fold

namespace Tabs

def expanded (stop : Nat) (onlyFirst : Bool) : Nat → Bool → Octets → Octets
  | _, _, [] => []
  | column, isLead, c :: rest =>
      if c = '\t' && (isLead || !onlyFirst) then
        let count := stop - column % stop
        List.replicate count ' ' ++ expanded stop onlyFirst (column + count) isLead rest
      else if c = '\n' then c :: expanded stop onlyFirst 0 true rest
      else c :: expanded stop onlyFirst (column + 1) (isLead && c = ' ') rest

def blank (stop : Nat) (first last : Nat) : Octets :=
  let tabs := last / stop - first / stop
  if tabs = 0 || last - first < 2 && last % stop ≠ 0 then List.replicate (last - first) ' '
  else List.replicate tabs '\t' ++ List.replicate (last % stop) ' '

/-- A line in which blanks up to a stop are tabs. The column where a run of blanks started is given
while one is open. -/
def unexpanded (stop : Nat) (everywhere : Bool) : Nat → Option Nat → Bool → Octets → Octets
  | column, run, _, [] => (run.map fun first => blank stop first column).getD []
  | column, run, isLead, c :: rest =>
      let isBlank := (c = ' ' || c = '\t') && (isLead || everywhere)
      if isBlank then
        let next := if c = '\t' then column + stop - column % stop else column + 1
        unexpanded stop everywhere next (some (run.getD column)) isLead rest
      else
        let before := (run.map fun first => blank stop first column).getD []
        if c = '\n' then before ++ c :: unexpanded stop everywhere 0 none true rest
        else before ++ c :: unexpanded stop everywhere (column + 1) none false rest

def stopOf (choice : Choice) : Nat :=
  (((choice.last? "t").bind fun octets => (String.ofList octets).toNat?).filter (0 < ·)).getD 8

def expand (arguments : List Octets) : Task Unit := do
  let choice ← Task.choose (.of "it:" [("initial", "i"), ("tabs:", "t")]) arguments
  let text ← Task.allContents choice.operands
  Task.write (expanded (stopOf choice) (choice.has "i") 0 true text)

def unexpand (arguments : List Octets) : Task Unit := do
  let form := Form.of "at:" [("all", "a"), ("first-only", "first-only"), ("tabs:", "t")]
  let choice ← Task.choose form arguments
  let everywhere := (choice.has "a" || choice.has "t") && !choice.has "first-only"
  let text ← Task.allContents choice.operands
  Task.write (unexpanded (stopOf choice) everywhere 0 none true text)

end Tabs

end GoldenSuite.Utility
