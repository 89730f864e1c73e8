import GoldenSuite.Utility.Files
import GoldenSuite.Utility.Format
import GoldenSuite.Utility.Regular
import GoldenSuite.Utility.Sort

set_option autoImplicit false

namespace GoldenSuite.Utility

open Text (Octets)

def echoed (dialect : Format.Dialect) (escapes newline : Bool) (arguments : List Octets) : Octets :=
  let line := (arguments.intersperse [' ']).flatten
  let (text, isCut) :=
    if escapes then Format.unescaped dialect line.length line else (line, false)
  if newline && !isCut then text ++ ['\n'] else text

def shellEcho : List Octets → Octets
  | ['-', 'n'] :: arguments => echoed .shell true false arguments
  | arguments => echoed .shell true true arguments

def echo (arguments : List Octets) : Task Unit :=
  let isOption : Octets → Bool
    | '-' :: letters => !letters.isEmpty && letters.all "neE".toList.contains
    | _ => false
  let letters := (arguments.takeWhile isOption).flatten
  let escapes := (letters.reverse.find? fun c => c = 'e' || c = 'E') = some 'e'
  Task.write (echoed .program escapes (!letters.contains 'n') (arguments.dropWhile isOption))

namespace Name

def without (ending name : Octets) : Octets :=
  if ending.length < name.length && ending.reverse.isPrefixOf name.reverse
  then name.take (name.length - ending.length) else name

def base (arguments : List Octets) : Task Unit := do
  let form := Form.of "as:z" [("multiple", "a"), ("suffix:", "s"), ("zero", "z")]
  let choice ← Task.choose { form with isOrdered := true } arguments
  if choice.operands.isEmpty then Task.misused (say "missing operand")
  let ending := if choice.has "z" then ['\x00'] else ['\n']
  match choice.last? "s", choice.has "a", choice.operands with
  | some suffix, _, names =>
      names.forM fun name => Task.write (without suffix (Files.baseName name) ++ ending)
  | none, true, names => names.forM fun name => Task.write (Files.baseName name ++ ending)
  | none, false, [name] => Task.write (Files.baseName name ++ ending)
  | none, false, name :: suffix :: more =>
      match more with
      | extra :: _ => Task.misused (say "extra operand " ++ cited extra)
      | [] => Task.write (without suffix (Files.baseName name) ++ ending)
  | none, false, [] => return

def parent (name : Octets) : Octets :=
  let kept := Files.withoutSlashes name
  if kept = ['/'] then kept
  else if !kept.contains '/' then ['.']
  else
    let before := (kept.reverse.dropWhile (· ≠ '/')).dropWhile (· = '/')
    if before.isEmpty then ['/'] else before.reverse

def directory (arguments : List Octets) : Task Unit := do
  let choice ← Task.choose (Form.of "z" [("zero", "z")]) arguments
  if choice.operands.isEmpty then Task.misused (say "missing operand")
  choice.operands.forM fun name => Task.writeLine (parent name)

end Name

namespace Sequence

structure Step where
  value : Int
  places : Nat

def step? (written : Octets) : Option Step :=
  match Numeral.size? written with
  | some (isNegative, .finite num den, []) =>
      let places := match (written.dropWhile (· ≠ '.')).tail with
        | digits => (digits.takeWhile Char.isDigit).length
      let size := num * Nat.pow 10 places / den
      some ⟨if isNegative then -(size : Int) else size, places⟩
  | _ => none

def Step.scaled (step : Step) (places : Nat) : Int :=
  step.value * Int.pow 10 (places - step.places)

def numbers (step last : Int) : Nat → Int → List Int
  | 0, _ => []
  | fuel + 1, value =>
      if (0 < step && last < value) || (step < 0 && value < last) then []
      else value :: numbers step last fuel (value + step)

def text (places : Nat) (value : Int) : Octets :=
  (if value < 0 then ['-'] else []) ++ Decimal.withPoint places false value.natAbs

def isNegativeNumber : Octets → Bool
  | '-' :: c :: _ => c.isDigit || c = '.'
  | _ => false

def limit : Nat := 100000

def write (choice : Choice) (first step last : Step) : Task Unit := do
  let places := max first.places step.places
  let scale := max places last.places
  if step.value = 0 then return
  let found := numbers (step.scaled scale) (last.scaled scale) limit (first.scaled scale)
  let unit := Int.pow 10 (scale - places)
  let texts := found.map fun value => text places (value / unit)
  let widths := texts.map List.length
  let last := text places (last.scaled scale / unit)
  let width := max (max (widths.foldl max 0) last.length) 0
  let equal (octets : Octets) : Octets :=
    match octets with
    | '-' :: digits => '-' :: List.replicate (width - octets.length) '0' ++ digits
    | digits => List.replicate (width - octets.length) '0' ++ digits
  let shown ← match choice.last? "f" with
    | some format => found.mapM fun value => do
        let rest := (format.dropWhile (· ≠ '%')).tail
        if rest.isEmpty then Task.give (say "format " ++ cited format ++ say " has no % directive")
        let letter := (rest.find? Char.isAlpha).getD '%'
        if !"aefgAEFG".toList.contains letter then
          Task.give (say "format " ++ cited format ++ say " has unknown %" ++ [letter]
            ++ say " directive")
        let before ← getThe Bench
        let _ ← Format.print .program format [text scale value]
        let after ← getThe Bench
        set { after with written := before.written }
        return (after.written.take (after.written.length - before.written.length)).reverse.flatMap (·.2)
    | none => pure (if choice.has "w" then texts.map equal else texts)
  if !shown.isEmpty then
    Task.write ((shown.intersperse ((choice.last? "s").getD ['\n'])).flatten ++ ['\n'])

def task (arguments : List Octets) : Task Unit := do
  let form := Form.of "f:s:w" [("format:", "f"), ("separator:", "s"), ("equal-width", "w")]
  let options := arguments.takeWhile fun argument => !isNegativeNumber argument
  let choice ← Task.choose { form with isOrdered := true } options
  let operands := choice.operands ++ arguments.drop options.length
  let number (written : Octets) : Task Step :=
    match step? written with
    | some step => return step
    | none => Task.misused (say "invalid floating point argument: " ++ cited written)
  let one : Step := ⟨1, 0⟩
  match operands with
  | [] => Task.misused (say "missing operand")
  | [last] => write choice one one (← number last)
  | [first, last] => write choice (← number first) one (← number last)
  | [first, step, last] =>
      let first ← number first
      let size ← number step
      if size.value = 0 then
        Task.misused (say "invalid Zero increment value: " ++ cited step)
      write choice first size (← number last)
  | _ :: _ :: _ :: extra :: _ => Task.misused (say "extra operand " ++ cited extra)

end Sequence

namespace Calculation

structure Rest where
  words : List Octets
  before : Octets := []

abbrev Reading := StateT Rest Task

def wrong {α : Type} (text : Octets) : Task α := Task.give (say "syntax error: " ++ text) 2

def isNothing (value : Octets) : Bool :=
  value.isEmpty || (match value with
    | '-' :: digits => !digits.isEmpty && digits.all (· = '0')
    | digits => digits.all (· = '0'))

def integer? (value : Octets) : Option Int :=
  match value with
  | '-' :: digits =>
      if !digits.isEmpty && digits.all Char.isDigit then
        some (-(Numeral.valueOf 10 digits : Int)) else none
  | digits =>
      if !digits.isEmpty && digits.all Char.isDigit then some (Numeral.valueOf 10 digits) else none

def ofBool (holds : Bool) : Octets := if holds then ['1'] else ['0']

def ofInt (value : Int) : Octets := say (toString value)

def matched (text pattern : Octets) : Task Octets := do
  match Regular.parse false pattern with
  | .error fault => Task.give (say fault.message) 2
  | .ok regular =>
      let hasGroup := regular.lastGroup ≠ 0
      let letters := text.toArray
      match regular.matchAt letters 0 with
      | none => return if hasGroup then [] else ['0']
      | some spot =>
          if hasGroup then
            match spot.groups.lookup 1 with
            | some (first, last) => return (letters.extract first last).toList
            | none => return []
          else return decimal spot.position

def compareValues (operator left right : Octets) : Octets :=
  let order := match integer? left, integer? right with
    | some a, some b => compare a b
    | _, _ => Sort.compareOctets left right
  ofBool <| match String.ofList operator with
    | "<" => order == .lt
    | "<=" => order != .gt
    | "=" | "==" => order == .eq
    | "!=" => order != .eq
    | ">" => order == .gt
    | _ => order != .lt

def calculate (operator left right : Octets) : Task Octets := do
  match integer? left, integer? right with
  | some a, some b =>
      match operator with
      | ['+'] => return ofInt (a + b)
      | ['-'] => return ofInt (a - b)
      | ['*'] => return ofInt (a * b)
      | _ =>
          if b = 0 then Task.give (say "division by zero") 2
          return ofInt (if operator = ['/'] then a.tdiv b else a.tmod b)
  | _, _ => Task.give (say "non-integer argument") 2

def levels : List (List String) :=
  [["|"], ["&"], ["<", "<=", "=", "==", "!=", ">=", ">"], ["+", "-"], ["*", "/", "%"], [":"]]

def combine (operator left right : Octets) : Task Octets :=
  match operator with
  | ['|'] => return if isNothing left then (if isNothing right then ['0'] else right) else left
  | ['&'] => return if isNothing left || isNothing right then ['0'] else left
  | [':'] => matched left right
  | ['+'] | ['-'] | ['*'] | ['/'] | ['%'] => calculate operator left right
  | _ => return compareValues operator left right

def take : Reading (Option Octets) := do
  match (← get).words with
  | [] => return none
  | word :: words =>
      set ({ words, before := word } : Rest)
      return some word

mutual

def level : Nat → List (List String) → Reading Octets
  | 0, _ => return []
  | fuel + 1, [] => operand fuel
  | fuel + 1, operators :: tighter => do
      levelAfter fuel operators tighter (← level fuel tighter)

def levelAfter : Nat → List String → List (List String) → Octets → Reading Octets
  | 0, _, _, left => return left
  | fuel + 1, operators, tighter, left => do
      match (← get).words.head? with
      | some operator =>
          if operators.contains (String.ofList operator) then
            let _ ← take
            let right ← level fuel tighter
            levelAfter fuel operators tighter (← combine operator left right)
          else return left
      | none => return left

def operand : Nat → Reading Octets
  | 0 => return []
  | fuel + 1 => do
      let before := (← get).before
      let required : Reading Octets := operand fuel
      match ← take with
      | none => wrong (say "missing argument after " ++ cited before)
      | some word =>
          match String.ofList word with
          | "(" =>
              let value ← level fuel levels
              let before := (← get).before
              match ← take with
              | some [')'] => return value
              | some other => wrong (say "expecting ')' instead of " ++ cited other)
              | none => wrong (say "expecting ')' after " ++ cited before)
          | ")" => wrong (say "unexpected ')'")
          | "+" =>
              match ← take with
              | some word => return word
              | none => wrong (say "missing argument after '+'")
          | "length" => return decimal (← required).length
          | "match" =>
              let text ← required
              matched text (← required)
          | "index" =>
              let text ← required
              let letters ← required
              return decimal (((text.findIdx? letters.contains).map (· + 1)).getD 0)
          | "substr" =>
              let text ← required
              let first ← required
              let count ← required
              match integer? first, integer? count with
              | some first, some count =>
                  if first < 1 || count < 1 then return []
                  else return (text.drop (first.toNat - 1)).take count.toNat
              | _, _ => return []
          | _ => return word

end

def task (arguments : List Octets) : Task Unit := do
  let words := if arguments.head? = some ['-', '-'] then arguments.tail else arguments
  if words.isEmpty then Task.misused (say "missing operand") 2
  let (value, rest) ← (level (16 * (words.length + 2)) levels).run { words }
  match rest.words with
  | extra :: _ => wrong (say "unexpected argument " ++ cited extra)
  | [] =>
      Task.writeLine value
      if isNothing value then Task.leave 1

end Calculation

def printEnvironment (arguments : List Octets) : Task Unit := do
  let choice ← Task.choose (Form.of "0" [("null", "0")]) arguments
  let bindings := (← get).environment
  if choice.operands.isEmpty then
    bindings.forM fun (name, value) => Task.writeLine (name ++ '=' :: value)
  else choice.operands.forM fun name =>
    match bindings.lookup name with
    | some value => Task.writeLine value
    | none => Task.atLeast 1

def workingDirectory (_ : List Octets) : Task Unit := do
  Task.writeLine (say ("/" ++ String.intercalate "/" (← get).disk.here))

end GoldenSuite.Utility
