import GoldenSuite.Utility.Files
import GoldenSuite.Decimal.Numeral

set_option autoImplicit false

namespace GoldenSuite.Utility.Condition

open Text (Octets)

inductive Sign where
  | unary (letter : Char)
  | binary (operator : String)
  | negation
  | conjunction
  | disjunction
  | opening
  | closing
  deriving DecidableEq, Repr

def unaryLetters : List Char := "rwxefdcbpugkstznhOGLS".toList

def binaryOperators : List String :=
  ["=", "==", "!=", "<", ">", "-eq", "-ne", "-ge", "-gt", "-le", "-lt", "-nt", "-ot", "-ef"]

def sign? (word : Octets) : Option Sign :=
  match word with
  | ['!'] => some .negation
  | ['('] => some .opening
  | [')'] => some .closing
  | ['-', 'a'] => some .conjunction
  | ['-', 'o'] => some .disjunction
  | ['-', letter] => if unaryLetters.contains letter then some (.unary letter) else none
  | _ =>
      let operator := String.ofList word
      if binaryOperators.contains operator then some (.binary operator) else none

def isBinary (word : Octets) : Bool :=
  match sign? word with
  | some (.binary _) => true
  | _ => false

def signAt (words : List Octets) : Option Sign :=
  match words with
  | [] => none
  | word :: rest =>
      let isOperand := match rest with
        | [] => true
        | [_] => false
        | next :: _ => isBinary next
      match sign? word with
      | some (.unary letter) => if isOperand then none else some (.unary letter)
      | some .opening => if rest.isEmpty then none else some .opening
      | found => found

def integer (word : Octets) : Task Int := do
  let illegal : Task Int := Task.give (say "Illegal number: " ++ word) 2
  let (isNegative, body) := Numeral.signed word
  let digits := body.takeWhile Char.isDigit
  let value : Int := Numeral.valueOf 10 digits
  let value := if isNegative then -value else value
  if digits.isEmpty || !(body.drop digits.length).all Numeral.isSpace then illegal
  else if value < -(Int.pow 2 63) || Int.pow 2 63 ≤ value then illegal
  else return value

def holdsOf (letter : Char) (word : Octets) : Task Bool := do
  match letter with
  | 'n' => return !word.isEmpty
  | 'z' => return word.isEmpty
  | 't' =>
      let _ ← integer word
      return false
  | 'h' | 'L' =>
      match ← Files.entry word with
      | .ok (_, .link _) => return true
      | _ => return false
  | _ =>
      match (← get).disk.lookup (pathOf word) with
      | .error _ => return false
      | .ok (_, .directory) => return "edrwxOG".toList.contains letter
      | .ok (place, .file data mode) =>
          if place = Disk.nullDevice then return "ecrwOG".toList.contains letter
          return "efrwOG".toList.contains letter || (letter = 's' && data.size ≠ 0)
            || (letter = 'x' && mode &&& 0o111 ≠ 0)
      | .ok (_, .link _) => return false

def compared (left : Octets) (operator : String) (right : Octets) : Task Bool := do
  let numbers (holds : Int → Int → Bool) : Task Bool := do
    let first ← integer left
    let second ← integer right
    return holds first second
  let place? (name : Octets) : Task (Option Place) := do
    return ((← get).disk.lookup (pathOf name)).toOption.map (·.1)
  match operator with
  | "=" | "==" => return left = right
  | "!=" => return left ≠ right
  | "<" => return decide (left < right)
  | ">" => return decide (right < left)
  | "-eq" => numbers (· = ·)
  | "-ne" => numbers (· ≠ ·)
  | "-lt" => numbers (· < ·)
  | "-le" => numbers (· ≤ ·)
  | "-gt" => numbers (· > ·)
  | "-ge" => numbers (· ≥ ·)
  | "-ef" =>
      let first ← place? left
      return first.isSome && first = (← place? right)
  | "-nt" => return (← place? left).isSome && (← place? right).isNone
  | _ => return (← place? left).isNone && (← place? right).isSome

def wrong {α : Type} (text : Octets) : Task α := Task.give text 2

abbrev Reading := StateT (List Octets) Task

mutual

def alternatives : Nat → Reading Bool
  | 0 => return false
  | fuel + 1 => do
      let first ← conjunctions fuel
      let words ← get
      if signAt words.tail = some .disjunction then
        set (words.drop 2)
        return (← alternatives fuel) || first
      else return first

def conjunctions : Nat → Reading Bool
  | 0 => return false
  | fuel + 1 => do
      let first ← negations fuel
      let words ← get
      if signAt words.tail = some .conjunction then
        set (words.drop 2)
        return (← conjunctions fuel) && first
      else return first

def negations : Nat → Reading Bool
  | 0 => return false
  | fuel + 1 => do
      let words ← get
      if signAt words = some .negation then
        if words.tail.isEmpty then return true
        set words.tail
        return !(← negations fuel)
      else primary fuel

def primary : Nat → Reading Bool
  | 0 => return false
  | fuel + 1 => do
      let words ← get
      match signAt words, words with
      | _, [] => return false
      | some .opening, _ =>
          set words.tail
          if signAt words.tail = some .closing then return false
          let found ← alternatives fuel
          let rest ← get
          set rest.tail
          if signAt rest.tail = some .closing then return found
          else wrong (say "closing paren expected")
      | some (.unary letter), operator :: rest =>
          set rest
          match rest with
          | [] => wrong (operator ++ say ": argument expected")
          | word :: _ => holdsOf letter word
      | _, word :: rest =>
          match signAt rest, rest with
          | some (.binary operator), written :: after =>
              set after
              match after with
              | [] => wrong (written ++ say ": argument expected")
              | other :: _ => compared word operator other
          | _, _ => return !word.isEmpty

end

def verdict : Nat → Bool → List Octets → Task Bool
  | 0, isNegated, _ => return isNegated
  | fuel + 1, isNegated, words => do
      let full (words : List Octets) : Task Bool := do
        let (holds, rest) ← (alternatives (8 * (words.length + 2))).run words
        match rest with
        | word :: _ :: _ => wrong (word ++ say ": unexpected operator")
        | _ => return holds != isNegated
      match words with
      | [] => return isNegated
      | [left, operator, right] =>
          match sign? operator with
          | some (.binary operator) => return (← compared left operator right) != isNegated
          | _ =>
              if left = ['('] && right = [')'] then full [operator]
              else if left = ['!'] then verdict fuel (!isNegated) [operator, right]
              else full words
      | [first, second, third, last] =>
          if first = ['('] && last = [')'] then full [second, third]
          else if first = ['!'] then verdict fuel (!isNegated) [second, third, last]
          else full words
      | _ => full words

def task (arguments : List Octets) : Task Unit := do
  if !(← verdict (arguments.length + 1) false arguments) then Task.leave 1

def bracketTask (arguments : List Octets) : Task Unit :=
  if arguments.getLast? = some [']'] then task arguments.dropLast
  else Task.give (say "missing ]") 2

end GoldenSuite.Utility.Condition
