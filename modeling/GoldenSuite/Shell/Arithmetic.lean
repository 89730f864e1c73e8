import GoldenSuite.Text.Octets

set_option autoImplicit false

namespace GoldenSuite.Shell

open Text (Octets)

namespace Arithmetic

inductive Fault where
  | divisionByZero
  | noOperand
  | surplus
  | noParenthesis
  | noColon
  | illegal (value : Octets)
  deriving DecidableEq, Repr

def Fault.message (expression : Octets) : Fault → Octets
  | .divisionByZero => quote "division by zero"
  | .noOperand => quote "expecting primary"
  | .surplus => quote "expecting EOF"
  | .noParenthesis => quote "expecting ')'"
  | .noColon => quote "expecting ':'"
  | .illegal value => "Illegal number: ".toList ++ value
where
  quote (text : String) : Octets :=
    "arithmetic expression: ".toList ++ text.toList ++ [':', ' ', '"'] ++ expression ++ ['"']

inductive Token where
  | number (value : Int)
  | name (name : Octets)
  | sign (symbol : String)
  | unknown
  deriving DecidableEq, Repr

def signs : List String :=
  ["<<=", ">>=", "<<", ">>", "<=", ">=", "==", "!=", "&&", "||", "+=", "-=", "*=", "/=", "%=", "&=",
    "^=", "|=", "=", "+", "-", "*", "/", "%", "<", ">", "!", "~", "&", "^", "|", "(", ")", "?", ":"]

def setters : List (String × Option String) :=
  [("=", none), ("+=", some "+"), ("-=", some "-"), ("*=", some "*"), ("/=", some "/"),
    ("%=", some "%"), ("&=", some "&"), ("^=", some "^"), ("|=", some "|"), ("<<=", some "<<"),
    (">>=", some ">>")]

def levels : List (List String) :=
  [["|"], ["^"], ["&"], ["==", "!="], ["<", "<=", ">", ">="], ["<<", ">>"], ["+", "-"],
    ["*", "/", "%"]]

def ofBool (holds : Bool) : Int := if holds then 1 else 0

def wrapped (value : Int) : Int := (BitVec.ofInt 64 value).toInt

def bits (operation : Nat → Nat → Nat) (left right : Int) : Int :=
  (BitVec.ofNat 64 (operation (BitVec.ofInt 64 left).toNat (BitVec.ofInt 64 right).toNat)).toInt

def apply (symbol : String) (left right : Int) : Except Fault Int :=
  match symbol with
  | "|" => .ok (bits (· ||| ·) left right)
  | "^" => .ok (bits (· ^^^ ·) left right)
  | "&" => .ok (bits (· &&& ·) left right)
  | "==" => .ok (ofBool (left = right))
  | "!=" => .ok (ofBool (left ≠ right))
  | "<" => .ok (ofBool (left < right))
  | "<=" => .ok (ofBool (left ≤ right))
  | ">" => .ok (ofBool (left > right))
  | ">=" => .ok (ofBool (left ≥ right))
  | "<<" => .ok (wrapped (left * Int.pow 2 (right.emod 64).toNat))
  | ">>" => .ok (left >>> (right.emod 64).toNat)
  | "+" => .ok (wrapped (left + right))
  | "-" => .ok (wrapped (left - right))
  | "*" => .ok (wrapped (left * right))
  | "/" => if right = 0 then .error .divisionByZero else .ok (wrapped (left.tdiv right))
  | _ => if right = 0 then .error .divisionByZero else .ok (left.tmod right)

def digit (c : Char) : Nat :=
  if c.isDigit then c.toNat - '0'.toNat
  else if c.isAlpha then c.toLower.toNat - 'a'.toNat + 10
  else 99

def greatest : Nat := Nat.pow 2 63 - 1

def literal (rest : Octets) : Nat × Octets :=
  let inBase (base : Nat) (rest : Octets) : Nat × Octets :=
    let digits := rest.takeWhile fun c => digit c < base
    (digits.foldl (fun value c => value * base + digit c) 0, rest.drop digits.length)
  match rest with
  | '0' :: x :: c :: _ =>
      if x.toLower = 'x' && digit c < 16 then inBase 16 (rest.drop 2) else inBase 8 rest
  | '0' :: _ => inBase 8 rest
  | _ => inBase 10 rest

def isBlank (c : Char) : Bool := " \t\n\x0b\x0c\x0d".toList.contains c

def integer? (value : Octets) : Option Int :=
  let rest := value.dropWhile isBlank
  let (isNegative, digits) := match rest with
    | '-' :: rest => (true, rest)
    | '+' :: rest => (false, rest)
    | rest => (false, rest)
  if !digits.head?.any Char.isDigit then if rest.isEmpty then some 0 else none
  else
    let (size, after) := literal digits
    let most := if isNegative then greatest + 1 else greatest
    if size ≤ most && after.all isBlank then some (if isNegative then -(size : Int) else size)
    else none

def startsName (c : Char) : Bool := c.isAlpha || c = '_'

def inName (c : Char) : Bool := c.isAlphanum || c = '_'

def tokens : Nat → Octets → List Token
  | 0, _ | _, [] => []
  | fuel + 1, c :: rest =>
      if c = ' ' || c = '\t' || c = '\n' then tokens fuel rest
      else if c.isDigit then
        let (size, rest) := literal (c :: rest)
        .number (min size greatest) :: tokens fuel rest
      else if startsName c then
        .name (c :: rest.takeWhile inName) :: tokens fuel (rest.dropWhile inName)
      else
        match signs.find? fun symbol => symbol.toList.isPrefixOf (c :: rest) with
        | none => [.unknown]
        | some symbol => .sign symbol :: tokens fuel ((c :: rest).drop symbol.length)

structure State where
  rest : List Token
  settings : List (Octets × Int) := []

abbrev Evaluation := StateT State (Except Fault)

def next? : Evaluation (Option Token) := do return (← get).rest.head?

def skip : Evaluation Unit := modify fun state => { state with rest := state.rest.tail }

def sign? (symbols : List String) : Evaluation (Option String) := do
  match ← next? with
  | some (.sign symbol) =>
      if symbols.contains symbol then
        skip
        return some symbol
      return none
  | _ => return none

variable (valueOf : Octets → Octets)

def lookup (name : Octets) : Evaluation Int := do
  match (← get).settings.lookup name with
  | some value => return value
  | none =>
      let value := valueOf name
      match integer? value with
      | some number => return number
      | none => throw (.illegal value)

def assign (name : Octets) (value : Int) : Evaluation Unit :=
  modify fun state => { state with settings := (name, value) :: state.settings }

mutual

/-- An expression that may set a name. It has an effect only if it counts. -/
def assignment : Nat → Bool → Evaluation Int
  | 0, _ => throw .noOperand
  | fuel + 1, counts => do
      match (← get).rest with
      | .name name :: .sign symbol :: rest =>
          match setters.lookup symbol with
          | none => conditional fuel counts
          | some operator =>
              modify fun state => { state with rest }
              let value ← assignment fuel counts
              if !counts then return value
              let value ← match operator with
                | none => pure value
                | some operator => do apply operator (← lookup valueOf name) value
              assign name value
              return value
      | _ => conditional fuel counts

def conditional : Nat → Bool → Evaluation Int
  | 0, _ => throw .noOperand
  | fuel + 1, counts => do
      let test ← alternative fuel counts
      if (← sign? ["?"]).isNone then return test
      let first ← assignment fuel (counts && test ≠ 0)
      if (← sign? [":"]).isNone then throw .noColon
      let second ← conditional fuel (counts && test = 0)
      return if test ≠ 0 then first else second

def alternative : Nat → Bool → Evaluation Int
  | 0, _ => throw .noOperand
  | fuel + 1, counts => do
      let first ← conjunction fuel counts
      if (← sign? ["||"]).isNone then return first
      let second ← alternative fuel (counts && first = 0)
      return ofBool (first ≠ 0 || second ≠ 0)

def conjunction : Nat → Bool → Evaluation Int
  | 0, _ => throw .noOperand
  | fuel + 1, counts => do
      let first ← level fuel counts levels
      if (← sign? ["&&"]).isNone then return first
      let second ← conjunction fuel (counts && first ≠ 0)
      return ofBool (first ≠ 0 && second ≠ 0)

def level : Nat → Bool → List (List String) → Evaluation Int
  | 0, _, _ => throw .noOperand
  | fuel + 1, counts, [] => operand fuel counts
  | fuel + 1, counts, symbols :: tighter => do
      levelAfter fuel counts symbols tighter (← level fuel counts tighter)

def levelAfter : Nat → Bool → List String → List (List String) → Int → Evaluation Int
  | 0, _, _, _, _ => throw .noOperand
  | fuel + 1, counts, symbols, tighter, left => do
      match ← sign? symbols with
      | none => return left
      | some symbol =>
          let right ← level fuel counts tighter
          let value ← if counts then apply symbol left right else pure right
          levelAfter fuel counts symbols tighter value

def operand : Nat → Bool → Evaluation Int
  | 0, _ => throw .noOperand
  | fuel + 1, counts => do
      let found ← next?
      skip
      match found with
      | some (.number value) => return value
      | some (.name name) => if counts then lookup valueOf name else return 0
      | some (.sign "(") =>
          let value ← assignment fuel counts
          if (← sign? [")"]).isNone then throw .noParenthesis
          return value
      | some (.sign "+") => operand fuel counts
      | some (.sign "-") => return wrapped (-(← operand fuel counts))
      | some (.sign "!") => return ofBool ((← operand fuel counts) = 0)
      | some (.sign "~") => return -(← operand fuel counts) - 1
      | _ => throw .noOperand

end

def evaluate (expression : Octets) : Except Fault (Int × List (Octets × Int)) := do
  let found := tokens expression.length expression
  let (value, state) ← (assignment valueOf (32 * (found.length + 1)) true).run ⟨found, []⟩
  if state.rest.isEmpty then return (value, state.settings.reverse) else throw .surplus

end Arithmetic

end GoldenSuite.Shell
