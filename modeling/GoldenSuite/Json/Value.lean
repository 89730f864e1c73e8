import GoldenSuite.Json.Tree

set_option autoImplicit false

namespace GoldenSuite.Json

inductive Value where
  | null
  | bool (value : Bool)
  | number (number : Number)
  | string (text : String)
  | array (items : List Value)
  | object (members : List (String × Value))
  deriving Repr, Inhabited

namespace Value

def hexDigit (n : Nat) : Char := (Nat.digitChar n)

def escape (c : Char) : List Char :=
  if c = '"' then ['\\', '"']
  else if c = '\\' then ['\\', '\\']
  else if c = '\n' then ['\\', 'n']
  else if c = '\r' then ['\\', 'r']
  else if c = '\t' then ['\\', 't']
  else if c = '\x08' then ['\\', 'b']
  else if c = '\x0c' then ['\\', 'f']
  else if c.toNat < 0x20 then
    ['\\', 'u', '0', '0', hexDigit (c.toNat / 16), hexDigit (c.toNat % 16)]
  else [c]

def quote (text : String) : String :=
  String.ofList ('"' :: text.toList.flatMap escape ++ ['"'])

mutual

def compact : Value → String
  | .null => "null"
  | .bool true => "true"
  | .bool false => "false"
  | .number n => n.text
  | .string text => quote text
  | .array items => "[" ++ String.intercalate "," (compactItems items) ++ "]"
  | .object members => "\x7b" ++ String.intercalate "," (compactMembers members) ++ "\x7d"

def compactItems : List Value → List String
  | [] => []
  | item :: items => compact item :: compactItems items

def compactMembers : List (String × Value) → List String
  | [] => []
  | (key, value) :: members => (quote key ++ ":" ++ compact value) :: compactMembers members

end

def indent (depth : Nat) : String := String.ofList (List.replicate (2 * depth) ' ')

def block (depth : Nat) (opening closing : String) (parts : List String) : String :=
  if parts.isEmpty then opening ++ closing
  else
    let lines := parts.map fun part => "\n" ++ indent (depth + 1) ++ part
    opening ++ String.intercalate "," lines ++ "\n" ++ indent depth ++ closing

mutual

def pretty (depth : Nat) : Value → String
  | .array items => block depth "[" "]" (prettyItems (depth + 1) items)
  | .object members => block depth "\x7b" "\x7d" (prettyMembers (depth + 1) members)
  | value => compact value

def prettyItems (depth : Nat) : List Value → List String
  | [] => []
  | item :: items => pretty depth item :: prettyItems depth items

def prettyMembers (depth : Nat) : List (String × Value) → List String
  | [] => []
  | (key, value) :: members =>
      (quote key ++ ": " ++ pretty depth value) :: prettyMembers depth members

end

def insertMember (key : String) (value : Value) :
    List (String × Value) → List (String × Value)
  | [] => [(key, value)]
  | (other, held) :: members =>
      if key = other then (key, value) :: members
      else if key < other then (key, value) :: (other, held) :: members
      else (other, held) :: insertMember key value members

def ofLeaf (leaf : Leaf) (rest : List Char) : Except Fault Value :=
  match leaf with
  | .null => .ok .null
  | .bool value => .ok (.bool value)
  | .number numeral =>
      match numeral.number? with
      | some n => .ok (.number n)
      | none => .error ⟨.outOfRange, rest⟩
  | .string text => .string <$> text

def ended (value : Value) : Option Fault → Except Fault Value
  | some fault => .error fault
  | none => .ok value

mutual

/-- The value of a tree. The members of an object are sorted, and of equal keys the last counts. -/
def ofTree : Tree → Except Fault Value
  | .leaf leaf _ rest => ofLeaf leaf rest
  | .array _ items fault => do ended (.array (← ofItems items)) fault
  | .object _ members fault => do ended (.object (← ofMembers [] members)) fault
  | .broken _ fault _ => .error fault

def ofItems : List Tree → Except Fault (List Value)
  | [] => .ok []
  | item :: items => do return (← ofTree item) :: (← ofItems items)

def ofMembers (done : List (String × Value)) :
    List (Key × Tree) → Except Fault (List (String × Value))
  | [] => .ok done
  | (key, tree) :: members => do
      let name ← key.text
      ofMembers (insertMember name (← ofTree tree) done) members

end

def read (text : String) : Except Fault Value := do
  let (tree, fault) := Tree.read text
  ended (← ofTree tree) fault

def field? (name : String) : Value → Option Value
  | .object members => members.lookup name
  | _ => none

end Value

end GoldenSuite.Json
