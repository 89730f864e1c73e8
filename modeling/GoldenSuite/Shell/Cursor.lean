import GoldenSuite.Shell.Syntax

set_option autoImplicit false

namespace GoldenSuite.Shell

open Text (Octets)

inductive Token where
  | finish
  | newline
  | sign (symbol : String)
  | keyword (name : String)
  | redirection (toWord : Word → Redirection)
  | document (stream : Nat) (isTrimmed : Bool)
  | word (word : Word)

namespace Token

def name : Token → String
  | finish => "end of file"
  | newline => "newline"
  | sign symbol | keyword symbol => "\"" ++ symbol ++ "\""
  | redirection _ | document .. => "redirection"
  | word _ => "word"

def isSign (token : Token) (symbol : String) : Bool :=
  match token with
  | sign found => found = symbol
  | _ => false

def isKeyword (token : Token) (wanted : String) : Bool :=
  match token with
  | keyword found => found = wanted
  | _ => false

def endsList : Token → Bool
  | finish => true
  | sign symbol => [")", ";;"].contains symbol
  | keyword symbol =>
      ["do", "done", "elif", "else", "esac", "fi", "then", "\x7d"].contains symbol
  | _ => false

end Token

inductive SyntaxFault where
  | unexpected (found : String) (wanted : Option String)
  | openQuote
  | openBackquote
  | openBrace
  | openArithmetic
  | badLoopName
  | badFunctionName
  | badStream
  | tooDeep
  deriving DecidableEq, Repr

def SyntaxFault.message : SyntaxFault → String
  | .unexpected found none => found ++ " unexpected"
  | .unexpected found (some wanted) => found ++ " unexpected (expecting " ++ wanted ++ ")"
  | .openQuote => "Unterminated quoted string"
  | .openBackquote => "EOF in backquote substitution"
  | .openBrace => "Missing '\x7d'"
  | .openArithmetic => "Missing '))'"
  | .badLoopName => "Bad for loop variable"
  | .badFunctionName => "Bad function name"
  | .badStream => "Bad fd number"
  | .tooDeep => "too deep"

structure Pending where
  number : Nat
  mark : Octets
  isTrimmed : Bool
  isExpanded : Bool

structure Cursor where
  rest : Octets
  line : Nat := 1
  aliases : List (Octets × Octets) := []
  replaced : List (Octets × Nat × Bool) := []
  isReplaceable : Bool := false
  returned : Option Token := none
  pending : List Pending := []
  documents : Array Word := #[]

abbrev Reading := StateT Cursor (Except (Nat × SyntaxFault))

namespace Reading

def fail {α : Type} (fault : SyntaxFault) : Reading α := do throw ((← get).line, fault)

/-- Leaves the names whose texts are read to their end. A text stays in use until something after it
is taken. -/
def settle (cursor : Cursor) : Cursor :=
  match cursor.replaced with
  | [] => cursor
  | replaced =>
      let left := cursor.rest.length
      let isRead (entry : Octets × Nat × Bool) : Bool := left ≤ entry.2.1
      { cursor with
        replaced := (replaced.filter fun entry => entry.2.1 ≤ left).map fun entry =>
          (entry.1, entry.2.1, entry.2.2 && !isRead entry)
        isReplaceable := cursor.isReplaceable
          || replaced.any fun entry => isRead entry && entry.2.2 }

def take : Reading (Option Char) := fun cursor =>
  match cursor.rest with
  | [] => .ok (none, settle cursor)
  | c :: rest =>
      .ok (some c,
        settle { cursor with rest, line := if c = '\n' then cursor.line + 1 else cursor.line })

def afterJoins : Octets → Octets × Nat
  | '\\' :: '\n' :: rest =>
      let (rest, count) := afterJoins rest
      (rest, count + 1)
  | rest => (rest, 0)

def join : Reading Unit := modify fun cursor =>
  let (rest, count) := afterJoins cursor.rest
  { cursor with rest, line := cursor.line + count }

def peek : Reading (Option Char) := do
  join
  return (← get).rest.head?

def next : Reading (Option Char) := do
  join
  take

def drop : Reading Unit := do let _ ← next

def mark? (c : Char) : Reading Bool := do
  if (← peek) = some c then
    drop
    return true
  return false

def many (kind : Char → Bool) : Nat → Reading Octets
  | 0 => return []
  | fuel + 1 => do
      match ← peek with
      | some c =>
          if kind c then
            drop
            return c :: (← many kind fuel)
          return []
      | none => return []

def manyOf (kind : Char → Bool) : Reading Octets := do many kind (← get).rest.length

def unread (token : Token) : Reading Unit :=
  modify fun cursor => { cursor with returned := some token }

def replace (name text : Octets) : Reading Unit := modify fun cursor =>
  let entry := (name, cursor.rest.length, text.getLast?.any fun c => c = ' ' || c = '\t')
  { cursor with rest := text ++ cursor.rest, replaced := entry :: cursor.replaced }

def startsName (c : Char) : Bool := c.isAlpha || c = '_'

def inName (c : Char) : Bool := c.isAlphanum || c = '_'

def isName (octets : Octets) : Bool := octets.head?.any startsName && octets.all inName

def isSpecial (c : Char) : Bool := c.isDigit || "!#$*-?@".toList.contains c

end Reading

end GoldenSuite.Shell
