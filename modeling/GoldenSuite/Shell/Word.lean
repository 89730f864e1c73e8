import GoldenSuite.Shell.Cursor
import GoldenSuite.Text.Lines

set_option autoImplicit false

namespace GoldenSuite.Shell

open Text (Octets)

namespace Reading

def openingBrace : String := "\x7b"

def closingBrace : String := "\x7d"

def keywords : List String :=
  ["!", "case", "do", "done", "elif", "else", "esac", "fi", "for", "if", "in", "then", "until",
    "while", openingBrace, closingBrace]

def specialBuiltins : List String :=
  [".", ":", "break", "continue", "eval", "exec", "exit", "export", "local", "readonly", "return",
    "set", "shift", "times", "trap", "unset"]

def endsWord (c : Char) : Bool := " \t\n;&|<>()".toList.contains c

inductive Place where
  | plain
  | quoted
  | document
  | arithmetic
  deriving DecidableEq, Repr

def Place.isQuoted (place : Place) : Bool := place ≠ .plain

def consPiece (piece : Piece) (word : Word) : Word :=
  match piece, word with
  | .text isQuoted first, .text alsoQuoted second :: rest =>
      if isQuoted = alsoQuoted then .text isQuoted (first ++ second) :: rest else piece :: word
  | _, _ => piece :: word

def joined (word : Word) : Word := word.foldr consPiece []

def bareText? : Word → Option Octets
  | [.text false text] => some text
  | _ => none

def setting? : Word → Option (Octets × Word)
  | .text false text :: rest =>
      let name := text.takeWhile (· ≠ '=')
      if isName name && name.length < text.length then
        let value := text.drop (name.length + 1)
        some (name, if value.isEmpty then rest else .text false value :: rest)
      else none
  | _ => none

def plainRun (isPlain : Char → Bool) : Reading Octets := do
  join
  modifyGet fun cursor =>
    let run := cursor.rest.takeWhile isPlain
    (run, settle { cursor with
      rest := cursor.rest.drop run.length, line := cursor.line + run.count '\n' })

def skipBlanks : Nat → Reading Unit
  | 0 => return
  | fuel + 1 => do
      match ← peek with
      | some ' ' | some '\t' =>
          drop
          skipBlanks fuel
      | some '#' => modify fun cursor => { cursor with rest := cursor.rest.dropWhile (· ≠ '\n') }
      | _ => return

def isEscapable (place : Place) (isBraced : Bool) (c : Char) : Bool :=
  c = '\\' || c = '`' || c = '$' || (c = '"' && (place ≠ .document || isBraced))
    || (c = '}' && isBraced)

def afterBackslash (place : Place) (isBraced : Bool) : Reading Piece := do
  match ← take with
  | none => return .text true ['\\']
  | some c =>
      if place.isQuoted && !isEscapable place isBraced c then return .text true ['\\', c]
      return .text true [c]

def singleQuoted : Reading Octets := do
  let cursor ← get
  let body := cursor.rest.takeWhile (· ≠ '\'')
  let line := cursor.line + body.count '\n'
  match cursor.rest.drop body.length with
  | [] =>
      set { cursor with line, rest := [] }
      fail .openQuote
  | _ :: rest =>
      set (settle { cursor with line, rest })
      return body

/-- A text up to its closing backquote. A backslash before a backquote, a dollar sign or another
backslash goes. -/
def backquoted (isQuoted : Bool) : Nat → Reading Octets
  | 0 => fail .tooDeep
  | fuel + 1 => do
      match ← next with
      | none => fail .openBackquote
      | some '`' => return []
      | some '\\' =>
          match ← take with
          | none => fail .openBackquote
          | some c =>
              let isEscaped := ['\\', '`', '$'].contains c || (isQuoted && c = '"')
              let rest ← backquoted isQuoted fuel
              return if isEscaped then c :: rest else '\\' :: c :: rest
      | some c => return c :: (← backquoted isQuoted fuel)

def documentMark : Nat → Bool → Reading (Octets × Bool)
  | 0, _ => fail .tooDeep
  | fuel + 1, isQuoted => do
      match ← peek with
      | none => if isQuoted then fail .openQuote else return ([], false)
      | some c =>
          if !isQuoted && endsWord c then return ([], false)
          drop
          let after (text : Octets) (counts inQuotes : Bool) : Reading (Octets × Bool) := do
            let (rest, wasQuoted) ← documentMark fuel inQuotes
            return (text ++ rest, counts || wasQuoted)
          if c = '"' then after [] true !isQuoted
          else if c = '\\' then
            match ← afterBackslash (if isQuoted then .quoted else .plain) false with
            | .text _ text => after text true isQuoted
            | _ => after [] true isQuoted
          else if c = '\'' && !isQuoted then after (← singleQuoted) true false
          else after [c] false isQuoted

def bracedName : Reading (Option Octets × Bool) := do
  match ← peek with
  | none => return (none, false)
  | some c =>
      if startsName c then return (some (← manyOf inName), false)
      else if c.isDigit then return (some (← manyOf Char.isDigit), false)
      else if c = '}' then return (none, false)
      else
        drop
        if c = '#' then
          match ← peek with
          | some d =>
              if startsName d then return (some (← manyOf inName), true)
              else if d.isDigit then return (some (← manyOf Char.isDigit), true)
              else if d ≠ '}' then
                let saved ← get
                drop
                if (← peek) = some '}' && isSpecial d then return (some [d], true)
                set saved
          | none => pure ()
        if isSpecial c then return (some [c], false)
        return (none, false)

/-- What a parameter is used for, up to the word that belongs to it. The word of a pattern is read as
if it stood outside of quotes. -/
def useMark : Reading (Option ((Word → Use) × Bool)) := do
  let marks (orEmpty : Bool) : Char → Option (Word → Use)
    | '-' => some (.fallback orEmpty)
    | '=' => some (.initial orEmpty)
    | '+' => some (.instead orEmpty)
    | '?' => some (.required orEmpty)
    | _ => none
  match ← peek with
  | some ':' =>
      drop
      let c ← next
      match c with
      | some '}' => return some (fun _ => .value, false)
      | some c => return (marks true c).map (·, false)
      | none => return none
  | some '%' =>
      drop
      let longest ← mark? '%'
      return some (.trimmed ⟨true, longest⟩, true)
  | some '#' =>
      drop
      let longest ← mark? '#'
      return some (.trimmed ⟨false, longest⟩, true)
  | some c =>
      match marks false c with
      | some use =>
          drop
          return some (use, false)
      | none =>
          if c ≠ '}' then drop
          return none
  | none => return none

def isPlain (place : Place) (isBraced : Bool) (c : Char) : Bool :=
  c ≠ '\\' && c ≠ '$' && c ≠ '`' && (c ≠ '}' || !isBraced) &&
    match place with
    | .plain => c ≠ '\'' && c ≠ '"' && (isBraced || !endsWord c)
    | .quoted => c ≠ '"'
    | .document => c ≠ '"' || !isBraced
    | .arithmetic => c ≠ '"' && c ≠ '(' && c ≠ ')'

def endFault? (place : Place) (isBraced : Bool) : Option SyntaxFault :=
  match place with
  | .quoted => some .openQuote
  | .arithmetic => some .openArithmetic
  | .plain | .document => if isBraced then some .openBrace else none

def documentLines (pending : Pending) : List Octets → Octets × List Octets
  | [] => ([], [])
  | line :: rest =>
      let line := if pending.isTrimmed then line.dropWhile (· = '\t') else line
      if line = pending.mark || line = pending.mark ++ ['\n'] then ([], rest)
      else
        let (text, rest) := documentLines pending rest
        (line ++ text, rest)

def documentText (pending : Pending) : Reading Octets := modifyGet fun cursor =>
  let (text, rest) := documentLines pending (Text.linesWithEnds cursor.rest)
  let rest := rest.flatten
  (text, settle { cursor with rest, line := cursor.line + cursor.rest.count '\n' - rest.count '\n' })

def setDocument (number : Nat) (word : Word) : Reading Unit :=
  modify fun cursor => { cursor with documents := cursor.documents.set! number word }

def announce (mark : Octets) (isTrimmed isExpanded : Bool) : Reading Nat :=
  modifyGet fun cursor =>
    let number := cursor.documents.size
    (number, { cursor with
      documents := cursor.documents.push []
      pending := cursor.pending ++ [⟨number, mark, isTrimmed, isExpanded⟩] })

def sign? (c : Char) : Reading (Option Token) := do
  let orTwice (once twice : String) : Reading (Option Token) := do
    drop
    return some (.sign (if ← mark? c then twice else once))
  match c with
  | '\n' =>
      drop
      return some .newline
  | '&' => orTwice "&" "&&"
  | '|' => orTwice "|" "||"
  | ';' => orTwice ";" ";;"
  | '(' | ')' =>
      drop
      return some (.sign (String.singleton c))
  | _ => return none

def redirectionOf (stream? : Option Nat) : Reading Token := do
  let file (stream : Nat) (opening : Opening) : Token :=
    .redirection (.file (stream?.getD stream) opening)
  let copy (stream : Nat) : Token := .redirection (.copy (stream?.getD stream))
  if ← mark? '>' then
    if ← mark? '>' then return file 1 .append
    else if ← mark? '|' then return file 1 .force
    else if ← mark? '&' then return copy 1
    else return file 1 .write
  drop
  if ← mark? '<' then return .document (stream?.getD 0) (← mark? '-')
  else if ← mark? '&' then return copy 0
  else if ← mark? '>' then return file 0 .both
  else return file 0 .read

def streamOf? : Word → Option (Option Nat)
  | [] => some none
  | [.text false [c]] => if c.isDigit then some (some (c.toNat - '0'.toNat)) else none
  | _ => none

def quotedWord (body : Word) : Word :=
  match body with
  | [.parameter true ['@'] .value] => body
  | _ => consPiece (.text true []) body

def allArguments : Word := [.parameter true ['@'] .value]

end Reading

end GoldenSuite.Shell
