import GoldenSuite.Text.Octets

set_option autoImplicit false

namespace GoldenSuite.Shell

open Text (Octets)

structure Trim where
  atEnd : Bool
  longest : Bool
  deriving DecidableEq, Repr

inductive Opening where
  | read
  | write
  | force
  | append
  | both
  deriving DecidableEq, Repr

mutual

/-- A part of a word. What is quoted is neither split at blanks nor a pattern. -/
inductive Piece where
  | text (isQuoted : Bool) (text : Octets)
  | parameter (isQuoted : Bool) (name : Octets) (use : Use)
  | output (isQuoted : Bool) (body : Command)
  | arithmetic (isQuoted : Bool) (expression : List Piece)

/-- What is made of the value of a parameter. A value may count as missing when it is empty. -/
inductive Use where
  | value
  | length
  | fallback (orEmpty : Bool) (word : List Piece)
  | initial (orEmpty : Bool) (word : List Piece)
  | instead (orEmpty : Bool) (word : List Piece)
  | required (orEmpty : Bool) (word : List Piece)
  | trimmed (trim : Trim) (pattern : List Piece)
  | senseless

inductive Redirection where
  | file (stream : Nat) (opening : Opening) (target : List Piece)
  | copy (stream : Nat) (source : List Piece)
  | document (stream : Nat) (number : Nat)

inductive Command where
  | nothing
  | simple (line : Nat) (settings : List (Octets × List Piece)) (words : List (List Piece))
      (redirections : List Redirection)
  | redirected (line : Nat) (body : Command) (redirections : List Redirection)
  | sequence (first second : Command)
  | both (first second : Command)
  | either (first second : Command)
  | negated (body : Command)
  | piped (parts : List Command)
  | background (line : Nat) (body : Command) (redirections : List Redirection)
  | apart (line : Nat) (body : Command) (redirections : List Redirection)
  | conditional (test body otherwise : Command)
  | loop (untilSuccess : Bool) (test body : Command)
  | each (line : Nat) (name : Octets) (words : List (List Piece)) (body : Command)
  | choice (line : Nat) (word : List Piece) (branches : List (List (List Piece) × Command))
  | function (name : Octets) (body : Command)

end

abbrev Word := List Piece

instance : Inhabited Command := ⟨.nothing⟩

namespace Command

def isNothing : Command → Bool
  | nothing => true
  | _ => false

def behind : Command → Command
  | redirected line body redirections => .background line body redirections
  | body => .background 0 body []

end Command

end GoldenSuite.Shell
