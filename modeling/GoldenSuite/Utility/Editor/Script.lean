import GoldenSuite.Utility.Basic
import GoldenSuite.Utility.Regular

set_option autoImplicit false

namespace GoldenSuite.Utility.Editor

open Text (Octets)

inductive Target where
  | regular (regular : Regular)
  | previous

inductive Mark where
  | line (number : Nat)
  | every (first step : Nat)
  | lastLine
  | found (target : Target)

inductive Bound where
  | mark (mark : Mark)
  | further (count : Nat)
  | multiple (of : Nat)

structure Choosing where
  first : Option Mark := none
  bound : Option Bound := none
  isInverse : Bool := false

inductive Casing where
  | upper
  | lower
  | plain
  | nextUpper
  | nextLower
  deriving DecidableEq, Repr

inductive Piece where
  | octet (c : Char)
  | group (index : Nat)
  | casing (casing : Casing)
  deriving DecidableEq, Repr

structure Substitution where
  target : Target
  pieces : List Piece
  number : Nat := 1
  isGlobal : Bool := false
  prints : Bool := false
  file : Option Octets := none

abbrev Label := Option Octets

inductive Deed where
  | nothing
  | opening
  | closing (first : Nat)
  | jump (label : Label)
  | jumpIf (isReplaced : Bool) (label : Label)
  | append (text : Octets)
  | insert (text : Octets)
  | change (text : Octets)
  | delete
  | deleteLine
  | fileName
  | get
  | getMore
  | hold
  | holdMore
  | swap
  | spell (width : Option Nat)
  | next
  | nextMore
  | print
  | printLine
  | number
  | quit (status : Nat)
  | leave (status : Nat)
  | readFile (name : Octets)
  | readLine (name : Octets)
  | substitute (substitution : Substitution)
  | translate (pairs : List (Char × Char))
  | write (name : Octets)
  | writeLine (name : Octets)
  | empty

structure Step where
  choosing : Choosing
  deed : Deed

structure Script where
  steps : Array Step := #[]
  labels : List (Octets × Nat) := []
  isSilent : Bool := false

def Script.blocks (script : Script) : List (Nat × Nat) :=
  script.steps.toList.zipIdx.filterMap fun (step, index) =>
    match step.deed with
    | .closing first => some (first, index)
    | _ => none

def Script.files (script : Script) : List Octets :=
  script.steps.toList.filterMap fun step =>
    match step.deed with
    | .write name | .writeLine name => some name
    | .substitute substitution => substitution.file
    | _ => none

def Script.jumps (script : Script) : List Octets :=
  script.steps.toList.filterMap fun step =>
    match step.deed with
    | .jump label | .jumpIf _ label => label
    | _ => none

inductive Slip where
  | unknownCommand (c : Char)
  | missingCommand
  | openSubstitution
  | openTranslation
  | openPattern
  | openBlock
  | extraClosing
  | markedClosing
  | trailingText
  | extraComma
  | extraNegation
  | markedComment
  | markedLabel
  | emptyLabel
  | missingText
  | missingFile
  | secondMark
  | lineZero
  | boundFirst
  | unknownFlag
  | repeatedPrint
  | repeatedGlobal
  | repeatedNumber
  | numberZero
  | flagsOfNothing
  | noPrevious
  | unknownGroup (index : Nat)
  | unequalLengths
  | nestedEscape
  | newerVersion
  | badPattern (fault : RegularFault)
  deriving DecidableEq, Repr

def Slip.message : Slip → Octets
  | .unknownCommand c => say "unknown command: `" ++ [c, '\'']
  | .missingCommand => say "missing command"
  | .openSubstitution => say "unterminated `s' command"
  | .openTranslation => say "unterminated `y' command"
  | .openPattern => say "unterminated address regex"
  | .openBlock => say "unmatched `\x7b'"
  | .extraClosing => say "unexpected `\x7d'"
  | .markedClosing => say "\x7d doesn't want any addresses"
  | .trailingText => say "extra characters after command"
  | .extraComma => say "unexpected `,'"
  | .extraNegation => say "multiple `!'s"
  | .markedComment => say "comments don't accept any addresses"
  | .markedLabel => say ": doesn't want any addresses"
  | .emptyLabel => say "\":\" lacks a label"
  | .missingText => say "expected \\ after `a', `c' or `i'"
  | .missingFile => say "missing filename in r/R/w/W commands"
  | .secondMark => say "command only uses one address"
  | .lineZero => say "invalid usage of line address 0"
  | .boundFirst => say "invalid usage of +N or ~N as first address"
  | .unknownFlag => say "unknown option to `s'"
  | .repeatedPrint => say "multiple `p' options to `s' command"
  | .repeatedGlobal => say "multiple `g' options to `s' command"
  | .repeatedNumber => say "multiple number options to `s' command"
  | .numberZero => say "number option to `s' command may not be zero"
  | .flagsOfNothing => say "cannot specify modifiers on empty regexp"
  | .noPrevious => say "no previous regular expression"
  | .unknownGroup index =>
      say "invalid reference \\" ++ decimal index ++ say " on `s' command's RHS"
  | .unequalLengths => say "strings for `y' command are different lengths"
  | .nestedEscape => say "recursive escaping after \\c not allowed"
  | .newerVersion => say "expected newer version of sed"
  | .badPattern fault => say fault.message

end GoldenSuite.Utility.Editor
