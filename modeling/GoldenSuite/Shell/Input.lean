import GoldenSuite.Shell.Flag
import GoldenSuite.Shell.Stream

set_option autoImplicit false

namespace GoldenSuite.Shell

open Text (Octets)
open Utility (say Marked)

structure InputLine where
  octets : Marked
  rest : Octets
  hasEnd : Bool

namespace InputLine

def after (octet : Bool × Char) (line : InputLine) : InputLine :=
  { line with octets := octet :: line.octets }

/-- The line at the front. After a backslash, a line goes on and other octets mean themselves, where
that is wanted. -/
def take (hasEscapes : Bool) : Octets → InputLine
  | [] => ⟨[], [], false⟩
  | '\n' :: rest => ⟨[], rest, true⟩
  | '\\' :: '\n' :: rest => if hasEscapes then take hasEscapes rest else ⟨[(false, '\\')], rest, true⟩
  | ['\\'] => ⟨if hasEscapes then [] else [(false, '\\')], [], false⟩
  | '\\' :: c :: rest =>
      if hasEscapes then (take hasEscapes rest).after (true, c)
      else (take hasEscapes (c :: rest)).after (false, '\\')
  | c :: rest => if c = '\x00' then take hasEscapes rest else (take hasEscapes rest).after (false, c)
termination_by rest => rest.length

def isBlank (c : Char) : Bool := c = ' ' || c = '\t' || c = '\n'

def isSeparator (separators : Octets) (octet : Bool × Char) : Bool :=
  !octet.1 && separators.contains octet.2

def isBlankSeparator (separators : Octets) (octet : Bool × Char) : Bool :=
  isSeparator separators octet && isBlank octet.2

def afterSeparator (separators : Octets) (octets : Marked) : Marked :=
  let isBlank := isBlankSeparator separators
  let octets := octets.dropWhile isBlank
  match octets with
  | octet :: rest => if isSeparator separators octet then rest.dropWhile isBlank else octets
  | [] => []

def lastField (separators : Octets) (octets : Marked) : Octets :=
  let isPart (octet : Bool × Char) : Bool := !isSeparator separators octet
  let field := octets.takeWhile isPart
  if (afterSeparator separators (octets.drop field.length)).isEmpty then field.map (·.2)
  else ((octets.reverse.dropWhile (isBlankSeparator separators)).reverse).map (·.2)

def share (separators : Octets) : List Octets → Marked → List (Octets × Octets)
  | [], _ => []
  | [name], octets => [(name, lastField separators octets)]
  | name :: names, octets =>
      let field := octets.takeWhile fun octet => !isSeparator separators octet
      let rest := afterSeparator separators (octets.drop field.length)
      (name, field.map (·.2)) :: share separators names rest

end InputLine

namespace Script

def readLine (arguments : List Octets) : Script Unit := do
  let (options, names) ← options "p:r" arguments
  if names.isEmpty then fail (say "arg count")
  let hasEscapes := !options.any (·.1 = "r")
  let line := InputLine.take hasEscapes (← input)
  leaveInput line.rest
  let separators := ((← settings).value? "IFS").getD " \t\n".toList
  let octets := line.octets.dropWhile (InputLine.isBlankSeparator separators)
  (InputLine.share separators names octets).forM fun (name, value) => assign name value
  setStatus (if line.hasEnd then 0 else 1)

structure OptionPlace where
  index : Nat
  rest : Octets

def OptionPlace.letter? (place : OptionPlace) (arguments : List Octets) :
    OptionPlace × Option Char :=
  match place.rest with
  | letter :: rest => ({ place with rest }, some letter)
  | [] =>
      match arguments[place.index - 1]? with
      | some ['-', '-'] => ({ place with index := place.index + 1 }, none)
      | some ('-' :: letter :: rest) => ({ index := place.index + 1, rest }, some letter)
      | _ => (place, none)

def nextOption (arguments : List Octets) : Script Unit := do
  match arguments with
  | form :: name :: own => do
      let settings ← settings
      let arguments := if own.isEmpty then settings.arguments else own
      let isOver := arguments.length + 1 < settings.optionIndex
      let index := if isOver then 1 else max settings.optionIndex 1
      let before := if index ≤ 1 then [] else arguments[index - 2]?.getD []
      let rest :=
        if isOver || settings.optionOffset = 0 then [] else before.drop settings.optionOffset
      let (place, letter?) := OptionPlace.letter? ⟨index, rest⟩ arguments
      let isQuiet := form.head? = some ':'
      let finish (index : Nat) (rest : Octets) (found : Char) : Script Unit := do
        let offset := if rest.isEmpty then 0 else
          (arguments[index - 2]?.getD []).length - rest.length
        assign (say "OPTIND") (Utility.decimal index)
        assign name [found]
        adjust fun settings => { settings with optionIndex := index, optionOffset := offset }
      let give (value : Octets) : Script Unit := assign (say "OPTARG") value
      let refuse (text : Octets) (letter : Char) : Script Unit := do
        if isQuiet then give [letter]
        else
          writeErr (text ++ ['\n'])
          unassign (say "OPTARG")
      setStatus 0
      match letter? with
      | none =>
          finish place.index [] '?'
          setStatus 1
      | some letter =>
          match (Utility.Form.lettersOf form).lookup letter, place.rest with
          | none, rest =>
              refuse (say "Illegal option -" ++ [letter]) letter
              finish place.index rest '?'
          | some .nothing, rest =>
              give []
              finish place.index rest letter
          | some _, [] =>
              match arguments[place.index - 1]? with
              | some value =>
                  give value
                  finish (place.index + 1) [] letter
              | none =>
                  refuse (say "No arg for -" ++ letter :: say " option") letter
                  finish place.index [] (if isQuiet then ':' else '?')
          | some _, value =>
              give value
              finish place.index [] letter
  | _ => fail (say "Usage: getopts optstring var [arg...]")

end Script

end GoldenSuite.Shell
