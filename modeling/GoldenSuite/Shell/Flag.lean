import GoldenSuite.Shell.Work

set_option autoImplicit false

namespace GoldenSuite.Shell

open Text (Octets)
open Utility (say)

namespace Script

def number (written : Octets) : Script Nat := do
  let value := Settings.number written
  if written.isEmpty || !written.all Char.isDigit || Nat.pow 2 31 ≤ value then
    fail (say "Illegal number: " ++ written)
  return value

def options (form : String) : List Octets → Script (List (String × Octets) × List Octets)
  | ['-', '-'] :: rest => return ([], rest)
  | ('-' :: letter :: letters) :: rest => do
      let known := Utility.Form.of form
      match known.readLetters (letter :: letters), rest with
      | .ok (found, none), rest => do
          let (others, operands) ← options form rest
          return (found ++ others, operands)
      | .ok (found, some letter), value :: rest => do
          let (others, operands) ← options form rest
          return (found ++ (Utility.Form.keyOf letter, value) :: others, operands)
      | .ok (_, some letter), [] | .error (.letterWithoutValue letter), _ =>
          fail (say "No arg for -" ++ letter :: say " option")
      | .error (.unknownLetter letter), _ => fail (say "Illegal option -" ++ [letter])
      | .error _, _ => fail (say "Illegal option --")
  | operands => return ([], operands)

def operands (arguments : List Octets) : Script (List Octets) := do
  return (← options "" arguments).2

end Script

namespace Flag

/-- The options of a shell by their names. Digits stand for those that have no letter. -/
def names : List (String × Char) :=
  [("errexit", 'e'), ("noglob", 'f'), ("ignoreeof", 'I'), ("interactive", 'i'), ("monitor", 'm'),
    ("noexec", 'n'), ("stdin", 's'), ("xtrace", 'x'), ("verbose", 'v'), ("vi", 'V'), ("emacs", 'E'),
    ("noclobber", 'C'), ("allexport", 'a'), ("notify", 'b'), ("nounset", 'u'), ("privileged", 'p'),
    ("nolog", '1'), ("debug", '2')]

def isLetter (letter : Char) : Bool :=
  !letter.isDigit && names.any fun name => name.2 = letter

def turn (letter : Char) (isOn : Bool) : Script Unit := do
  if letter = 'm' && isOn then
    Script.complain (say "can't access tty; job control turned off")
  else
    Script.adjust fun settings =>
      let others := settings.flags.filter (· ≠ letter)
      { settings with flags := if isOn then letter :: others else others }

def table (settings : Settings) (asList : Bool) : Octets :=
  let lines := names.map fun (name, letter) =>
    let isOn := settings.has letter
    if asList then
      say name ++ List.replicate (16 - name.length) ' '
        ++ say (if isOn then "on\n" else "off\n")
    else
      let sign := if isOn then "-o" else "+o"
      say s!"set {sign} {name}\n"
  (if asList then say "Current option settings\n" else []) ++ lines.flatten

def turnNamed (isOn : Bool) : Option Octets → Script Unit
  | none => do Script.answer (table (← Script.settings) isOn)
  | some name => do
      match names.lookup (String.ofList name) with
      | some letter => turn letter isOn
      | none => Script.fail (say "Illegal option -o " ++ name)

structure Reading where
  rest : List Octets
  replaces : Bool := false
  hasCommand : Bool := false

def turnAll (isStart isOn : Bool) : Octets → List Octets → Script (List Octets × Bool)
  | [], rest => return (rest, false)
  | letter :: letters, rest => do
      if letter = 'c' && isStart then
        let (rest, _) ← turnAll isStart isOn letters rest
        return (rest, true)
      else if letter = 'o' then
        turnNamed isOn rest.head?
        turnAll isStart isOn letters rest.tail
      else
        if !(isLetter letter || (letter = 'l' && isStart)) then
          Script.fail (say "Illegal option -" ++ [letter])
        turn letter isOn
        turnAll isStart isOn letters rest

def read (isStart : Bool) : Nat → List Octets → Script Reading
  | 0, rest => return { rest }
  | fuel + 1, arguments => do
      match arguments with
      | ['-'] :: rest =>
          if !isStart then
            turn 'x' false
            turn 'v' false
          return { rest }
      | ['-', '-'] :: rest => return { rest, replaces := true }
      | (sign :: letters) :: rest =>
          if sign = '-' || sign = '+' then
            let (rest, hasCommand) ← turnAll isStart (sign = '-') letters rest
            let reading ← read isStart fuel rest
            return { reading with hasCommand := reading.hasCommand || hasCommand }
          return { rest := arguments }
      | _ => return { rest := arguments }

end Flag

end GoldenSuite.Shell
