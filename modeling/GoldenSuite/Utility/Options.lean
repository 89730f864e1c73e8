import GoldenSuite.Utility.Basic

set_option autoImplicit false

namespace GoldenSuite.Utility

open Text (Octets)

inductive Need where
  | nothing
  | value
  | attached
  deriving DecidableEq, Repr

structure Form where
  letters : List (Char × Need)
  names : List (Octets × String × Need) := []
  isOrdered : Bool := false
  status : Nat := 1

inductive OptionFault where
  | unknownLetter (letter : Char)
  | letterWithoutValue (letter : Char)
  | unknownName (written : Octets)
  | nameWithoutValue (name : Octets)
  | nameWithValue (name : Octets)
  | unclear (written : Octets) (names : List Octets)
  deriving DecidableEq, Repr

def OptionFault.message : OptionFault → Octets
  | .unknownLetter letter => say "invalid option -- '" ++ [letter, '\'']
  | .letterWithoutValue letter => say "option requires an argument -- '" ++ [letter, '\'']
  | .unknownName written => say "unrecognized option '--" ++ written ++ ['\'']
  | .nameWithoutValue name => say "option '--" ++ name ++ say "' requires an argument"
  | .nameWithValue name => say "option '--" ++ name ++ say "' doesn't allow an argument"
  | .unclear written names =>
      say "option '--" ++ written ++ say "' is ambiguous; possibilities:"
        ++ names.flatMap fun name => say " '--" ++ name ++ ['\'']

structure Choice where
  options : List (String × Octets) := []
  operands : List Octets := []

def Choice.after (options : List (String × Octets)) (choice : Choice) : Choice :=
  { choice with options := options ++ choice.options }

namespace Form

def needsOf (mark : Octets) : Need :=
  match mark with
  | ':' :: ':' :: _ => .attached
  | ':' :: _ => .value
  | _ => .nothing

def lettersOf : Octets → List (Char × Need)
  | [] => []
  | c :: rest => if c = ':' then lettersOf rest else (c, needsOf rest) :: lettersOf rest

/-- A form by its letters and names. One colon after a letter or a name asks for a value, two allow
one. A name goes with the key that it is asked for by. -/
def of (letters : String) (names : List (String × String) := []) : Form where
  letters := lettersOf letters.toList
  names := names.map fun (name, key) =>
    let bare := name.toList.takeWhile (· ≠ ':')
    (bare, key, needsOf (name.toList.drop bare.length))

def keyOf (letter : Char) : String := String.singleton letter

def readLetters (form : Form) : Octets → Except OptionFault (List (String × Octets) × Option Char)
  | [] => .ok ([], none)
  | letter :: rest =>
      match form.letters.lookup letter with
      | none => .error (.unknownLetter letter)
      | some .nothing => do
          let (options, last) ← readLetters form rest
          return ((keyOf letter, []) :: options, last)
      | some .attached => .ok ([(keyOf letter, rest)], none)
      | some .value =>
          if rest.isEmpty then .ok ([], some letter) else .ok ([(keyOf letter, rest)], none)

def nameOf (form : Form) (written : Octets) : Except OptionFault (Octets × String × Need) :=
  match form.names.find? fun name => name.1 = written with
  | some name => .ok name
  | none =>
      match form.names.filter fun name => written.isPrefixOf name.1 with
      | [] => .error (.unknownName written)
      | name :: others =>
          if others.all fun other => other.2 = name.2 then .ok name
          else .error (.unclear written ((name :: others).map (·.1)))

def readName (form : Form) (body : Octets) : Except OptionFault (String × Octets × Option Octets) := do
  let written := body.takeWhile (· ≠ '=')
  let (name, key, need) ← (form.nameOf written).mapError fun
    | .unknownName _ => .unknownName body
    | .unclear _ names => .unclear body names
    | fault => fault
  if written.length < body.length then
    if need = .nothing then throw (.nameWithValue name)
    return (key, body.drop (written.length + 1), none)
  return (key, [], if need = .value then some name else none)

def read (form : Form) : List Octets → Except OptionFault Choice
  | [] => .ok {}
  | ['-', '-'] :: rest => .ok { operands := rest }
  | ('-' :: '-' :: body) :: rest => do
      let (key, value, waiting) ← form.readName body
      match waiting, rest.head? with
      | none, _ => return Choice.after [(key, value)] (← read form rest)
      | some _, some value => return Choice.after [(key, value)] (← read form rest.tail)
      | some name, none => throw (.nameWithoutValue name)
  | ('-' :: letter :: letters) :: rest => do
      let (options, waiting) ← form.readLetters (letter :: letters)
      match waiting, rest.head? with
      | none, _ => return Choice.after options (← read form rest)
      | some letter, some value =>
          return Choice.after (options ++ [(keyOf letter, value)]) (← read form rest.tail)
      | some letter, none => throw (.letterWithoutValue letter)
  | operand :: rest =>
      if form.isOrdered then .ok { operands := operand :: rest }
      else do
        let choice ← read form rest
        return { choice with operands := operand :: choice.operands }
termination_by arguments => arguments.length

end Form

namespace Choice

def has (choice : Choice) (key : String) : Bool := choice.options.any (·.1 = key)

def last? (choice : Choice) (key : String) : Option Octets :=
  choice.options.reverse.lookup key

def values (choice : Choice) (key : String) : List Octets :=
  choice.options.filterMap fun option => if option.1 = key then some option.2 else none

def lastOf? (choice : Choice) (keys : List String) : Option String :=
  (choice.options.reverse.find? fun option => keys.contains option.1).map (·.1)

end Choice

def Task.choose (form : Form) (arguments : List Octets) : Task Choice := do
  match form.read arguments with
  | .ok choice => return choice
  | .error fault => misused fault.message form.status

end GoldenSuite.Utility
