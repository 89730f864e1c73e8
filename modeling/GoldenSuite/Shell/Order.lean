import GoldenSuite.Shell.Meaning
import GoldenSuite.Shell.Tilde

set_option autoImplicit false

namespace GoldenSuite.Shell

open Text (Octets)
open Utility (say)

structure Mode where
  isTested : Bool := false
  isLast : Bool := false
  deriving DecidableEq, Repr

namespace Mode

def test : Mode := { isTested := true }

def part (mode : Mode) : Mode := { mode with isLast := false }

end Mode

inductive Order where
  | nothing
  | builtin (isSpecial : Bool) (name : Octets) (arguments : List Octets)
  | function (body : Command) (arguments : List Octets)
  | program (isCommonPath : Bool) (name : Octets) (arguments : List Octets)

namespace Order

def plainCommand (isCommonPath : Bool) : List Octets → Option (List Octets × Bool)
  | ['-', '-'] :: rest => some (rest, isCommonPath)
  | ('-' :: c :: letters) :: rest =>
      if (c :: letters).all (· = 'p') then plainCommand true rest else none
  | rest => some (rest, isCommonPath)

def ofFields (settings : Settings) : Nat → Bool → Bool → List Octets → Order
  | 0, _, _, _ | _, _, _, [] => nothing
  | fuel + 1, isPlain, isCommonPath, name :: arguments =>
      if Meaning.isSpecial name then builtin (!isPlain) name arguments
      else match if isPlain then none else settings.functions.lookup name with
        | some body => function body arguments
        | none =>
            if name = say "command" then
              match plainCommand isCommonPath arguments with
              | some (first :: rest, isCommonPath) =>
                  ofFields settings fuel true isCommonPath (first :: rest)
              | _ => builtin false name arguments
            else if Meaning.isBuiltin name then builtin false name arguments
            else program isCommonPath name arguments

def of (settings : Settings) (fields : List Octets) : Order :=
  ofFields settings (fields.length + 1) false false fields

def declares (order : Order) : Bool :=
  match order with
  | builtin _ name _ =>
      ["alias", "export", "local", "readonly"].contains (String.ofList name)
  | _ => false

def keepsStreams (order : Order) : Bool :=
  match order with
  | builtin _ name [] => name = say "exec"
  | _ => false

def keepsSettings (order : Order) : Bool :=
  match order with
  | nothing | builtin true _ _ => true
  | _ => false

def showsSettings (order : Order) : Bool :=
  match order with
  | builtin true name (_ :: _) => name = say "exec"
  | _ => false

def isSpecial (order : Order) : Bool :=
  match order with
  | builtin true _ _ => true
  | _ => false

end Order

namespace Settings

def common (directory : Octets) : List (Octets × Binding) :=
  let plain (name value : String) : Octets × Binding :=
    (name.toList, { value := some value.toList })
  [plain "IFS" " \t\n", plain "OPTIND" "1", plain "PPID" "1", plain "PS1" "# ", plain "PS2" "> ",
    plain "PS4" "+ ", ("PATH".toList, { value := some Program.commonPath }),
    ("PWD".toList, { value := some directory, isExported := true })]

def ofEnvironment (environment : List (Octets × Octets)) : List (Octets × Binding) :=
  environment.filterMap fun (name, value) =>
    if !Script.isName name || [say "IFS", say "PPID", say "PWD"].contains name then none
    else some (name, { value := some value, isExported := true })

def start (before : Settings) (directory : Octets) (environment : List (Octets × Octets))
    (called : Octets) : Settings :=
  let brought := ofEnvironment environment
  let own := (common directory).filter fun entry => !brought.any (·.1 = entry.1)
  { title := called, bindings := own ++ brought, process := before.self, self := before.self
    streams := before.streams, traps := before.traps.filter (·.2.isEmpty), directory
    mask := before.mask }

end Settings

end GoldenSuite.Shell
