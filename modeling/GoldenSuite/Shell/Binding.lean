import GoldenSuite.Shell.Machine

set_option autoImplicit false

namespace GoldenSuite.Shell

open Text (Octets)
open Utility (say)

namespace Settings

def binding? (settings : Settings) (name : Octets) : Option Binding :=
  settings.bindings.lookup name

def value? (settings : Settings) (name : String) : Option Octets :=
  (settings.binding? name.toList).bind (·.value)

def has (settings : Settings) (flag : Char) : Bool := settings.flags.contains flag

def withBinding (settings : Settings) (name : Octets) (binding : Binding) : Settings :=
  let known := settings.bindings.any (·.1 = name)
  { settings with
    bindings :=
      if known then settings.bindings.map fun held => if held.1 = name then (name, binding) else held
      else settings.bindings ++ [(name, binding)] }

def withoutBinding (settings : Settings) (name : Octets) : Settings :=
  { settings with bindings := settings.bindings.filter (·.1 ≠ name) }

def drawer (count : Nat) (name : Octets) : Nat :=
  (name.foldl (fun sum c => sum + c.toNat) (16 * (name.head?.map Char.toNat).getD 0)) % count

def inDrawers {α : Type} (count : Nat) (entries : List (Octets × α)) : List (Octets × α) :=
  entries.mergeSort fun left right => decide (drawer count left.1 ≤ drawer count right.1)

def environment (settings : Settings) : List (Octets × Octets) :=
  let seen := settings.bindings.filterMap fun (name, binding) =>
    match binding.value with
    | some value => if binding.isExported then some (name, value) else none
    | none => none
  inDrawers 39 seen

def flagOrder : List Char := "pubaCEVvxsnmiIfe".toList

def number (digits : Octets) : Nat := digits.foldl (fun value c => value * 10 + (c.toNat - 48)) 0

def joint (settings : Settings) : Octets :=
  match settings.value? "IFS" with
  | none => [' ']
  | some separators => separators.take 1

def joinedArguments (settings : Settings) : Octets :=
  (settings.arguments.intersperse settings.joint).flatten

def parameter? (settings : Settings) (name : Octets) : Option Octets :=
  match name with
  | ['@'] | ['*'] => some settings.joinedArguments
  | ['#'] => some (Utility.decimal settings.arguments.length)
  | ['?'] => some (Utility.decimal settings.status)
  | ['$'] => some (Utility.decimal settings.process)
  | ['!'] => settings.latest.map Utility.decimal
  | ['-'] => some (flagOrder.filter settings.has)
  | c :: _ =>
      if c.isDigit then
        match number name with
        | 0 => some settings.title
        | index + 1 => settings.arguments[index]?
      else (settings.binding? name).bind (·.value)
  | [] => none

end Settings

namespace Script

def isName (octets : Octets) : Bool :=
  octets.head?.any (fun c => c.isAlpha || c = '_') && octets.all fun c => c.isAlphanum || c = '_'

def assign (name value : Octets) : Script Unit := do
  if !isName name then fail (name ++ say ": bad variable name")
  let settings ← settings
  let old := (settings.binding? name).getD {}
  if old.isReadOnly then fail (name ++ say ": is read only")
  let isExported := old.isExported || settings.has 'a'
  adjust fun settings =>
    let settings := settings.withBinding name { old with value := some value, isExported }
    if name = say "OPTIND" then
      { settings with optionIndex := Settings.number value, optionOffset := 0 }
    else if name = say "PATH" then { settings with tracked := [] }
    else settings

def unassign (name : Octets) : Script Unit := do
  if !isName name then fail (name ++ say ": bad variable name")
  if ((← settings).binding? name).any (·.isReadOnly) then fail (name ++ say ": is read only")
  adjust (·.withoutBinding name)

def makeLocal (name : Octets) : Script Unit :=
  adjust fun settings =>
    let meaning := if name = ['-'] then some { value := some settings.flags } else
      settings.binding? name
    match settings.scopes with
    | scope :: scopes =>
        if scope.any (·.1 = name) then settings
        else { settings with scopes := ((name, meaning) :: scope) :: scopes }
    | [] => settings

def withMeaning (settings : Settings) (name : Octets) (meaning : Option Binding) : Settings :=
  match meaning with
  | some binding =>
      if name = ['-'] then { settings with flags := binding.value.getD [] }
      else settings.withBinding name binding
  | none => settings.withoutBinding name

def closeScope : Script Unit :=
  adjust fun settings =>
    match settings.scopes with
    | scope :: scopes =>
        scope.foldl (fun settings (name, meaning) => withMeaning settings name meaning)
          { settings with scopes }
    | [] => settings

def inScope {α : Type} (body : Script α) : Script α := do
  adjust fun settings => { settings with scopes := [] :: settings.scopes }
  let result ← settle body
  closeScope
  resume result

end Script

end GoldenSuite.Shell
