import GoldenSuite.Text.Quoted
import GoldenSuite.Text.Search

set_option autoImplicit false

namespace GoldenSuite

structure VersionError where
  text : String
  deriving DecidableEq, Repr

def VersionError.message (error : VersionError) : String :=
  s!"invalid version pair {Text.quoted error.text}: expected +FROM-TO"

structure VersionPair where
  source : String
  target : String
  deriving DecidableEq, Repr

namespace VersionPair

def parse (text : String) : Except VersionError VersionPair :=
  let body := match text.toList with
    | '+' :: rest => rest
    | all => all
  match Text.pieces ['-'] body with
  | [source, target] => .ok ⟨String.ofList source, String.ofList target⟩
  | _ => .error ⟨text⟩

def toolName (base version : String) : String :=
  if version.isEmpty then base else base ++ "-" ++ version

def describe (version : String) : String := if version.isEmpty then "default" else version

end VersionPair

end GoldenSuite
