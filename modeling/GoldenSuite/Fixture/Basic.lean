import GoldenSuite.Text.Blank
import GoldenSuite.Text.Search

/-!
Golden fixtures: a source, the output expected for it, and optionally the symbols expected in the
object file, set apart by a delimiter of eight equals signs. Blanks are dropped only at the seams:
in front of the artifact and of the symbols, and, before a second delimiter, one line feed.
-/

set_option autoImplicit false

namespace GoldenSuite

inductive SectionError where
  | missing
  | extra (found : Nat)
  deriving DecidableEq, Repr

def SectionError.message : SectionError → String
  | .missing => "missing section: a fixture needs a source and an expected output"
  | .extra found => s!"extra section: found {found} sections, at most 3 are allowed"

structure Fixture where
  source : String
  -- The artifact expected of an accepted program, or the diagnostics of a rejected one.
  artifact : String
  -- Without a symbols section the symbols are not compared.
  symbols : Option String
  deriving DecidableEq, Repr

namespace Fixture

def delimiter : List Char := List.replicate 8 '='

def sections (text : List Char) : List (List Char) := Text.pieces delimiter text

def parse (text : String) : Except SectionError Fixture :=
  match sections text.toList with
  | [source, artifact] =>
      .ok ⟨String.ofList source, String.ofList (Text.trimStart artifact), none⟩
  | [source, artifact, symbols] =>
      .ok ⟨String.ofList source,
        String.ofList (Text.dropSuffix ['\n'] (Text.trimStart artifact)),
        some (String.ofList (Text.trimStart symbols))⟩
  | [] | [_] => .error .missing
  | several => .error (.extra several.length)

def renderChars (source artifact : List Char) (symbols : Option (List Char)) : List Char :=
  '\n' :: Text.trim source ++ ['\n', '\n'] ++ delimiter ++ ['\n', '\n'] ++ artifact
    ++ match symbols with
      | none => []
      | some listing => '\n' :: delimiter ++ ['\n', '\n'] ++ listing

/-- The text of a fixture. The source is trimmed and gets one blank line on either side. -/
def render (source artifact : String) (symbols : Option String) : String :=
  String.ofList (renderChars source.toList artifact.toList (symbols.map String.toList))

def serialize (fixture : Fixture) : String :=
  render fixture.source fixture.artifact fixture.symbols

@[simp] theorem toList_render (source artifact : String) (symbols : Option String) :
    (render source artifact symbols).toList =
      renderChars source.toList artifact.toList (symbols.map String.toList) := by
  simp [render]

end Fixture

end GoldenSuite
