set_option autoImplicit false

namespace GoldenSuite.Text

def occurs (mark : List Char) : List Char → Bool
  | [] => mark.isEmpty
  | c :: rest => mark.isPrefixOf (c :: rest) || occurs mark rest

/-- The piece up to the first occurrence of a mark that is not empty, and the pieces after it.
The first argument counts the characters of an occurrence that are still to be passed over. -/
def piecesFrom (mark : List Char) : Nat → List Char → List Char × List (List Char)
  | _, [] => ([], [])
  | 0, c :: rest =>
      if mark.isPrefixOf (c :: rest) then
        let after := piecesFrom mark (mark.length - 1) rest
        ([], after.1 :: after.2)
      else
        let after := piecesFrom mark 0 rest
        (c :: after.1, after.2)
  | pending + 1, _ :: rest => piecesFrom mark pending rest

def pieces (mark text : List Char) : List (List Char) :=
  let found := piecesFrom mark 0 text
  found.1 :: found.2

/-- Every occurrence of a mark replaced. An empty mark occurs before every character and at the
end. -/
def replaceAll (mark replacement text : List Char) : List Char :=
  if mark.isEmpty then replacement ++ text.flatMap fun c => c :: replacement
  else (pieces mark text).intersperse replacement |>.flatten

def dropSuffix (ending text : List Char) : List Char :=
  if ending.isSuffixOf text then text.take (text.length - ending.length) else text

theorem occurs_iff {mark text : List Char} : occurs mark text = true ↔ mark <:+: text := by
  induction text with
  | nil => simp [occurs]
  | cons c rest ih => simp [occurs, ih, List.infix_cons_iff]

end GoldenSuite.Text
