import GoldenSuite.Text.Search

/-!
Paths as they are written, and what they name. A path keeps its text; two paths name the same place
when their components are equal, so repeated slashes, inner dots and trailing slashes do not count,
while a dot in front does and a parent step is never resolved.
-/

set_option autoImplicit false

namespace GoldenSuite

structure Path where
  text : String
  deriving DecidableEq, Repr, Inhabited

namespace Path

inductive Component where
  | root
  | here
  | parent
  | name (text : String)
  deriving DecidableEq, Repr

def ofChars (text : List Char) : Path := ⟨String.ofList text⟩

def chars (path : Path) : List Char := path.text.toList

def isAbsolute (path : Path) : Bool := path.chars.head? == some '/'

def segments (path : Path) : List Char × List (List Char) :=
  Text.piecesFrom ['/'] 0 path.chars

def isIdle (segment : List Char) : Bool := segment.isEmpty || segment == ['.']

def innerComponent? (segment : List Char) : Option Component :=
  if isIdle segment then none
  else if segment = ['.', '.'] then some .parent
  else some (.name (String.ofList segment))

def leadComponent? (lead : List Char) (inner : List (List Char)) : Option Component :=
  if lead.isEmpty then (if inner.isEmpty then none else some .root)
  else if lead = ['.'] then some .here
  else innerComponent? lead

def components (path : Path) : List Component :=
  let (lead, inner) := path.segments
  (leadComponent? lead inner).toList ++ inner.filterMap innerComponent?

def same (left right : Path) : Bool := left.components == right.components

def Component.key : Component → List Nat
  | .root => [0]
  | .here => [1]
  | .parent => [2]
  | .name text => 3 :: text.toList.map Char.toNat

def key (path : Path) : List (List Nat) := path.components.map Component.key

def le (left right : Path) : Bool := !right.key.lex left.key List.lex

def sort (paths : List Path) : List Path := paths.mergeSort le

def startsWith (path base : Path) : Bool := base.components.isPrefixOf path.components

def dropIdleEnd (segments : List (List Char)) : List (List Char) :=
  (segments.reverse.dropWhile isIdle).reverse

def joinSegments (segments : List (List Char)) : List Char :=
  (segments.intersperse ['/']).flatten

def trimmed (lead : List Char) (inner : List (List Char)) : Path :=
  match lead, inner, dropIdleEnd inner with
  | [], _ :: _, [] => ofChars ['/']
  | lead, _, kept => ofChars (joinSegments (lead :: kept))

def passComponents : Nat → List (List Char) → List (List Char)
  | 0, segments => segments
  | _ + 1, [] => []
  | count + 1, segment :: rest =>
      if isIdle segment then passComponents (count + 1) rest else passComponents count rest

def below? (path base : Path) : Option Path :=
  if path.startsWith base then
    let (lead, inner) := path.segments
    match base.components.length with
    | 0 => some (trimmed lead inner)
    | passed + 1 =>
        let rest := dropIdleEnd ((passComponents passed inner).dropWhile isIdle)
        some (ofChars (joinSegments rest))
  else none

/-- The path of something below a base. An absolute path stays as it is. -/
def join (base path : Path) : Path :=
  if path.isAbsolute then path
  else if base.text.isEmpty || base.chars.getLast? == some '/' then ⟨base.text ++ path.text⟩
  else ⟨base.text ++ "/" ++ path.text⟩

def lastName? (path : Path) : Option (List (List Char) × List Char) :=
  let (lead, inner) := path.segments
  match (dropIdleEnd inner).reverse with
  | last :: before =>
      if last = ['.', '.'] then none else some (lead :: before.reverse, last)
  | [] => if lead.isEmpty || lead = ['.'] || lead = ['.', '.'] then none else some ([], lead)

def fileName? (path : Path) : Option String := path.lastName?.map fun found => String.ofList found.2

/-- The name up to its last dot, and what follows that dot. A dot in front starts no extension. -/
def splitExtension (name : List Char) : List Char × Option (List Char) :=
  let ending := (name.reverse.takeWhile (· != '.')).reverse
  let stem := name.take (name.length - (ending.length + 1))
  if stem.isEmpty then (name, none) else (stem, some ending)

def cutAfterStem (path : Path) : Path :=
  match path.lastName? with
  | none => path
  | some (before, name) => ofChars (joinSegments (before ++ [(splitExtension name).1]))

/-- The path without the extension of its file name and without slashes after it. The letters of
the extension go first, so `..x` leaves the parent step `..`, which has no extension to cut. -/
def base (path : Path) : Path :=
  match path.lastName? with
  | none => path
  | some (_, name) =>
      match (splitExtension name).2 with
      | none => path.cutAfterStem
      | some extension =>
          (ofChars (path.chars.take (path.chars.length - extension.length))).cutAfterStem

def withSuffix (path : Path) (ending : String) : Path := ⟨path.text ++ ending⟩

def withFileName (path : Path) (name : String) : Path :=
  match path.lastName? with
  | none => path.join ⟨name⟩
  | some (lead :: inner, _) => (trimmed lead (inner ++ [[]])).join ⟨name⟩
  | some ([], _) => ⟨name⟩

end Path

end GoldenSuite
