import GoldenSuite.Text.Octets

set_option autoImplicit false

namespace GoldenSuite.Utility

open Text (Octets)

def classOf? (name : String) : Option (Char → Bool) :=
  let isGraphic (c : Char) : Bool := '!' ≤ c && c ≤ '~'
  match name with
  | "alpha" => some Char.isAlpha
  | "digit" => some Char.isDigit
  | "alnum" => some Char.isAlphanum
  | "upper" => some Char.isUpper
  | "lower" => some Char.isLower
  | "space" => some "\t\n\x0b\x0c\x0d ".toList.contains
  | "blank" => some fun c => c = ' ' || c = '\t'
  | "punct" => some fun c => isGraphic c && !c.isAlphanum
  | "print" => some fun c => isGraphic c || c = ' '
  | "graph" => some isGraphic
  | "cntrl" => some fun c => c.toNat < 32 || c.toNat = 127
  | "xdigit" => some fun c => c.isDigit || ('a' ≤ c.toLower && c.toLower ≤ 'f')
  | _ => none

inductive Edge where
  | textStart
  | textEnd
  | lineStart
  | lineEnd
  | wordStart
  | wordEnd
  | wordEdge
  | insideWord
  deriving DecidableEq, Repr

inductive Regular where
  | nothing
  | octet (c : Char)
  | oneOf (holds : Char → Bool)
  | edge (kind : Edge)
  | group (index : Nat) (body : Regular)
  | again (index : Nat)
  | chain (first second : Regular)
  | either (first second : Regular)
  | times (least : Nat) (most : Option Nat) (body : Regular)

namespace Regular

structure Spot where
  position : Nat
  groups : List (Nat × Nat × Nat) := []
  deriving DecidableEq, Repr

def inWord (c : Char) : Bool := c.isAlphanum || c = '_'

def holdsAt (text : Array Char) (position : Nat) : Edge → Bool
  | .textStart => position = 0
  | .textEnd => position = text.size
  | .lineStart => position = 0 || text[position - 1]? = some '\n'
  | .lineEnd => position = text.size || text[position]? = some '\n'
  | .wordStart => !before && after
  | .wordEnd => before && !after
  | .wordEdge => before != after
  | .insideWord => before == after
where
  before : Bool := 0 < position && (text[position - 1]?).any inWord
  after : Bool := (text[position]?).any inWord

def test? : Regular → Option (Char → Bool)
  | .octet c => some (· == c)
  | .oneOf holds => some holds
  | _ => none

def countFrom (text : Array Char) (holds : Char → Bool) : Nat → Nat → Nat
  | 0, _ => 0
  | limit + 1, position =>
      if (text[position]?).any holds then countFrom text holds limit (position + 1) + 1 else 0

def rounds (step : Spot → List Spot) (least : Nat) :
    Nat → Nat → List Spot → List Spot → List Spot
  | 0, _, _, found => found
  | fuel + 1, round, spots, found =>
      let found := if least ≤ round then spots ++ found else found
      let next := (spots.flatMap step).eraseDups.filter fun spot => !found.contains spot
      if next.isEmpty then found else rounds step least fuel (round + 1) next found

def ends (text : Array Char) : Regular → Spot → List Spot
  | .nothing, spot => [spot]
  | .octet c, spot =>
      if text[spot.position]? = some c then [{ spot with position := spot.position + 1 }] else []
  | .oneOf holds, spot =>
      if (text[spot.position]?).any holds then [{ spot with position := spot.position + 1 }] else []
  | .edge kind, spot => if holdsAt text spot.position kind then [spot] else []
  | .group index body, spot =>
      (ends text body spot).map fun after =>
        { after with
          groups := (index, spot.position, after.position)
            :: after.groups.filter fun group => group.1 ≠ index }
  | .again index, spot =>
      match spot.groups.lookup index with
      | none => []
      | some (first, last) =>
          let wanted := text.extract first last
          let next := spot.position + wanted.size
          if text.extract spot.position next = wanted then [{ spot with position := next }] else []
  | .chain first second, spot =>
      ((ends text first spot).flatMap fun middle => ends text second middle).eraseDups
  | .either first second, spot => (ends text first spot ++ ends text second spot).eraseDups
  | .times least most body, spot =>
      match body.test? with
      | some holds =>
          let limit := min (most.getD text.size) (text.size - spot.position)
          let count := countFrom text holds limit spot.position
          if count < least then []
          else (List.range (count + 1 - least)).map fun short =>
            { spot with position := spot.position + count - short }
      | none =>
          rounds (fun spot => ends text body spot) least
            (most.getD (least + text.size) + 1) 0 [spot] []

def matchAt (regular : Regular) (text : Array Char) (position : Nat) : Option Spot :=
  (ends text regular { position }).foldl
    (fun best spot =>
      if best.all fun longest => longest.position < spot.position then some spot else best) none

def find? (regular : Regular) (text : Array Char) : Nat → Nat → Option (Nat × Spot)
  | 0, _ => none
  | fuel + 1, position =>
      match regular.matchAt text position with
      | some spot => some (position, spot)
      | none => find? regular text fuel (position + 1)

def search (regular : Regular) (text : Array Char) (position : Nat) : Option (Nat × Spot) :=
  regular.find? text (text.size + 1 - position) position

def caseless : Regular → Regular
  | .octet c => .oneOf fun d => d.toLower = c.toLower
  | .oneOf holds => .oneOf fun c => holds c || holds c.toLower || holds c.toUpper
  | .group index body => .group index (caseless body)
  | .chain first second => .chain (caseless first) (caseless second)
  | .either first second => .either (caseless first) (caseless second)
  | .times least most body => .times least most (caseless body)
  | other => other

def lastGroup : Regular → Nat
  | .group index body => max index body.lastGroup
  | .chain first second | .either first second => max first.lastGroup second.lastGroup
  | .times _ _ body => body.lastGroup
  | _ => 0

def ofOctets (octets : Octets) : Regular :=
  octets.foldr (fun c rest => .chain (.octet c) rest) .nothing

end Regular

inductive RegularFault where
  | openGroup
  | closedGroup
  | openSet
  | openInterval
  | badInterval
  | badRange
  | badClass
  | bareClass
  | trailingBackslash
  | unknownGroup
  | nothingToRepeat
  | tooBig
  deriving DecidableEq, Repr

def RegularFault.message : RegularFault → String
  | .openGroup => "Unmatched ( or \\("
  | .closedGroup => "Unmatched ) or \\)"
  | .openSet => "Unmatched [, [^, [:, [., or [="
  | .openInterval => "Unmatched \\\x7b"
  | .badInterval => "Invalid content of \\\x7b\\\x7d"
  | .badRange => "Invalid range end"
  | .badClass => "Invalid character class name"
  | .bareClass => "character class syntax is [[:space:]], not [:space:]"
  | .trailingBackslash => "Trailing backslash"
  | .unknownGroup => "Invalid back reference"
  | .nothingToRepeat => "Invalid preceding regular expression"
  | .tooBig => "Regular expression too big"

structure Dialect where
  isExtended : Bool := false
  isStrict : Bool := false
  isByLine : Bool := false
  deriving DecidableEq, Repr

namespace Dialect

def lineStart (dialect : Dialect) : Edge := if dialect.isByLine then .lineStart else .textStart

def lineEnd (dialect : Dialect) : Edge := if dialect.isByLine then .lineEnd else .textEnd

def allows (dialect : Dialect) (c : Char) : Bool := !dialect.isByLine || c != '\n'

end Dialect

namespace Regular

inductive Sign where
  | part (regular : Regular)
  | opening
  | closing
  | bar
  | star
  | plus
  | optional
  | interval (least : Nat) (most : Option Nat)
  | lineStart
  | again (index : Nat)

def intervalLimit : Nat := 32767

def numberAt (rest : Octets) : Option Nat × Octets :=
  let digits := rest.takeWhile Char.isDigit
  ((String.ofList digits).toNat?, rest.drop digits.length)

def interval? (close : Octets) (rest : Octets) : Except RegularFault (Sign × Octets) := do
  let (least, after) := numberAt rest
  let (most, after, hasComma) := match after with
    | ',' :: after => ((numberAt after).1, (numberAt after).2, true)
    | _ => (none, after, false)
  if after.isEmpty then throw .openInterval
  if !close.isPrefixOf after then throw .badInterval
  if least.isNone && !hasComma then throw .badInterval
  let first := least.getD 0
  let last := if hasComma then most else some first
  if last.any (· < first) then throw .badInterval
  if intervalLimit < first || last.any (intervalLimit < ·) then throw .tooBig
  return (.interval first last, after.drop close.length)

def named? (mark : Char) (rest : Octets) : Option (Octets × Octets) :=
  let name := rest.takeWhile (· ≠ mark)
  match rest.drop name.length with
  | _ :: ']' :: after => some (name, after)
  | _ => none

def member? : Octets → Except RegularFault (Char × Octets)
  | '[' :: '.' :: rest | '[' :: '=' :: rest =>
      match rest with
      | c :: _ :: ']' :: after => .ok (c, after)
      | _ => .error .openSet
  | c :: rest => .ok (c, rest)
  | [] => .error .openSet

def members : Nat → Bool → Octets → Except RegularFault (List (Char → Bool) × Octets)
  | 0, _, _ | _, _, [] => .error .openSet
  | fuel + 1, isFirst, c :: rest => do
      if c = ']' && !isFirst then return ([], rest)
      if let '[' :: ':' :: inner := c :: rest then
        match named? ':' inner with
        | none => throw .openSet
        | some (name, after) =>
            match classOf? (String.ofList name) with
            | none => throw .badClass
            | some holds =>
                let (more, after) ← members fuel false after
                return (holds :: more, after)
      let (low, after) ← member? (c :: rest)
      match after with
      | '-' :: next :: _ =>
          if next = ']' then
            let (more, rest) ← members fuel false after
            return ((· == low) :: more, rest)
          let (high, rest) ← member? after.tail
          if high < low then throw .badRange
          let (more, rest) ← members fuel false rest
          return ((fun c => low ≤ c && c ≤ high) :: more, rest)
      | _ =>
          let (more, rest) ← members fuel false after
          return ((· == low) :: more, rest)

def setOf (dialect : Dialect) (rest : Octets) : Except RegularFault (Regular × Octets) := do
  let isNegated := rest.head? = some '^'
  let body := if isNegated then rest.tail else rest
  let (tests, after) ← members (body.length + 1) true body
  let inside := body.take (body.length - after.length)
  if !isNegated && inside.head? = some ':' && 3 < inside.length
      && inside[inside.length - 2]? = some ':' then throw .bareClass
  let holds (c : Char) : Bool := tests.any (· c)
  return (.oneOf fun c => if isNegated then !holds c && dialect.allows c else holds c, after)

def edgeOf? : Char → Option Edge
  | '<' => some .wordStart
  | '>' => some .wordEnd
  | 'b' => some .wordEdge
  | 'B' => some .insideWord
  | '`' => some .textStart
  | '\'' => some .textEnd
  | _ => none

def shorthand? : Char → Option (Char → Bool)
  | 'w' => some inWord
  | 'W' => some (!inWord ·)
  | 's' => classOf? "space"
  | 'S' => (classOf? "space").map fun holds c => !holds c
  | _ => none

/-- The sign after a backslash. What is special by itself in one notation is special after a
backslash in the other. -/
def escaped (isExtended : Bool) (c : Char) (rest : Octets) : Except RegularFault (Sign × Octets) :=
  let plain : Except RegularFault (Sign × Octets) := .ok (.part (.octet c), rest)
  if let some kind := edgeOf? c then .ok (.part (.edge kind), rest)
  else if let some holds := shorthand? c then .ok (.part (.oneOf holds), rest)
  else if '1' ≤ c && c ≤ '9' then .ok (.again (c.toNat - '0'.toNat), rest)
  else if isExtended then plain
  else match c with
    | '(' => .ok (.opening, rest)
    | ')' => .ok (.closing, rest)
    | '|' => .ok (.bar, rest)
    | '+' => .ok (.plus, rest)
    | '?' => .ok (.optional, rest)
    | '\x7b' => interval? ['\\', '\x7d'] rest
    | _ => plain

/-- The signs of an expression. At the start of a branch a star is plain in the basic notation. -/
def signs (dialect : Dialect) : Nat → Bool → Octets → Except RegularFault (List Sign)
  | 0, _, _ | _, _, [] => .ok []
  | fuel + 1, isStart, c :: rest => do
      let isExtended := dialect.isExtended
      let follow (sign : Sign) (isStart : Bool) (rest : Octets) : Except RegularFault (List Sign) := do
        return sign :: (← signs dialect fuel isStart rest)
      let plain := follow (.part (.octet c)) false rest
      match c with
      | '\\' =>
          match rest with
          | [] => throw .trailingBackslash
          | d :: rest =>
              let (sign, rest) ← escaped isExtended d rest
              match sign with
              | .plus | .optional =>
                  if isStart then follow (.part (.octet d)) false rest else follow sign false rest
              | .opening | .bar => follow sign true rest
              | _ => follow sign false rest
      | '.' => follow (.part (.oneOf dialect.allows)) false rest
      | '[' =>
          let (set, rest) ← setOf dialect rest
          follow (.part set) false rest
      | '*' => if isStart && !isExtended then plain else follow .star false rest
      | '^' =>
          if isExtended || isStart then follow .lineStart isStart rest else plain
      | '$' =>
          let isLast := match rest with
            | [] => true
            | '\\' :: ')' :: _ | '\\' :: '|' :: _ => !isExtended
            | _ => isExtended
          if isLast then follow (.part (.edge dialect.lineEnd)) false rest else plain
      | '(' => if isExtended then follow .opening true rest else plain
      | ')' => if isExtended then follow .closing false rest else plain
      | '|' => if isExtended then follow .bar true rest else plain
      | '+' => if isExtended then follow .plus false rest else plain
      | '?' => if isExtended then follow .optional false rest else plain
      | '\x7b' =>
          if isExtended then
            match interval? ['\x7d'] rest with
            | .ok (sign, rest) => follow sign false rest
            | .error fault =>
                let body := rest.takeWhile fun c => c.isDigit || c = ','
                let isClosed := rest[body.length]? = some '\x7d' && body ≠ []
                if dialect.isStrict || fault = .tooBig || (fault = .badInterval && isClosed) then
                  throw fault
                else plain
          else plain
      | _ => plain

structure Rest where
  signs : List Sign
  dialect : Dialect
  opened : Nat := 0
  closed : List Nat := []

abbrev Building := StateT Rest (Except RegularFault)

mutual

def branches : Nat → Nat → Building Regular
  | 0, _ => throw .tooBig
  | fuel + 1, depth => do
      let first ← branch fuel depth
      let rest ← get
      match rest.signs with
      | .bar :: signs =>
          set { rest with signs }
          return .either first (← branches fuel depth)
      | _ => return first

def branch : Nat → Nat → Building Regular
  | 0, _ => throw .tooBig
  | fuel + 1, depth => do
      let rest ← get
      match rest.signs with
      | [] | .bar :: _ => return .nothing
      | .closing :: signs =>
          if depth = 0 then
            if !rest.dialect.isExtended || rest.dialect.isStrict then throw .closedGroup
            set { rest with signs := .part (.octet ')') :: signs }
            branch fuel depth
          else return .nothing
      | _ =>
          let first ← repeated fuel (← part fuel depth)
          return .chain first (← branch fuel depth)

def part : Nat → Nat → Building Regular
  | 0, _ => throw .tooBig
  | fuel + 1, depth => do
      let rest ← get
      match rest.signs with
      | .part regular :: signs =>
          set { rest with signs }
          return regular
      | .lineStart :: signs =>
          set { rest with signs }
          return .edge rest.dialect.lineStart
      | .again index :: signs =>
          if !rest.closed.contains index then throw .unknownGroup
          set { rest with signs }
          return .again index
      | .opening :: signs =>
          let index := rest.opened + 1
          set { rest with signs, opened := index }
          let body ← branches fuel (depth + 1)
          let rest ← get
          match rest.signs with
          | .closing :: signs =>
              set { rest with signs, closed := index :: rest.closed }
              return .group index body
          | _ => throw .openGroup
      | _ :: signs =>
          if rest.dialect.isStrict then throw .nothingToRepeat
          set { rest with signs }
          return .nothing
      | [] => return .nothing

/-- A part with the repeating signs that follow it. A strict dialect takes but one of some of them, and
none after an edge. -/
def repeated : Nat → Regular → Building Regular
  | 0, _ => throw .tooBig
  | fuel + 1, body => do
      let rest ← get
      let counts := match rest.signs with
        | .star :: _ => some (0, none)
        | .plus :: _ => some (1, none)
        | .optional :: _ => some (0, some 1)
        | .interval least most :: _ => some (least, most)
        | _ => none
      match counts with
      | none => return body
      | some (least, most) =>
          let dialect := rest.dialect
          let after := rest.signs.tail
          let isRepeated := match after with
            | .star :: _ | .interval .. :: _ => !dialect.isExtended
            | _ => false
          let isEdge := body matches .edge _
          if dialect.isStrict && (isRepeated || (isEdge && dialect.isExtended)) then
            throw .nothingToRepeat
          set { rest with signs := after }
          repeated fuel (.times least most body)

end

def read (dialect : Dialect) (text : Octets) : Except RegularFault Regular := do
  let signs ← signs dialect (text.length + 1) true text
  let fuel := 4 * (text.length + 4)
  return (← (branches fuel 0).run { signs, dialect }).1

def parse (isExtended : Bool) (text : Octets) : Except RegularFault Regular :=
  read { isExtended } text

end Regular

end GoldenSuite.Utility
