import GoldenSuite.Utility.Slice

set_option autoImplicit false

namespace GoldenSuite.Utility.Sort

open Text (Octets)

/-- A place in a line: a field and an octet in it, both counted from one. The octet zero stands for
the end of the field. -/
structure Mark where
  field : Nat
  octet : Nat
  skipsBlanks : Bool := false

structure Key where
  first : Mark
  last : Option Mark := none
  letters : List Char := []

def isBlank (c : Char) : Bool := c = ' ' || c = '\t' || c = '\n'

/-- What follows so many fields at the front. Without a separator a field starts with its blanks. -/
def afterFields (separator : Option Char) : Nat → Octets → Octets
  | 0, rest => rest
  | count + 1, rest =>
      match separator with
      | some mark => afterFields separator count ((rest.dropWhile (· ≠ mark)).drop 1)
      | none => afterFields separator count ((rest.dropWhile isBlank).dropWhile (!isBlank ·))

def startOf (separator : Option Char) (mark : Mark) (line : Octets) : Nat :=
  let rest := afterFields separator (mark.field - 1) line
  let rest := if mark.skipsBlanks then rest.dropWhile isBlank else rest
  line.length - (rest.drop (mark.octet - 1)).length

def endOf (separator : Option Char) (mark : Mark) (line : Octets) : Nat :=
  if mark.octet = 0 then
    let rest := afterFields separator (mark.field - 1) line
    let after := match separator with
      | some mark => rest.dropWhile (· ≠ mark)
      | none => (rest.dropWhile isBlank).dropWhile (!isBlank ·)
    line.length - after.length
  else startOf separator { mark with octet := mark.octet + 1 } line

def Key.of (key : Key) (separator : Option Char) (line : Octets) : Octets :=
  let first := startOf separator key.first line
  let last := (key.last.map fun mark => endOf separator mark line).getD line.length
  (line.take last).drop first

structure Numeral where
  isNegative : Bool
  whole : Nat
  places : Octets

def numeral (octets : Octets) : Numeral :=
  let body := octets.dropWhile isBlank
  let isNegative := body.head? = some '-'
  let body := if isNegative then body.tail else body
  let whole := body.takeWhile Char.isDigit
  let places := match body.drop whole.length with
    | '.' :: rest => rest.takeWhile Char.isDigit
    | _ => []
  { isNegative, whole := ((String.ofList whole).toNat?).getD 0, places }

def Numeral.scaled (number : Numeral) (places : Nat) : Int :=
  let padded := number.places ++ List.replicate (places - number.places.length) '0'
  let size := number.whole * Nat.pow 10 places + ((String.ofList padded).toNat?).getD 0
  if number.isNegative then -(size : Int) else size

def compareNumbers (left right : Numeral) : Ordering :=
  let places := max left.places.length right.places.length
  compare (left.scaled places) (right.scaled places)

def power (octets : Octets) : Nat :=
  let rest := ((octets.dropWhile isBlank).dropWhile (· = '-')).dropWhile fun c =>
    c.isDigit || c = '.'
  match rest.head? with
  | some c => (("KMGTPEZYRQ".toList.idxOf? c.toUpper).map (· + 1)).getD 0
  | none => 0

def compareHuman (left right : Octets) : Ordering :=
  let key (octets : Octets) : Int :=
    let number := numeral octets
    let isZero := number.whole = 0 && number.places.all (· = '0')
    let size : Int := if isZero then 0 else (power octets : Int) + 1
    if number.isNegative then -size else size
  (compare (key left) (key right)).then (compareNumbers (numeral left) (numeral right))

def month (octets : Octets) : Nat :=
  let name := (((octets.dropWhile isBlank).take 3).map Char.toUpper)
  let names := ["JAN", "FEB", "MAR", "APR", "MAY", "JUN", "JUL", "AUG", "SEP", "OCT", "NOV", "DEC"]
  ((names.idxOf? (String.ofList name)).map (· + 1)).getD 0

def real? (octets : Octets) : Option (Int × Nat) :=
  let body := octets.dropWhile isBlank
  let isNegative := body.head? = some '-'
  let body := if body.head?.any fun c => c = '-' || c = '+' then body.tail else body
  let number := numeral body
  let digits := body.takeWhile fun c => c.isDigit || c = '.'
  if !digits.any Char.isDigit then none
  else
    let rest := body.drop digits.length
    let exponent : Int := match rest with
      | c :: more =>
          if c = 'e' || c = 'E' then
            let sign := more.head? = some '-'
            let more := if more.head?.any fun c => c = '-' || c = '+' then more.tail else more
            let size := ((String.ofList (more.takeWhile Char.isDigit)).toNat?).getD 0
            if sign then -(min size 400 : Nat) else (min size 400 : Nat)
          else 0
      | [] => 0
    let size := number.scaled number.places.length
    let size := if isNegative then -size else size
    let scale : Int := exponent - number.places.length
    some (size * Int.pow 10 scale.toNat, Nat.pow 10 (-scale).toNat)

def compareReals (left right : Octets) : Ordering :=
  match real? left, real? right with
  | none, none => .eq
  | none, some _ => .lt
  | some _, none => .gt
  | some (a, b), some (c, d) => compare (a * d) (c * b)

def rank (c : Char) : Int :=
  if c = '~' then -1 else if c.isAlpha then c.toNat else if c.isDigit then 0 else c.toNat + 256

def compareRuns : Octets → Octets → Ordering
  | [], [] => .eq
  | [], d :: _ => compare 0 (rank d)
  | c :: _, [] => compare (rank c) 0
  | c :: left, d :: right => (compare (rank c) (rank d)).then (compareRuns left right)

def compareVersions : Nat → Octets → Octets → Ordering
  | 0, _, _ | _, [], [] => .eq
  | fuel + 1, left, right =>
      let text (octets : Octets) : Octets := octets.takeWhile (!Char.isDigit ·)
      let leftText := text left
      let rightText := text right
      let left := left.drop leftText.length
      let right := right.drop rightText.length
      let number (octets : Octets) : Nat :=
        ((String.ofList (octets.takeWhile Char.isDigit)).toNat?).getD 0
      ((compareRuns leftText rightText).then (compare (number left) (number right))).then
        (compareVersions fuel (left.dropWhile Char.isDigit) (right.dropWhile Char.isDigit))

def compareOctets : Octets → Octets → Ordering
  | [], [] => .eq
  | [], _ :: _ => .lt
  | _ :: _, [] => .gt
  | c :: left, d :: right => (compare c.toNat d.toNat).then (compareOctets left right)

def compareParts (letters : List Char) (left right : Octets) : Ordering :=
  let prepared (octets : Octets) : Octets :=
    let octets := if letters.contains 'b' then octets.dropWhile isBlank else octets
    let octets := if letters.contains 'd'
      then octets.filter fun c => c.isAlphanum || isBlank c else octets
    let octets := if letters.contains 'i' then octets.filter fun c => ' ' ≤ c && c ≤ '~' else octets
    if letters.contains 'f' then octets.map Char.toUpper else octets
  let order :=
    if letters.contains 'n' then compareNumbers (numeral left) (numeral right)
    else if letters.contains 'g' then compareReals left right
    else if letters.contains 'h' then compareHuman left right
    else if letters.contains 'M' then compare (month left) (month right)
    else if letters.contains 'V' then
      (compareVersions (left.length + right.length + 1) left right).then (compareOctets left right)
    else compareOctets (prepared left) (prepared right)
  if letters.contains 'r' then order.swap else order

structure Order where
  keys : List Key
  separator : Option Char
  letters : List Char
  isStable : Bool
  isUnique : Bool

def Order.byKeys (order : Order) (left right : Octets) : Ordering :=
  if order.keys.isEmpty then compareParts order.letters left right
  else
    order.keys.foldl (fun found key =>
      found.then <|
        let letters := if key.letters.isEmpty then order.letters else key.letters
        compareParts letters (key.of order.separator left) (key.of order.separator right)) .eq

def Order.compare (order : Order) (left right : Octets) : Ordering :=
  let found := order.byKeys left right
  if order.isStable || order.isUnique then found
  else
    let last := compareOctets left right
    found.then (if order.letters.contains 'r' then last.swap else last)

def Order.distinct (order : Order) : List Octets → List Octets
  | first :: second :: rest =>
      if order.byKeys first second = .eq then order.distinct (first :: rest)
      else first :: order.distinct (second :: rest)
  | lines => lines
termination_by lines => lines.length

def Order.sorted (order : Order) (lines : List Octets) : List Octets :=
  let found := lines.mergeSort fun left right => order.compare left right != .gt
  if order.isUnique then order.distinct found else found

def Order.disorder? (order : Order) : Nat → List Octets → Option (Nat × Octets)
  | number, first :: second :: rest =>
      let found := order.compare first second
      if found = .gt || (order.isUnique && found = .eq) then some (number + 1, second)
      else order.disorder? (number + 1) (second :: rest)
  | _, _ => none

def mark? (part : String) (isLast : Bool) (written : Octets) :
    Except Octets (Mark × List Char × Octets) := do
  let digits (octets : Octets) : Octets := octets.takeWhile Char.isDigit
  let number (octets : Octets) : Nat := ((String.ofList (digits octets)).toNat?).getD 0
  let invalid (octets : Octets) : Octets :=
    say s!"invalid number {part}: invalid count at start of " ++ cited octets
  if (digits written).isEmpty then throw (invalid written)
  let field := number written
  if field = 0 then throw (say "field number is zero")
  let rest := written.drop (digits written).length
  let (octet, rest) ← match rest with
    | '.' :: more =>
        if (digits more).isEmpty then
          throw (say "invalid number after '.': invalid count at start of " ++ cited more)
        if number more = 0 && !isLast then throw (say "character offset is zero")
        pure (number more, more.drop (digits more).length)
    | _ => pure (if isLast then 0 else 1, rest)
  let letters := rest.takeWhile "bdfghiMnRrV".toList.contains
  return (⟨field, octet, letters.contains 'b'⟩, letters, rest.drop letters.length)

def Key.ofText (written : Octets) : Except Octets Key := do
  let explained {α : Type} (result : Except Octets α) : Except Octets α :=
    result.mapError fun text =>
      if (say "invalid number").isPrefixOf text then text
      else text ++ say ": invalid field specification " ++ cited written
  let (first, letters, rest) ← explained (mark? "at field start" false written)
  match rest with
  | [] => return { first, letters := letters.filter (· ≠ 'b') ++ (if first.skipsBlanks then ['b'] else []) }
  | ',' :: rest =>
      let (last, more, rest) ← explained (mark? "after ','" true rest)
      if !rest.isEmpty then explained (.error (say "stray character in field spec"))
      return { first, last := some last, letters := letters ++ more }
  | _ => explained (.error (say "stray character in field spec"))

def form : Form :=
  { Form.of "bcCdfghik:mMno:rRsS:t:T:uVy:z" [("ignore-leading-blanks", "b"), ("check::", "c"),
      ("dictionary-order", "d"), ("ignore-case", "f"), ("general-numeric-sort", "g"),
      ("human-numeric-sort", "h"), ("ignore-nonprinting", "i"), ("key:", "k"), ("merge", "m"),
      ("month-sort", "M"), ("numeric-sort", "n"), ("output:", "o"), ("reverse", "r"),
      ("random-sort", "R"), ("stable", "s"), ("buffer-size:", "S"), ("field-separator:", "t"),
      ("temporary-directory:", "T"), ("unique", "u"), ("version-sort", "V"),
      ("zero-terminated", "z"), ("parallel:", "parallel"), ("debug", "debug")] with status := 2 }

def separatorOf (choice : Choice) : Except Octets (Option Char) :=
  match choice.last? "t" with
  | none => .ok none
  | some [c] => .ok (some c)
  | some [] => .error (say "empty tab")
  | some written =>
      if written = say "\\0" then .ok (some '\x00')
      else .error (say "multi-character tab " ++ cited written)

def task (arguments : List Octets) : Task Unit := do
  let choice ← Task.choose form arguments
  match (do return (← (choice.values "k").mapM Key.ofText, ← separatorOf choice) :
      Except Octets (List Key × Option Char)) with
  | .error text => Task.give text 2
  | .ok (keys, separator) =>
      let letters := (choice.options.filterMap fun option =>
        match option.1.toList with
        | [c] => if "bdfghiMnRrV".toList.contains c then some c else none
        | _ => none)
      let order : Order :=
        { keys, separator, letters, isStable := choice.has "s", isUnique := choice.has "u" }
      let names := namesOf choice.operands
      let parts ← names.mapM fun name => do
        match ← Task.contentsOrInput name with
        | .ok octets => return linesOf octets
        | .error .isDirectory =>
            Task.give (say "read failed: " ++ quotedIfNeeded name ++ say ": Is a directory") 2
        | .error fault =>
            Task.give (say "cannot read: " ++ quotedIfNeeded name ++ say ": " ++ reason fault) 2
      let lines := parts.flatten
      if choice.has "c" || choice.has "C" then
        match order.disorder? 1 lines with
        | none => return
        | some (number, line) =>
            if choice.has "c" then
              Task.complain (names.head?.getD ['-'] ++ say s!":{number}: disorder: " ++ line)
            Task.leave 1
      let output := unlines (order.sorted lines)
      match choice.last? "o" with
      | none => Task.write output
      | some name =>
          match ← Task.changeDisk fun disk =>
              disk.put (pathOf name) (Text.Octets.toBytes output) with
          | .ok () => return
          | .error fault =>
              Task.give (say "open failed: " ++ quotedIfNeeded name ++ say ": " ++ reason fault) 2

end GoldenSuite.Utility.Sort
