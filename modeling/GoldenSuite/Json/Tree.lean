import GoldenSuite.Json.Fault
import GoldenSuite.Json.Number

/-!
JSON text as far as it can be read. Reading never fails: where the text stops being JSON the tree
says so at that place, so that whoever walks the tree in order meets what is wrong with the values
and what is wrong with the text in the order in which they stand.
-/

set_option autoImplicit false

namespace GoldenSuite.Json

/-- A value without parts. A string whose surrogate escapes do not pair up has no text. -/
inductive Leaf where
  | null
  | bool (value : Bool)
  | number (numeral : Numeral)
  | string (text : Except Fault String)
  deriving Repr

structure Key where
  text : Except Fault String
  rest : List Char
  deriving Repr

inductive Tree where
  | leaf (leaf : Leaf) (start rest : List Char)
  -- The items, and what ends them in place of a bracket.
  | array (start : List Char) (items : List Tree) (fault : Option Fault)
  -- The members, and what ends them in place of a brace.
  | object (start : List Char) (members : List (Key × Tree)) (fault : Option Fault)
  -- No value, be it wanted or passed over.
  | broken (start : List Char) (wanted skipped : Fault)
  deriving Repr

namespace Tree

def start : Tree → List Char
  | .leaf _ start _ | .array start _ _ | .object start _ _ | .broken start _ _ => start

def isSpace (c : Char) : Bool := c = ' ' || c = '\n' || c = '\t' || c = '\r'

def skip (text : List Char) : List Char := text.dropWhile isSpace

abbrev Step (α : Type) := α × Option (List Char)

abbrev LeafStep := Except (Fault × Fault) (Leaf × List Char)

def unfinished (inside : Part) : Fault := ⟨.unfinished inside, []⟩

def expectWord : List Char → List Char → Except Fault (List Char)
  | [], text => .ok text
  | _ :: _, [] => .error (unfinished .value)
  | c :: word, d :: text => if c = d then expectWord word text else .error ⟨.noWord, d :: text⟩

def readWord (word : List Char) (value : Leaf) (text : List Char) : LeafStep :=
  match expectWord word text with
  | .ok rest => .ok (value, rest)
  | .error fault => .error (fault, fault)

def spanDigits (text : List Char) : List Char × List Char :=
  (text.takeWhile Char.isDigit, text.dropWhile Char.isDigit)

def digits (text : List Char) : Except Fault (List Char × List Char) :=
  match spanDigits text with
  | ([], []) => .error (unfinished .value)
  | ([], rest) => .error ⟨.badNumber, rest⟩
  | found => .ok found

def wholeDigits (text : List Char) : Except Fault (List Char × List Char) := do
  let (whole, rest) ← digits text
  match whole with
  | '0' :: next :: others => .error ⟨.badNumber, next :: others ++ rest⟩
  | _ => .ok (whole, rest)

def fraction : List Char → Except Fault (List Char × List Char)
  | '.' :: rest => digits rest
  | rest => .ok ([], rest)

def exponent : List Char → Except Fault (Option (Bool × List Char) × List Char)
  | c :: rest =>
      if c = 'e' ∨ c = 'E' then do
        let (isNegative, after) := match rest with
          | '-' :: after => (true, after)
          | '+' :: after => (false, after)
          | after => (false, after)
        let (size, left) ← digits after
        return (some (isNegative, size), left)
      else .ok (none, c :: rest)
  | [] => .ok (none, [])

def numeral (isNegative : Bool) (text : List Char) : Except Fault (Numeral × List Char) := do
  let (whole, rest) ← wholeDigits text
  let (fraction, rest) ← fraction rest
  let (exponent, rest) ← exponent rest
  return (⟨isNegative, whole, fraction, exponent⟩, rest)

/-- A number after its sign. One that is cut off is a bad number to those who pass it over. -/
def readNumber (isNegative : Bool) (text : List Char) : LeafStep :=
  match numeral isNegative text with
  | .ok (numeral, rest) => .ok (.number numeral, rest)
  | .error fault => .error (fault, ⟨.badNumber, fault.rest⟩)

def hexValue? (c : Char) : Option Nat :=
  if '0' ≤ c ∧ c ≤ '9' then some (c.toNat - '0'.toNat)
  else if 'a' ≤ c ∧ c ≤ 'f' then some (c.toNat - 'a'.toNat + 10)
  else if 'A' ≤ c ∧ c ≤ 'F' then some (c.toNat - 'A'.toNat + 10)
  else none

/-- Four hexadecimal digits. Fewer than four bytes before the end of the text cut them off. -/
def hexUnit (text : List Char) : Except Fault (Nat × List Char) :=
  if (text.take 4).foldl (fun size c => size + c.utf8Size) 0 < 4 then .error (unfinished .string)
  else match text with
    | a :: b :: c :: d :: rest =>
        match hexValue? a, hexValue? b, hexValue? c, hexValue? d with
        | some a, some b, some c, some d => .ok (((a * 16 + b) * 16 + c) * 16 + d, rest)
        | _, _, _, _ => .error ⟨.badHex, text⟩
    | _ => .error ⟨.badHex, text⟩

def isHighSurrogate (unit : Nat) : Bool := 0xD800 ≤ unit && unit ≤ 0xDBFF

def isLowSurrogate (unit : Nat) : Bool := 0xDC00 ≤ unit && unit ≤ 0xDFFF

def simpleEscape? : Char → Option Char
  | '"' => some '"'
  | '\\' => some '\\'
  | '/' => some '/'
  | 'b' => some '\x08'
  | 'f' => some '\x0c'
  | 'n' => some '\n'
  | 'r' => some '\r'
  | 't' => some '\t'
  | _ => none

inductive Piece where
  | char (c : Char)
  | surrogate (unit : Nat) (rest : List Char)
  deriving DecidableEq, Repr

def readPieces (done : List Piece) : Nat → List Char → List Piece × Except Fault (List Char)
  | 0, text => (done, .error ⟨.noValue, text⟩)
  | _ + 1, [] => (done, .error (unfinished .string))
  | _ + 1, '"' :: rest => (done, .ok rest)
  | _ + 1, ['\\'] => (done, .error (unfinished .string))
  | fuel + 1, '\\' :: 'u' :: rest =>
      match hexUnit rest with
      | .error fault => (done, .error fault)
      | .ok (unit, rest) =>
          let piece : Piece :=
            if isHighSurrogate unit || isLowSurrogate unit then .surrogate unit rest
            else .char (Char.ofNat unit)
          readPieces (piece :: done) fuel rest
  | fuel + 1, '\\' :: c :: rest =>
      match simpleEscape? c with
      | some escaped => readPieces (.char escaped :: done) fuel rest
      | none => (done, .error ⟨.badEscape, c :: rest⟩)
  | fuel + 1, c :: rest =>
      if c.toNat < 0x20 then (done, .error ⟨.control, c :: rest⟩)
      else readPieces (.char c :: done) fuel rest

def missingLow : List Char → Fault
  | [] | ['\\'] => unfinished .string
  | '\\' :: 'u' :: text =>
      match hexUnit text with
      | .ok (_, rest) => ⟨.loneSurrogate, rest⟩
      | .error fault => fault
  | '\\' :: text => ⟨.openPair, text⟩
  | text => ⟨.openPair, text⟩

def joinPieces (done : List Char) : List Piece → Except Fault (List Char)
  | [] => .ok done.reverse
  | .char c :: pieces => joinPieces (c :: done) pieces
  | .surrogate high rest :: .surrogate low _ :: pieces =>
      if isLowSurrogate high then .error ⟨.loneSurrogate, rest⟩
      else if isLowSurrogate low then
        joinPieces (Char.ofNat (0x10000 + (high - 0xD800) * 0x400 + (low - 0xDC00)) :: done) pieces
      else .error (missingLow rest)
  | .surrogate unit rest :: _ =>
      .error (if isLowSurrogate unit then ⟨.loneSurrogate, rest⟩ else missingLow rest)

/-- A string after its opening quote. Surrogates without partner only matter to those who want the
text. -/
def readString (text : List Char) :
    Except (Fault × Fault) (Except Fault String × List Char) :=
  let (pieces, ending) := readPieces [] (text.length + 1) text
  let joined := (joinPieces [] pieces.reverse).map String.ofList
  match ending, joined with
  | .ok rest, _ => .ok (joined, rest)
  | .error fault, .ok _ => .error (fault, fault)
  | .error fault, .error lone => .error (lone, fault)

def place (start : List Char) : LeafStep → Step Tree
  | .ok (value, rest) => (.leaf value start rest, some rest)
  | .error (wanted, skipped) => (.broken start wanted skipped, none)

def fail (start : List Char) (fault : Fault) : Step Tree := (.broken start fault fault, none)

mutual

def readValue : Nat → List Char → Step Tree
  | 0, text => fail text ⟨.noValue, text⟩
  | fuel + 1, text =>
      let start := skip text
      match start with
      | [] => fail [] (unfinished .value)
      | 'n' :: rest => place start (readWord ['u', 'l', 'l'] .null rest)
      | 't' :: rest => place start (readWord ['r', 'u', 'e'] (.bool true) rest)
      | 'f' :: rest => place start (readWord ['a', 'l', 's', 'e'] (.bool false) rest)
      | '"' :: rest =>
          place start ((readString rest).map fun (text, after) => (.string text, after))
      | '[' :: rest =>
          match skip rest with
          | ']' :: after => (.array start [] none, some after)
          | [] => (.array start [] (some (unfinished .list)), none)
          | first =>
              let ((items, fault), after) := readItems fuel first
              (.array start items fault, after)
      | '\x7b' :: rest =>
          match skip rest with
          | '\x7d' :: after => (.object start [] none, some after)
          | [] => (.object start [] (some (unfinished .object)), none)
          | first =>
              let ((members, fault), after) := readMembers fuel first
              (.object start members fault, after)
      | '-' :: rest => place start (readNumber true rest)
      | c :: _ =>
          if c.isDigit then place start (readNumber false start) else fail start ⟨.noValue, start⟩

def readItems : Nat → List Char → Step (List Tree × Option Fault)
  | 0, text => (([], some ⟨.noValue, text⟩), none)
  | fuel + 1, text =>
      match readValue fuel text with
      | (item, none) => (([item], none), none)
      | (item, some rest) =>
          match skip rest with
          | ']' :: after => (([item], none), some after)
          | [] => (([item], some (unfinished .list)), none)
          | ',' :: after =>
              match skip after with
              | [] => (([item], some (unfinished .value)), none)
              | ']' :: left => (([item], some ⟨.trailingComma, ']' :: left⟩), none)
              | next =>
                  let ((items, fault), left) := readItems fuel next
                  ((item :: items, fault), left)
          | other => (([item], some ⟨.noItemEnd, other⟩), none)

def readMembers : Nat → List Char → Step (List (Key × Tree) × Option Fault)
  | 0, text => (([], some ⟨.noValue, text⟩), none)
  | fuel + 1, '"' :: text =>
      match readString text with
      | .error (wanted, skipped) =>
          (([(⟨.error wanted, text⟩, .broken text wanted skipped)], none), none)
      | .ok (name, rest) =>
          let key : Key := ⟨name, rest⟩
          match skip rest with
          | [] => (([(key, (fail [] (unfinished .object)).1)], none), none)
          | ':' :: after =>
              match readValue fuel after with
              | (value, none) => (([(key, value)], none), none)
              | (value, some rest) =>
                  match skip rest with
                  | '\x7d' :: left => (([(key, value)], none), some left)
                  | [] => (([(key, value)], some (unfinished .object)), none)
                  | ',' :: left =>
                      match skip left with
                      | [] => (([(key, value)], some (unfinished .value)), none)
                      | '\x7d' :: left =>
                          (([(key, value)], some ⟨.trailingComma, '\x7d' :: left⟩), none)
                      | next =>
                          let ((members, fault), left) := readMembers fuel next
                          (((key, value) :: members, fault), left)
                  | other => (([(key, value)], some ⟨.noMemberEnd, other⟩), none)
          | other => (([(key, (fail other ⟨.noColon, other⟩).1)], none), none)
  | _ + 1, text => (([], some ⟨.noKey, text⟩), none)

end

def read (text : String) : Tree × Option Fault :=
  let chars := text.toList
  match readValue (2 * chars.length + 2) chars with
  | (tree, none) => (tree, none)
  | (tree, some rest) =>
      match skip rest with
      | [] => (tree, none)
      | after => (tree, some ⟨.trailing, after⟩)

def skippedItemEnd (fault : Fault) : Fault :=
  if fault.flaw = .trailingComma then ⟨.noValue, fault.rest⟩ else fault

def skippedMemberEnd (fault : Fault) : Fault :=
  if fault.flaw = .trailingComma then ⟨.noKey, fault.rest⟩
  else if fault.flaw = .unfinished .value then unfinished .object
  else fault

mutual

/-- The first fault in a tree whose values are passed over. A number or a string that has no value
is no fault then. -/
def faultWhenSkipped : Tree → Option Fault
  | .leaf .. => none
  | .array _ items fault => firstFault items |>.or (fault.map skippedItemEnd)
  | .object _ members fault => firstMemberFault members |>.or (fault.map skippedMemberEnd)
  | .broken _ _ skipped => some skipped

def firstFault : List Tree → Option Fault
  | [] => none
  | item :: items => (faultWhenSkipped item).or (firstFault items)

def firstMemberFault : List (Key × Tree) → Option Fault
  | [] => none
  | (_, value) :: members => (faultWhenSkipped value).or (firstMemberFault members)

end

end Tree

end GoldenSuite.Json
