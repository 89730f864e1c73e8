import GoldenSuite.Json.Value
import GoldenSuite.Text.Quoted

set_option autoImplicit false

namespace GoldenSuite.Json

inductive Mismatch where
  | wrongType (found wanted : String)
  | wrongInteger (found : Number) (wanted : String)
  | unknownField (name : String) (known : List String)
  | duplicateField (name : String)
  | tooLong (length : Nat)
  deriving DecidableEq, Repr

namespace Mismatch

def alternatives (names : List String) : String :=
  String.intercalate ", " (names.map fun name => "`" ++ name ++ "`")

def expected : List String → String
  | [] => "there are no fields"
  | [name] => "expected " ++ alternatives [name]
  | [first, second] => s!"expected `{first}` or `{second}`"
  | names => "expected one of " ++ alternatives names

def message : Mismatch → String
  | .wrongType found wanted => s!"invalid type: {found}, expected {wanted}"
  | .wrongInteger found wanted => s!"invalid value: integer `{found.text}`, expected {wanted}"
  | .unknownField name known => s!"unknown field `{name}`, {expected known}"
  | .duplicateField name => s!"duplicate field `{name}`"
  | .tooLong length => s!"invalid length {length}, expected fewer elements in array"

end Mismatch

inductive DecodeError where
  | fault (fault : Fault)
  | mismatch (mismatch : Mismatch) (rest : List Char)
  deriving DecidableEq, Repr

namespace DecodeError

inductive Category where
  | unfinished
  | malformed
  | wrongData
  deriving DecidableEq, Repr

def category : DecodeError → Category
  | .fault ⟨.unfinished _, _⟩ => .unfinished
  | .fault _ => .malformed
  | .mismatch .. => .wrongData

def message : DecodeError → String
  | .fault cause => cause.flaw.message
  | .mismatch cause _ => cause.message

def position (error : DecodeError) (text : List Char) : Position :=
  match error with
  | .fault cause => cause.position text
  | .mismatch _ rest => .of text rest 0

def ofText : DecodeError → DecodeError
  | .mismatch (.tooLong _) rest => .fault ⟨.trailing, rest⟩
  | error => error

end DecodeError

structure Misreading where
  error : DecodeError
  position : Position
  deriving DecidableEq, Repr

def Misreading.message (misreading : Misreading) : String :=
  let position := misreading.position
  s!"{misreading.error.message} at line {position.line} column {position.column}"

abbrev Decoder (α : Type) := Tree → Except DecodeError α

namespace Decoder

def describeNumber : Number → String
  | .floating isNegative size => s!"floating point `{(Number.floating isNegative size).text}`"
  | n => s!"integer `{n.text}`"

def describe (leaf : Leaf) (rest : List Char) : Except Fault String :=
  match leaf with
  | .null => .ok "null"
  | .bool value => .ok s!"boolean `{value}`"
  | .number numeral =>
      match numeral.number? with
      | some number => .ok (describeNumber number)
      | none => .error ⟨.outOfRange, rest⟩
  | .string text => return s!"string {Text.quoted (← text)}"

/-- The error of a tree where something else is wanted. A leaf is read before it is refused, a list or
an object is refused at its bracket. -/
def wrong (wanted : String) : Tree → DecodeError
  | .leaf leaf _ rest =>
      match describe leaf rest with
      | .ok found => .mismatch (.wrongType found wanted) rest
      | .error fault => .fault fault
  | .array start .. => .mismatch (.wrongType "sequence" wanted) start
  | .object start .. => .mismatch (.wrongType "map" wanted) start
  | .broken _ fault _ => .fault fault

def text : Decoder String
  | .leaf (.string text) .. => text.mapError .fault
  | tree => .error (wrong "a string" tree)

def natural : Decoder Nat
  | .leaf (.number numeral) start rest =>
      match numeral.number? with
      | some (.natural size) => .ok size
      | some (.negative size) => .error (.mismatch (.wrongInteger (.negative size) "u64") rest)
      | _ => .error (wrong "u64" (.leaf (.number numeral) start rest))
  | tree => .error (wrong "u64" tree)

def optional {α : Type} (decode : Decoder α) : Decoder (Option α)
  | .leaf .null .. => .ok none
  | tree => some <$> decode tree

def endOf (fault : Option Fault) : Except DecodeError Unit :=
  match fault with
  | some fault => .error (.fault fault)
  | none => .ok ()

def list {α : Type} (decode : Decoder α) : Decoder (List α)
  | .array _ items fault => do
      let values ← items.mapM decode
      endOf fault
      return values
  | tree => .error (wrong "a sequence" tree)

structure Field (ρ : Type) where
  name : String
  decode : Tree → ρ → Except DecodeError ρ

def fullEnd : Option Fault → Except DecodeError Unit
  | none => .ok ()
  | some fault =>
      let isPlain := fault.flaw = .unfinished .list ∨ fault.flaw = .trailingComma
      .error (.fault (if isPlain then fault else ⟨.trailing, fault.rest⟩))

def fromItems {ρ : Type} (length : Nat) (fault : Option Fault) :
    List (Field ρ) → List Tree → ρ → Except DecodeError ρ
  | [], [], record => do
      fullEnd fault
      return record
  | [], item :: _, _ => .error (.mismatch (.tooLong length) item.start)
  | _ :: _, [], record => do
      endOf fault
      return record
  | field :: fields, item :: items, record => do
      fromItems length fault fields items (← field.decode item record)

inductive Unknown where
  | refused
  | passedOver
  deriving DecidableEq, Repr

def afterKey (key : Key) : List Char :=
  match Tree.skip key.rest with
  | '\x7d' :: rest => rest
  | rest => rest

def fromMembers {ρ : Type} (fields : List (Field ρ)) (unknown : Unknown) (seen : List String) :
    List (Key × Tree) → ρ → Except DecodeError ρ
  | [], record => .ok record
  | (key, value) :: members, record => do
      let name ← key.text.mapError .fault
      match fields.find? fun field => field.name = name with
      | some field =>
          if name ∈ seen then .error (.mismatch (.duplicateField name) (afterKey key))
          else
            fromMembers fields unknown (name :: seen) members (← field.decode value record)
      | none =>
          match unknown with
          | .refused =>
              .error (.mismatch (.unknownField name (fields.map Field.name)) (afterKey key))
          | .passedOver =>
              endOf value.faultWhenSkipped
              fromMembers fields unknown seen members record

def record {ρ : Type} (wanted : String) (fields : List (Field ρ)) (unknown : Unknown)
    (start : ρ) : Decoder ρ
  | .array _ items fault => fromItems items.length fault fields items start
  | .object _ members fault => do
      let record ← fromMembers fields unknown [] members start
      endOf fault
      return record
  | tree => .error (wrong wanted tree)

def whole {α : Type} (decode : Decoder α) (text : String) : Except DecodeError α := do
  let (tree, fault) := Tree.read text
  let value ← decode tree
  endOf fault
  return value

def ofText {α : Type} (decode : Decoder α) (text : String) : Except Misreading α :=
  (whole decode text).mapError fun error =>
    ⟨error.ofText, error.ofText.position text.toList⟩

def ofValue {α : Type} (decode : Decoder α) (value : Value) : Except DecodeError α :=
  whole decode value.compact

end Decoder

end GoldenSuite.Json
