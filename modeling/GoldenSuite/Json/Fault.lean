set_option autoImplicit false

namespace GoldenSuite.Json

inductive Part where
  | value
  | list
  | object
  | string
  deriving DecidableEq, Repr

inductive Flaw where
  | unfinished (inside : Part)
  | noValue
  | noWord
  | noColon
  | noItemEnd
  | noMemberEnd
  | noKey
  | trailingComma
  | trailing
  | badNumber
  | outOfRange
  | badEscape
  | badHex
  | control
  | loneSurrogate
  | openPair
  deriving DecidableEq, Repr

namespace Flaw

def message : Flaw → String
  | .unfinished .value => "EOF while parsing a value"
  | .unfinished .list => "EOF while parsing a list"
  | .unfinished .object => "EOF while parsing an object"
  | .unfinished .string => "EOF while parsing a string"
  | .noValue => "expected value"
  | .noWord => "expected ident"
  | .noColon => "expected `:`"
  | .noItemEnd => "expected `,` or `]`"
  | .noMemberEnd => "expected `,` or `\x7d`"
  | .noKey => "key must be a string"
  | .trailingComma => "trailing comma"
  | .trailing => "trailing characters"
  | .badNumber => "invalid number"
  | .outOfRange => "number out of range"
  | .badEscape | .badHex => "invalid escape"
  | .control => "control character (\\u0000-\\u001F) found while parsing a string"
  | .loneSurrogate => "lone leading surrogate in hex escape"
  | .openPair => "unexpected end of hex escape"

def width : Flaw → Nat
  | .unfinished _ | .outOfRange | .loneSurrogate => 0
  | .badHex => 4
  | _ => 1

end Flaw

structure Fault where
  flaw : Flaw
  rest : List Char
  deriving DecidableEq, Repr

structure Position where
  line : Nat
  column : Nat
  deriving DecidableEq, Repr

namespace Position

def afterBytes (bytes : List UInt8) : Position :=
  let newline : UInt8 := 10
  ⟨bytes.count newline + 1, (bytes.reverse.takeWhile (· ≠ newline)).length⟩

def of (text rest : List Char) (width : Nat) : Position :=
  let before := text.take (text.length - rest.length)
  afterBytes
    (before.flatMap String.utf8EncodeChar ++ (rest.flatMap String.utf8EncodeChar).take width)

end Position

def Fault.position (fault : Fault) (text : List Char) : Position :=
  .of text fault.rest fault.flaw.width

end GoldenSuite.Json
