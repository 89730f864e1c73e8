set_option autoImplicit false

namespace GoldenSuite.Text.Utf8

def tailRanges (lead : UInt8) : Option (List (UInt8 × UInt8)) :=
  let tail : UInt8 × UInt8 := (0x80, 0xBF)
  if lead ≤ 0x7F then some []
  else if lead < 0xC2 then none
  else if lead ≤ 0xDF then some [tail]
  else if lead = 0xE0 then some [(0xA0, 0xBF), tail]
  else if lead = 0xED then some [(0x80, 0x9F), tail]
  else if lead ≤ 0xEF then some [tail, tail]
  else if lead = 0xF0 then some [(0x90, 0xBF), tail, tail]
  else if lead ≤ 0xF3 then some [tail, tail, tail]
  else if lead = 0xF4 then some [(0x80, 0x8F), tail, tail]
  else none

inductive Fit where
  | full
  | broken
  | short
  deriving DecidableEq, Repr

def fit : List (UInt8 × UInt8) → List UInt8 → Nat × Fit
  | [], _ => (0, .full)
  | _ :: _, [] => (0, .short)
  | (low, high) :: ranges, byte :: bytes =>
      if low ≤ byte && byte ≤ high then
        let after := fit ranges bytes
        (after.1 + 1, after.2)
      else (0, .broken)

structure Flaw where
  offset : Nat
  length : Option Nat
  deriving DecidableEq, Repr

def head (lead : UInt8) (rest : List UInt8) : Nat × Fit :=
  match tailRanges lead with
  | none => (1, .broken)
  | some ranges =>
      let found := fit ranges rest
      (found.1 + 1, found.2)

/-- The first flaw in some bytes, the first of which is at `offset`. The second argument counts
the bytes that belong to the character before. -/
def firstFlaw (offset : Nat) : Nat → List UInt8 → Option Flaw
  | _, [] => none
  | pending + 1, _ :: rest => firstFlaw (offset + 1) pending rest
  | 0, lead :: rest =>
      match head lead rest with
      | (covered, .full) => firstFlaw (offset + 1) (covered - 1) rest
      | (covered, .broken) => some ⟨offset, some covered⟩
      | (_, .short) => some ⟨offset, none⟩

def scalar (lead : UInt8) (tail : List UInt8) : Char :=
  let leadBits := match tail.length with
    | 0 => lead.toNat
    | 1 => lead.toNat % 32
    | 2 => lead.toNat % 16
    | _ => lead.toNat % 8
  Char.ofNat (tail.foldl (fun code byte => code * 64 + byte.toNat % 64) leadBits)

def replacement : Char := '\uFFFD'

def lenientOnto (done : List Char) : Nat → List UInt8 → List Char
  | _, [] => done
  | pending + 1, _ :: rest => lenientOnto done pending rest
  | 0, lead :: rest =>
      match head lead rest with
      | (covered, .full) =>
          lenientOnto (scalar lead (rest.take (covered - 1)) :: done) (covered - 1) rest
      | (covered, _) => lenientOnto (replacement :: done) (covered - 1) rest

def lenient (bytes : ByteArray) : String :=
  match String.fromUTF8? bytes with
  | some text => text
  | none => String.ofList (lenientOnto [] 0 bytes.toList).reverse

def Flaw.message (flaw : Flaw) : String :=
  match flaw.length with
  | some length => s!"invalid utf-8 sequence of {length} bytes from index {flaw.offset}"
  | none => s!"incomplete utf-8 byte sequence from index {flaw.offset}"

def strict (bytes : ByteArray) : Except Flaw String :=
  match String.fromUTF8? bytes with
  | some text => .ok text
  | none => .error ((firstFlaw 0 0 bytes.toList).getD ⟨0, none⟩)

@[simp] theorem fromUTF8?_toByteArray (text : String) :
    String.fromUTF8? text.toByteArray = some text := by
  simp [String.fromUTF8?, String.fromUTF8, text.isValidUTF8]

@[simp] theorem strict_toByteArray (text : String) : strict text.toByteArray = .ok text := by
  simp [strict, fromUTF8?_toByteArray]

@[simp] theorem lenient_toByteArray (text : String) : lenient text.toByteArray = text := by
  simp [lenient, fromUTF8?_toByteArray]

end GoldenSuite.Text.Utf8
