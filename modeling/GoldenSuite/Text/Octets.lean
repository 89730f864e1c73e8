import GoldenSuite.Text.Utf8

set_option autoImplicit false

namespace GoldenSuite.Text

abbrev Octets := List Char

namespace Octets

def ofByte (byte : UInt8) : Char := Char.ofNat byte.toNat

def toByte (octet : Char) : UInt8 := UInt8.ofNat octet.toNat

def ofBytes (data : ByteArray) : Octets := data.data.toList.map ofByte

def toBytes (octets : Octets) : ByteArray := ⟨(octets.map toByte).toArray⟩

def ofText (text : String) : Octets := ofBytes text.toUTF8

def toText (octets : Octets) : String := Utf8.lenient (toBytes octets)

@[simp] theorem toByte_ofByte (byte : UInt8) : toByte (ofByte byte) = byte := by
  have valid : byte.toNat.isValidChar := Or.inl (by have := byte.toNat_lt; omega)
  have code : (ofByte byte).toNat = byte.toNat := by
    rw [ofByte, Char.ofNat, dif_pos valid]
    rfl
  simp [toByte, code]

@[simp] theorem toBytes_ofBytes (data : ByteArray) : toBytes (ofBytes data) = data := by
  simp [toBytes, ofBytes, Function.comp_def]

@[simp] theorem toText_ofText (text : String) : toText (ofText text) = text := by
  simp [toText, ofText]

end Octets

end GoldenSuite.Text
