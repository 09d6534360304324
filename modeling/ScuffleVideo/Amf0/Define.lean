import ScuffleVideo.Wire.Text

/-!
# AMF0 values

A value is introduced by a one-byte marker.  Only some of the markers have a
value behind them here; the others are known and refused.  Text travels as UTF-8
after a length, so a text is identified with its bytes.
-/

namespace ScuffleVideo.Amf0

open Wire

inductive Amf0Marker where
  | number
  | boolean
  | string
  | object
  | movieClipMarker
  | null
  | undefined
  | reference
  | ecmaArray
  | objectEnd
  | strictArray
  | date
  | longString
  | unsupported
  | recordset
  | xmlDocument
  | typedObject
  | avmPlusObject
  deriving DecidableEq, Repr

namespace Amf0Marker

/-- The byte of a marker. -/
def code : Amf0Marker → Nat
  | number => 0x00
  | boolean => 0x01
  | string => 0x02
  | object => 0x03
  | movieClipMarker => 0x04
  | null => 0x05
  | undefined => 0x06
  | reference => 0x07
  | ecmaArray => 0x08
  | objectEnd => 0x09
  | strictArray => 0x0a
  | date => 0x0b
  | longString => 0x0c
  | unsupported => 0x0d
  | recordset => 0x0e
  | xmlDocument => 0x0f
  | typedObject => 0x10
  | avmPlusObject => 0x11

/-- The marker with a given code, read from a byte or from a wider number. -/
def fromPrimitive : Nat → Option Amf0Marker
  | 0x00 => some number
  | 0x01 => some boolean
  | 0x02 => some string
  | 0x03 => some object
  | 0x04 => some movieClipMarker
  | 0x05 => some null
  | 0x06 => some undefined
  | 0x07 => some reference
  | 0x08 => some ecmaArray
  | 0x09 => some objectEnd
  | 0x0a => some strictArray
  | 0x0b => some date
  | 0x0c => some longString
  | 0x0d => some unsupported
  | 0x0e => some recordset
  | 0x0f => some xmlDocument
  | 0x10 => some typedObject
  | 0x11 => some avmPlusObject
  | _ => none

@[simp]
theorem fromPrimitive_code (marker : Amf0Marker) : fromPrimitive marker.code = some marker := by
  cases marker <;> rfl

theorem fromPrimitive_eq_some_iff {number : Nat} {marker : Amf0Marker} :
    fromPrimitive number = some marker ↔ number = marker.code := by
  constructor
  · intro known
    unfold fromPrimitive at known
    split at known <;> cases known <;> rfl
  · rintro rfl
    exact fromPrimitive_code marker

/-- A marker as the byte on the wire. -/
def byte (marker : Amf0Marker) : UInt8 := UInt8.ofNat marker.code

theorem fromPrimitive_byte_iff {byte : UInt8} {marker : Amf0Marker} :
    fromPrimitive byte.toNat = some marker ↔ byte = marker.byte := by
  rw [fromPrimitive_eq_some_iff]
  constructor
  · intro same
    rw [Amf0Marker.byte, ← same, UInt8.ofNat_toNat]
  · rintro rfl
    cases marker <;> rfl

end Amf0Marker

/-- A script value.  Numbers are kept as their 64-bit pattern. -/
inductive Amf0Value where
  | number (bits : UInt64)
  | boolean (value : Bool)
  | string (text : String)
  | object (properties : List (String × Amf0Value))
  | null
  | objectEnd
  | longString (text : String)

def Amf0Value.marker : Amf0Value → Amf0Marker
  | .boolean _ => .boolean
  | .number _ => .number
  | .string _ => .string
  | .object _ => .object
  | .null => .null
  | .objectEnd => .objectEnd
  | .longString _ => .longString

/-! ## Text -/

end ScuffleVideo.Amf0
