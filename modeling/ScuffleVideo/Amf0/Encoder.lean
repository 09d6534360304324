import ScuffleVideo.Amf0.Define

/-!
# AMF0 encoder

The encoder appends a value to a growable buffer, so nothing but the value itself
can make it fail.  A text that is a value has its length checked against the
two-byte length field; the key of an object property is written with its length
cast to that field.
-/

namespace ScuffleVideo.Amf0

open Wire

inductive Amf0WriteError where
  | normalStringTooLong
  | unsupportedType (marker : Amf0Marker)
  deriving DecidableEq, Repr

namespace Amf0Encoder

def objectEof : Bytes := toBytesBE 3 Amf0Marker.objectEnd.code

def encodeNumber (bits : UInt64) : Bytes := Amf0Marker.number.byte :: beU64 bits

def encodeBool (value : Bool) : Bytes := [Amf0Marker.boolean.byte, value.toUInt8]

/-- A length cast to two bytes and the text behind it. -/
def lengthPrefixed (text : String) : Bytes :=
  toBytesBE 2 (asBytes text).length ++ asBytes text

def encodeString (text : String) : Except Amf0WriteError Bytes :=
  if 65535 < (asBytes text).length then .error .normalStringTooLong
  else .ok (Amf0Marker.string.byte :: lengthPrefixed text)

def encodeNull : Bytes := [Amf0Marker.null.byte]

mutual

def encode : Amf0Value → Except Amf0WriteError Bytes
  | .boolean value => .ok (encodeBool value)
  | .null => .ok encodeNull
  | .number bits => .ok (encodeNumber bits)
  | .string text => encodeString text
  | .object properties => do
      let written ← encodeProperties properties
      return Amf0Marker.object.byte :: (written ++ objectEof)
  | .objectEnd => .error (.unsupportedType .objectEnd)
  | .longString _ => .error (.unsupportedType .longString)

/-- The loop over the properties of an object. -/
def encodeProperties : List (String × Amf0Value) → Except Amf0WriteError Bytes
  | [] => .ok []
  | (key, value) :: properties => do
      let written ← encode value
      let rest ← encodeProperties properties
      return lengthPrefixed key ++ written ++ rest

end

end Amf0Encoder

/-! ## What can be encoded -/

/-- The text has a length that two bytes can hold. -/
def Fits (text : String) : Prop := (asBytes text).length ≤ 65535

/-- The encoder has a form for this value, which is not an object. -/
def HasForm : Amf0Value → Prop
  | .string text => Fits text
  | .objectEnd => False
  | .longString _ => False
  | _ => True

mutual

/-- A property of every key and a property of every value that is not an object,
at any depth. -/
def Amf0Value.Every (keys : String → Prop) (leaves : Amf0Value → Prop) : Amf0Value → Prop
  | .object properties => EveryProperty keys leaves properties
  | value => leaves value

def EveryProperty (keys : String → Prop) (leaves : Amf0Value → Prop) :
    List (String × Amf0Value) → Prop
  | [] => True
  | (key, value) :: properties =>
      keys key ∧ value.Every keys leaves ∧ EveryProperty keys leaves properties

end

/-- No long string, no object end, and no text or key longer than its length
field can say. -/
def Representable (value : Amf0Value) : Prop := value.Every Fits HasForm

/-- Every object key fits its length field. -/
def KeysFit (value : Amf0Value) : Prop := value.Every Fits fun _ => True

/-- Everything but the object keys can be encoded. -/
def LeavesEncodable (value : Amf0Value) : Prop := value.Every (fun _ => True) HasForm

mutual

theorem every_and_iff {keys : String → Prop} {leaves : Amf0Value → Prop} :
    ∀ value : Amf0Value, value.Every keys leaves ↔
      value.Every keys (fun _ => True) ∧ value.Every (fun _ => True) leaves
  | .object properties => by
      simp only [Amf0Value.Every]
      exact everyProperty_and_iff properties
  | .number _ => by simp [Amf0Value.Every]
  | .boolean _ => by simp [Amf0Value.Every]
  | .string _ => by simp [Amf0Value.Every]
  | .null => by simp [Amf0Value.Every]
  | .objectEnd => by simp [Amf0Value.Every]
  | .longString _ => by simp [Amf0Value.Every]

theorem everyProperty_and_iff {keys : String → Prop} {leaves : Amf0Value → Prop} :
    ∀ properties : List (String × Amf0Value), EveryProperty keys leaves properties ↔
      EveryProperty keys (fun _ => True) properties ∧
        EveryProperty (fun _ => True) leaves properties
  | [] => by simp [EveryProperty]
  | (key, value) :: properties => by
      simp only [EveryProperty]
      rw [every_and_iff value, everyProperty_and_iff properties]
      constructor
      · rintro ⟨key, ⟨keys, leaves⟩, restKeys, restLeaves⟩
        exact ⟨⟨key, keys, restKeys⟩, trivial, leaves, restLeaves⟩
      · rintro ⟨⟨key, keys, restKeys⟩, _, leaves, restLeaves⟩
        exact ⟨key, ⟨keys, leaves⟩, restKeys, restLeaves⟩

end

theorem representable_iff (value : Amf0Value) :
    Representable value ↔ KeysFit value ∧ LeavesEncodable value :=
  every_and_iff value

namespace Amf0Encoder

theorem encodeString_ok_iff (text : String) :
    (∃ bytes, encodeString text = .ok bytes) ↔ Fits text := by
  unfold encodeString Fits
  split
  · rename_i long
    constructor
    · rintro ⟨bytes, impossible⟩
      cases impossible
    · intro fits
      omega
  · rename_i fits
    exact ⟨fun _ => Nat.le_of_not_lt fits, fun _ => ⟨_, rfl⟩⟩

mutual

/-- The encoder looks at every value but at no key. -/
theorem encode_ok_iff : ∀ value : Amf0Value,
    (∃ bytes, encode value = .ok bytes) ↔ LeavesEncodable value
  | .object properties => by
      have properties := encodeProperties_ok_iff properties
      simp only [LeavesEncodable, Amf0Value.Every, encode]
      rw [← properties]
      constructor
      · rintro ⟨bytes, written⟩
        obtain ⟨inner, done, _⟩ := sequence_eq_ok_iff.mp written
        exact ⟨inner, done⟩
      · rintro ⟨inner, done⟩
        exact ⟨_, by rw [done]; rfl⟩
  | .number _ => by simp [LeavesEncodable, Amf0Value.Every, HasForm, encode]
  | .boolean _ => by simp [LeavesEncodable, Amf0Value.Every, HasForm, encode]
  | .string text => by
      simpa [LeavesEncodable, Amf0Value.Every, HasForm, encode] using encodeString_ok_iff text
  | .null => by simp [LeavesEncodable, Amf0Value.Every, HasForm, encode]
  | .objectEnd => by simp [LeavesEncodable, Amf0Value.Every, HasForm, encode]
  | .longString _ => by simp [LeavesEncodable, Amf0Value.Every, HasForm, encode]

theorem encodeProperties_ok_iff : ∀ properties : List (String × Amf0Value),
    (∃ bytes, encodeProperties properties = .ok bytes) ↔
      EveryProperty (fun _ => True) HasForm properties
  | [] => by simp [EveryProperty, encodeProperties]
  | (key, value) :: properties => by
      have head := encode_ok_iff value
      have tail := encodeProperties_ok_iff properties
      simp only [EveryProperty, encodeProperties, true_and]
      unfold LeavesEncodable at head
      rw [← head, ← tail]
      constructor
      · rintro ⟨bytes, written⟩
        obtain ⟨first, firstDone, written⟩ := sequence_eq_ok_iff.mp written
        obtain ⟨rest, restDone, _⟩ := sequence_eq_ok_iff.mp written
        exact ⟨⟨first, firstDone⟩, rest, restDone⟩
      · rintro ⟨⟨first, firstDone⟩, rest, restDone⟩
        exact ⟨_, by rw [firstDone, restDone]; rfl⟩

end

/-- Encoding succeeds exactly on the representable values, unless a key does not
fit while everything else can be encoded. -/
theorem encode_exact_iff (value : Amf0Value) :
    ((∃ bytes, encode value = .ok bytes) ↔ Representable value) ↔
      KeysFit value ∨ ¬ LeavesEncodable value := by
  rw [encode_ok_iff, representable_iff]
  constructor
  · intro exact
    by_cases leaves : LeavesEncodable value
    · exact .inl (exact.mp leaves).1
    · exact .inr leaves
  · rintro (keys | leaves)
    · exact ⟨fun leaves => ⟨keys, leaves⟩, fun both => both.2⟩
    · exact ⟨fun encodable => absurd encodable leaves, fun both => both.2⟩

/-- A text of one-byte characters. -/
def textOfLength : Nat → String
  | 0 => ""
  | count + 1 => (textOfLength count).push 'a'

theorem length_textOfLength (count : Nat) : (asBytes (textOfLength count)).length = count := by
  have size : (textOfLength count).utf8ByteSize = count := by
    induction count with
    | zero => rfl
    | succ count ih =>
        rw [textOfLength, String.utf8ByteSize_push, ih]
        rfl
  exact size

theorem not_representable_of_long {key : String} (size : (asBytes key).length = 65536) :
    ¬ Representable (.object [(key, .null)]) := by
  simp only [Representable, Amf0Value.Every, EveryProperty, Fits, size]
  omega

theorem encode_of_long {key : String} (size : (asBytes key).length = 65536) :
    encode (.object [(key, .null)]) =
      .ok (0x03 :: 0x00 :: 0x00 :: (asBytes key ++ [0x05, 0x00, 0x00, 0x09])) := by
  have header : lengthPrefixed key = 0x00 :: 0x00 :: asBytes key := by
    rw [lengthPrefixed, size]
    rfl
  simp only [encode, encodeProperties, header]
  simp [bind, Except.bind, pure, Except.pure, Amf0Marker.byte, Amf0Marker.code, encodeNull,
    objectEof, toBytesBE]

/-- An object whose key is one byte too long is encoded. -/
theorem encode_inexact_of_longKey :
    ¬ ((∃ bytes, encode (.object [(textOfLength 65536, .null)]) = .ok bytes) ↔
      Representable (.object [(textOfLength 65536, .null)])) := by
  have size := length_textOfLength 65536
  intro exact
  exact not_representable_of_long size (exact.mp ⟨_, encode_of_long size⟩)

end Amf0Encoder

end ScuffleVideo.Amf0
