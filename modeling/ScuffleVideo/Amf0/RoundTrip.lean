import ScuffleVideo.Amf0.Encoder
import ScuffleVideo.Amf0.Recognition

/-!
# Values survive the wire

What the encoder writes for a representable value spells that value in the
decoder's grammar, wherever it stands.  An end marker is never found in front of
a property: a key that is not empty has a length that is not zero, and an empty
key is followed by the marker of a value.
-/

namespace ScuffleVideo.Amf0

open Wire Wire.Reader Amf0Encoder Amf0Decoder

/-- A value begins with its marker, which is not the one that ends an object. -/
theorem encode_head {value : Amf0Value} {bytes : Bytes} (encoded : encode value = .ok bytes) :
    ∃ marker rest, bytes = marker :: rest ∧ marker ≠ 0x09 := by
  cases value with
  | number bits =>
      cases encoded
      exact ⟨_, _, rfl, by decide⟩
  | boolean flag =>
      cases encoded
      exact ⟨_, _, rfl, by decide⟩
  | string text =>
      rw [encode, encodeString] at encoded
      split at encoded
      · cases encoded
      · cases encoded
        exact ⟨_, _, rfl, by decide⟩
  | object properties =>
      rw [encode] at encoded
      obtain ⟨written, _, done⟩ := sequence_eq_ok_iff.mp encoded
      cases done
      exact ⟨_, _, rfl, by decide⟩
  | null =>
      cases encoded
      exact ⟨_, _, rfl, by decide⟩
  | objectEnd => cases encoded
  | longString text => cases encoded

theorem text_of_lengthPrefixed {data : Bytes} {position : Nat} {text : String}
    (fits : Fits text) (stands : StandsAt data position (lengthPrefixed text)) :
    Text data 2 position text (position + (lengthPrefixed text).length) := by
  refine ⟨asBytes text, Nat.lt_succ_of_le fits, stands, fromUtf8_asBytes text, ?_⟩
  rw [lengthPrefixed, List.length_append, length_toBytesBE, Nat.add_assoc]

/-- Where a property stands no end marker does. -/
theorem not_endMarker_of_property {data rest : Bytes} {position : Nat} {key : String}
    {marker : UInt8} (fits : Fits key) (value : marker ≠ 0x09)
    (stands : StandsAt data position (lengthPrefixed key ++ marker :: rest)) :
    ¬ StandsAt data position endMarker := by
  intro ended
  rw [lengthPrefixed, List.append_assoc, StandsAt.append_iff, length_toBytesBE] at stands
  have split : StandsAt data position (toBytesBE 2 0 ++ [0x09]) := ended
  rw [StandsAt.append_iff, length_toBytesBE] at split
  have same := stands.1.unique split.1 (by rw [length_toBytesBE, length_toBytesBE])
  have small : (asBytes key).length < 256 ^ 2 := Nat.lt_succ_of_le fits
  have length := congrArg ofBytesBE same
  rw [ofBytesBE_toBytesBE, ofBytesBE_toBytesBE, Nat.mod_eq_of_lt small] at length
  rw [List.eq_nil_of_length_eq_zero length, List.nil_append, StandsAt.cons_iff] at stands
  exact value (List.cons.inj (stands.2.1.unique split.2 rfl)).1

mutual

/-- What is written for a value spells it. -/
theorem spells_encode {data : Bytes} : ∀ (value : Amf0Value) (position : Nat) (bytes : Bytes),
    Representable value → encode value = .ok bytes → StandsAt data position bytes →
      Spells data (.value value) position (position + bytes.length)
  | .number bits, position, bytes, _, encoded, stands => by
      cases encoded
      exact .number stands
  | .boolean flag, position, bytes, _, encoded, stands => by
      cases encoded
      have spelled := Spells.boolean stands
      cases flag <;> exact spelled
  | .string text, position, bytes, representable, encoded, stands => by
      have fits : Fits text := representable
      rw [encode, encodeString, if_neg (Nat.not_lt.mpr fits)] at encoded
      cases encoded
      obtain ⟨marker, body⟩ := StandsAt.cons_iff.mp stands
      have spelled := Spells.string marker (text_of_lengthPrefixed fits body)
      rwa [Nat.add_right_comm] at spelled
  | .object properties, position, bytes, representable, encoded, stands => by
      rw [encode] at encoded
      obtain ⟨written, done, result⟩ := sequence_eq_ok_iff.mp encoded
      cases result
      obtain ⟨marker, body⟩ := StandsAt.cons_iff.mp stands
      have spelled := spells_encodeProperties properties (position + 1) written
        (by simpa only [Representable, Amf0Value.Every] using representable) done body
      rw [List.length_cons, List.length_append]
      have shifted := Spells.object marker spelled
      rwa [show position + 1 + written.length + 3 = position + (written.length + 3 + 1) by omega]
        at shifted
  | .null, position, bytes, _, encoded, stands => by
      cases encoded
      exact .null stands
  | .objectEnd, _, _, _, encoded, _ => by cases encoded
  | .longString _, _, _, _, encoded, _ => by cases encoded

theorem spells_encodeProperties {data : Bytes} :
    ∀ (properties : List (String × Amf0Value)) (position : Nat) (bytes : Bytes),
      EveryProperty Fits HasForm properties → encodeProperties properties = .ok bytes →
        StandsAt data position (bytes ++ objectEof) →
          Spells data (.properties none properties) position (position + bytes.length + 3)
  | [], position, bytes, _, encoded, stands => by
      cases encoded
      exact .ended stands
  | (key, value) :: properties, position, bytes, representable, encoded, stands => by
      rw [EveryProperty] at representable
      obtain ⟨fits, valueRepresentable, others⟩ := representable
      rw [encodeProperties] at encoded
      obtain ⟨written, done, encoded⟩ := sequence_eq_ok_iff.mp encoded
      obtain ⟨rest, restDone, result⟩ := sequence_eq_ok_iff.mp encoded
      cases result
      rw [List.append_assoc, List.append_assoc] at stands
      have whole := stands
      rw [StandsAt.append_iff, StandsAt.append_iff] at stands
      obtain ⟨keyStands, valueStands, restStands⟩ := stands
      have absent : ¬ StandsAt data position endMarker := by
        obtain ⟨marker, tail, rfl, other⟩ := encode_head done
        exact not_endMarker_of_property fits other whole
      have valued := spells_encode value _ written valueRepresentable done valueStands
      have remaining := spells_encodeProperties properties _ rest others restDone restStands
      have spelled := Spells.property (.unended absent) (text_of_lengthPrefixed fits keyStands)
        valued remaining
      rw [List.length_append, List.length_append]
      simp only [Nat.add_assoc] at spelled ⊢
      exact spelled

end

theorem exists_encode {value : Amf0Value} (representable : Representable value) :
    ∃ bytes, encode value = .ok bytes :=
  (encode_ok_iff value).mpr ((representable_iff value).mp representable).2

theorem sequence_encode (values : List Amf0Value)
    (representable : ∀ value ∈ values, Representable value) :
    ∃ encodings : List Bytes, values.mapM encode = .ok encodings ∧
      ∀ before : Bytes, Sequence (before ++ encodings.flatten) values before.length := by
  induction values with
  | nil =>
      refine ⟨[], rfl, fun before => ?_⟩
      have nothing : before ++ [].flatten = before := List.append_nil before
      rw [nothing]
      exact .nil
  | cons value values ih =>
      have first := representable value List.mem_cons_self
      obtain ⟨bytes, done⟩ := exists_encode first
      obtain ⟨encodings, others, sequence⟩ :=
        ih fun other member => representable other (List.mem_cons_of_mem value member)
      refine ⟨bytes :: encodings, by rw [List.mapM_cons, done, others]; rfl, fun before => ?_⟩
      have more := sequence (before ++ bytes)
      rw [List.length_append] at more
      rw [List.flatten_cons, ← List.append_assoc]
      exact .cons (spells_encode value _ bytes first done ⟨before, encodings.flatten, rfl, rfl⟩) more

/-- A representable value is encoded, and with anything behind its bytes the
decoder returns it and stops where its bytes end.  The encodings of a list of
values, one after the other, are decoded to that list. -/
theorem decode_encode (shortRead : ShortRead) (values : List Amf0Value)
    (representable : ∀ value ∈ values, Representable value) :
    (∀ value ∈ values, ∃ bytes, encode value = .ok bytes ∧ ∀ suffix : Bytes,
        decode shortRead (bytes ++ suffix) 0 = .ok (value, bytes.length)) ∧
      ∃ encodings : List Bytes, values.mapM encode = .ok encodings ∧
        decodeAll shortRead encodings.flatten 0 = .ok (values, encodings.flatten.length) := by
  constructor
  · intro value member
    have valueRepresentable := representable value member
    obtain ⟨bytes, done⟩ := exists_encode valueRepresentable
    refine ⟨bytes, done, fun suffix => ?_⟩
    have spelled := spells_encode value 0 bytes valueRepresentable done ⟨[], suffix, rfl, rfl⟩
    rw [Nat.zero_add] at spelled
    exact decode_of_spells spelled (Nat.zero_le _)
  · obtain ⟨encodings, done, sequence⟩ := sequence_encode values representable
    exact ⟨encodings, done, decodeAll_of_sequence (sequence []) (Nat.zero_le _)⟩

/-- An object with an empty key, and a number behind it. -/
theorem decode_encode_object :
    (∀ value ∈ [Amf0Value.object [("", .null)], .number 0], ∃ bytes, encode value = .ok bytes ∧
        ∀ suffix : Bytes, decode .stays (bytes ++ suffix) 0 = .ok (value, bytes.length)) ∧
      ∃ encodings : List Bytes,
        [Amf0Value.object [("", .null)], .number 0].mapM encode = .ok encodings ∧
          decodeAll .stays encodings.flatten 0 =
            .ok ([Amf0Value.object [("", .null)], .number 0], encodings.flatten.length) := by
  apply decode_encode
  intro value member
  simp only [List.mem_cons, List.not_mem_nil, or_false] at member
  rcases member with rfl | rfl
  · simp [Representable, Amf0Value.Every, EveryProperty, HasForm, Fits, asBytes]
  · simp [Representable, Amf0Value.Every, HasForm]

end ScuffleVideo.Amf0
