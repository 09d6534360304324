import ScuffleVideo.Amf0.Decoder

/-!
# The grammar the decoder follows

`Spells` says which bytes of a slice are which value.  `Fails` says how reading
goes wrong where they are none: at a position the cursor is left at, or by a text
whose declared length goes past the end of the slice.  Both are about bytes at
positions only.  From every position exactly one of the two applies, and the
decoder does what it says.
-/

namespace ScuffleVideo.Amf0

open Wire Wire.Reader

/-- What is read: a value, or properties up to an end marker or up to a count. -/
inductive Shape where
  | value
  | properties (limit : Option Nat)

/-- What has been read. -/
inductive Phrase where
  | value (value : Amf0Value)
  | properties (limit : Option Nat) (properties : List (String × Amf0Value))

def Phrase.shape : Phrase → Shape
  | .value _ => .value
  | .properties limit _ => .properties limit

/-- How reading goes wrong. -/
inductive Ending where
  | rejected (position : Nat)
  | overrun
  deriving DecidableEq, Repr

/-- The three bytes that end an object. -/
def endMarker : Bytes := [0x00, 0x00, 0x09]

/-- A text behind its length, from one position to another. -/
def Text (data : Bytes) (width position : Nat) (text : String) (stop : Nat) : Prop :=
  ∃ bytes : Bytes, bytes.length < 256 ^ width ∧
    StandsAt data position (toBytesBE width bytes.length ++ bytes) ∧
    fromUtf8 bytes = some text ∧ stop = position + width + bytes.length

/-- Another property is expected here; what remains after it. -/
inductive Continues (data : Bytes) (position : Nat) : Option Nat → Option Nat → Prop
  | unended (absent : ¬ StandsAt data position endMarker) : Continues data position none none
  | counted {count : Nat} : Continues data position (some (count + 1)) (some count)

/-- An array may be closed by an end marker or by nothing. -/
inductive Closes (data : Bytes) (position : Nat) : Nat → Prop
  | marked (present : StandsAt data position endMarker) : Closes data position (position + 3)
  | unmarked (absent : ¬ StandsAt data position endMarker) : Closes data position position

inductive Spells (data : Bytes) : Phrase → Nat → Nat → Prop
  | number {position : Nat} {bits : UInt64}
      (stands : StandsAt data position (0x00 :: beU64 bits)) :
      Spells data (.value (.number bits)) position (position + 9)
  | boolean {position : Nat} {byte : UInt8} (stands : StandsAt data position [0x01, byte]) :
      Spells data (.value (.boolean (decide (0 < byte)))) position (position + 2)
  | string {position stop : Nat} {text : String} (stands : StandsAt data position [0x02])
      (spelled : Text data 2 (position + 1) text stop) :
      Spells data (.value (.string text)) position stop
  | object {position stop : Nat} {properties : List (String × Amf0Value)}
      (stands : StandsAt data position [0x03])
      (spelled : Spells data (.properties none properties) (position + 1) stop) :
      Spells data (.value (.object properties)) position stop
  | null {position : Nat} (stands : StandsAt data position [0x05]) :
      Spells data (.value .null) position (position + 1)
  | ecmaArray {position middle stop : Nat} {count : UInt32}
      {properties : List (String × Amf0Value)}
      (stands : StandsAt data position (0x08 :: beU32 count))
      (spelled : Spells data (.properties (some count.toNat) properties) (position + 5) middle)
      (closed : Closes data middle stop) :
      Spells data (.value (.object properties)) position stop
  | longString {position stop : Nat} {text : String} (stands : StandsAt data position [0x0c])
      (spelled : Text data 4 (position + 1) text stop) :
      Spells data (.value (.longString text)) position stop
  | ended {position : Nat} (stands : StandsAt data position endMarker) :
      Spells data (.properties none []) position (position + 3)
  | complete {position : Nat} : Spells data (.properties (some 0) []) position position
  | property {position middle next stop : Nat} {limit remaining : Option Nat} {key : String}
      {value : Amf0Value} {properties : List (String × Amf0Value)}
      (continued : Continues data position limit remaining)
      (keyed : Text data 2 position key middle)
      (valued : Spells data (.value value) middle next)
      (others : Spells data (.properties remaining properties) next stop) :
      Spells data (.properties limit ((key, value) :: properties)) position stop

/-- A marker that introduces no value the decoder can read. -/
def Refused (byte : UInt8) : Prop :=
  byte ∉ [0x00, 0x01, 0x02, 0x03, 0x05, 0x08, (0x0c : UInt8)]

instance : DecidablePred Refused := fun byte =>
  inferInstanceAs (Decidable (byte ∉ [0x00, 0x01, 0x02, 0x03, 0x05, 0x08, (0x0c : UInt8)]))

section Failing

variable (shortRead : ShortRead) (data : Bytes)

inductive TextFails (width position : Nat) : Ending → Prop
  | short (missing : data.length < position + width) :
      TextFails width position (.rejected (shortRead.position data position))
  | invalid {bytes : Bytes} (small : bytes.length < 256 ^ width)
      (stands : StandsAt data position (toBytesBE width bytes.length ++ bytes))
      (bad : fromUtf8 bytes = none) :
      TextFails width position (.rejected (position + width + bytes.length))
  | overrun {length : Nat} (small : length < 256 ^ width)
      (stands : StandsAt data position (toBytesBE width length))
      (past : data.length < position + width + length) :
      TextFails width position .overrun

inductive Fails : Shape → Nat → Ending → Prop
  | noMarker {position : Nat} (missing : data.length ≤ position) :
      Fails .value position (.rejected (shortRead.position data position))
  | refused {position : Nat} {byte : UInt8} (stands : StandsAt data position [byte])
      (refused : Refused byte) : Fails .value position (.rejected (position + 1))
  | number {position : Nat} (stands : StandsAt data position [0x00])
      (missing : data.length < position + 9) :
      Fails .value position (.rejected (shortRead.position data (position + 1)))
  | boolean {position : Nat} (stands : StandsAt data position [0x01])
      (missing : data.length < position + 2) :
      Fails .value position (.rejected (shortRead.position data (position + 1)))
  | string {position : Nat} {ending : Ending} (stands : StandsAt data position [0x02])
      (failed : TextFails shortRead data 2 (position + 1) ending) :
      Fails .value position ending
  | object {position : Nat} {ending : Ending} (stands : StandsAt data position [0x03])
      (failed : Fails (.properties none) (position + 1) ending) :
      Fails .value position ending
  | ecmaLength {position : Nat} (stands : StandsAt data position [0x08])
      (missing : data.length < position + 5) :
      Fails .value position (.rejected (shortRead.position data (position + 1)))
  | ecmaArray {position : Nat} {count : UInt32} {ending : Ending}
      (stands : StandsAt data position (0x08 :: beU32 count))
      (failed : Fails (.properties (some count.toNat)) (position + 5) ending) :
      Fails .value position ending
  | longString {position : Nat} {ending : Ending} (stands : StandsAt data position [0x0c])
      (failed : TextFails shortRead data 4 (position + 1) ending) :
      Fails .value position ending
  | key {position : Nat} {limit remaining : Option Nat} {ending : Ending}
      (continued : Continues data position limit remaining)
      (failed : TextFails shortRead data 2 position ending) :
      Fails (.properties limit) position ending
  | value {position middle : Nat} {limit remaining : Option Nat} {key : String}
      {ending : Ending} (continued : Continues data position limit remaining)
      (keyed : Text data 2 position key middle) (failed : Fails .value middle ending) :
      Fails (.properties limit) position ending
  | later {position middle next : Nat} {limit remaining : Option Nat} {key : String}
      {value : Amf0Value} {ending : Ending}
      (continued : Continues data position limit remaining)
      (keyed : Text data 2 position key middle) (valued : Spells data (.value value) middle next)
      (failed : Fails (.properties remaining) next ending) :
      Fails (.properties limit) position ending

/-- Values that stand one after the other up to the end of the slice. -/
inductive Sequence : List Amf0Value → Nat → Prop
  | nil : Sequence [] data.length
  | cons {position middle : Nat} {value : Amf0Value} {values : List Amf0Value}
      (spelled : Spells data (.value value) position middle) (more : Sequence values middle) :
      Sequence (value :: values) position

/-- Values that stand one after the other and then a failure before the end. -/
inductive SequenceFails : Nat → Ending → Prop
  | here {position : Nat} {ending : Ending} (remaining : position < data.length)
      (failed : Fails shortRead data .value position ending) : SequenceFails position ending
  | later {position middle : Nat} {value : Amf0Value} {ending : Ending}
      (spelled : Spells data (.value value) position middle)
      (failed : SequenceFails middle ending) : SequenceFails position ending

/-- The iterator, called again and again, comes to a text that goes past the end.
An error does not stop it: the next call starts where the error left the cursor. -/
inductive IterationOverruns : Nat → Prop
  | here {position : Nat} (remaining : position < data.length)
      (failed : Fails shortRead data .value position .overrun) : IterationOverruns position
  | accepted {position middle : Nat} {value : Amf0Value}
      (spelled : Spells data (.value value) position middle)
      (later : IterationOverruns middle) : IterationOverruns position
  | rejected {position middle : Nat} (remaining : position < data.length)
      (failed : Fails shortRead data .value position (.rejected middle))
      (later : IterationOverruns middle) : IterationOverruns position

end Failing

/-! ## Progress -/

theorem Text.bounds {data : Bytes} {width position stop : Nat} {text : String}
    (spelled : Text data width position text stop) :
    position + width ≤ stop ∧ stop ≤ data.length := by
  obtain ⟨bytes, small, stands, valid, rfl⟩ := spelled
  have present := stands.le_length
  rw [List.length_append, length_toBytesBE] at present
  omega

theorem Closes.bounds {data : Bytes} {position stop : Nat} (closed : Closes data position stop)
    (within : position ≤ data.length) : position ≤ stop ∧ stop ≤ data.length := by
  cases closed with
  | marked present => exact ⟨Nat.le_add_right _ _, present.le_length⟩
  | unmarked absent => exact ⟨Nat.le_refl _, within⟩

/-- The least number of bytes a phrase takes. -/
def Shape.least : Shape → Nat
  | .value => 1
  | .properties _ => 0

theorem Spells.bounds {data : Bytes} {phrase : Phrase} {position stop : Nat}
    (spelled : Spells data phrase position stop) (within : position ≤ data.length) :
    position + phrase.shape.least ≤ stop ∧ stop ≤ data.length := by
  induction spelled with
  | number stands =>
      have present := stands.le_length
      simp only [List.length_cons, length_beU64] at present
      simp only [Phrase.shape, Shape.least]
      omega
  | boolean stands =>
      have present := stands.le_length
      simp only [List.length_cons, List.length_nil] at present
      simp only [Phrase.shape, Shape.least]
      omega
  | string stands spelled =>
      have bounds := spelled.bounds
      simp only [Phrase.shape, Shape.least]
      omega
  | object stands spelled ih =>
      have bounds := ih stands.le_length
      simp only [Phrase.shape, Shape.least] at bounds ⊢
      omega
  | null stands => exact ⟨Nat.le_refl _, stands.le_length⟩
  | ecmaArray stands spelled closed ih =>
      have present := stands.le_length
      simp only [List.length_cons, length_beU32] at present
      have bounds := ih present
      have closing := closed.bounds bounds.2
      simp only [Phrase.shape, Shape.least] at bounds ⊢
      omega
  | longString stands spelled =>
      have bounds := spelled.bounds
      simp only [Phrase.shape, Shape.least]
      omega
  | ended stands => exact ⟨Nat.le_add_right _ _, stands.le_length⟩
  | complete => exact ⟨Nat.le_refl _, within⟩
  | property continued keyed valued others valuedBounds othersBounds =>
      have key := keyed.bounds
      have value := valuedBounds key.2
      have rest := othersBounds value.2
      simp only [Phrase.shape, Shape.least] at value rest ⊢
      omega

/-- A rejection leaves the cursor at or behind `low`, inside the slice. -/
def Ending.Within (data : Bytes) (low : Nat) : Ending → Prop
  | .rejected position => low ≤ position ∧ position ≤ data.length
  | .overrun => True

theorem Ending.Within.weaken {data : Bytes} {low lower : Nat} {ending : Ending}
    (within : ending.Within data low) (below : lower ≤ low) : ending.Within data lower := by
  cases ending with
  | rejected position => exact ⟨Nat.le_trans below within.1, within.2⟩
  | overrun => trivial

theorem ShortRead.position_within {data : Bytes} {position : Nat} (shortRead : ShortRead)
    (within : position ≤ data.length) :
    (Ending.rejected (shortRead.position data position)).Within data position := by
  cases shortRead with
  | stays => exact ⟨Nat.le_refl _, within⟩
  | drains => exact ⟨within, Nat.le_refl _⟩

theorem TextFails.within {shortRead : ShortRead} {data : Bytes} {width position : Nat}
    {ending : Ending} (failed : TextFails shortRead data width position ending)
    (within : position ≤ data.length) : ending.Within data position := by
  cases failed with
  | short missing => exact shortRead.position_within within
  | invalid small stands bad =>
      have present := stands.le_length
      rw [List.length_append, length_toBytesBE] at present
      simp only [Ending.Within]
      omega
  | overrun small stands past => trivial

/-- A failed value leaves the cursor behind the marker it started from, if there
was one; a failed list of properties leaves it no earlier than it was. -/
theorem Fails.within {shortRead : ShortRead} {data : Bytes} {shape : Shape} {position : Nat}
    {ending : Ending} (failed : Fails shortRead data shape position ending)
    (within : position ≤ data.length) :
    ending.Within data (min (position + shape.least) data.length) := by
  induction failed with
  | noMarker missing =>
      exact (shortRead.position_within within).weaken (Nat.le_trans (Nat.min_le_right _ _) missing)
  | refused stands refused => exact ⟨Nat.min_le_left _ _, stands.le_length⟩
  | number stands missing =>
      exact (shortRead.position_within stands.le_length).weaken (Nat.min_le_left _ _)
  | boolean stands missing =>
      exact (shortRead.position_within stands.le_length).weaken (Nat.min_le_left _ _)
  | string stands failed => exact (failed.within stands.le_length).weaken (Nat.min_le_left _ _)
  | object stands failed ih => exact ih stands.le_length
  | ecmaLength stands missing =>
      exact (shortRead.position_within stands.le_length).weaken (Nat.min_le_left _ _)
  | ecmaArray stands failed ih =>
      have present := stands.le_length
      simp only [List.length_cons, length_beU32] at present
      exact (ih present).weaken (by simp only [Shape.least]; omega)
  | longString stands failed =>
      exact (failed.within stands.le_length).weaken (Nat.min_le_left _ _)
  | key continued failed => exact (failed.within within).weaken (Nat.min_le_left _ _)
  | value continued keyed failed ih =>
      have keyBounds := keyed.bounds
      exact (ih keyBounds.2).weaken (by simp only [Shape.least]; omega)
  | later continued keyed valued failed ih =>
      have keyBounds := keyed.bounds
      have valueBounds := valued.bounds keyBounds.2
      simp only [Phrase.shape, Shape.least] at valueBounds
      exact (ih valueBounds.2).weaken (by simp only [Shape.least]; omega)

end ScuffleVideo.Amf0
