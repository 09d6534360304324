import ScuffleVideo.Amf0.Safety
import ScuffleVideo.Rtmp.Session

/-!
# Messages

A chunk is parsed by its message type.  A command is a name, a transaction
number, an object or null, and further values.  The parser first tries to read an
object; when that fails it tries null from wherever the attempt has left the
cursor.
-/

namespace ScuffleVideo.Rtmp

open Wire Wire.Reader Amf0 Amf0Decoder

inductive RtmpMessageData where
  | amf0Command (commandName transactionId commandObject : Amf0Value) (others : List Amf0Value)
  | amfData (data : Bytes)
  | setChunkSize (chunkSize : UInt32)
  | audioData (data : Bytes)
  | videoData (data : Bytes)

/-- How parsing ends other than by returning a message.  A halt of the AMF0
decoder is an error of the parser or a panic that goes through it. -/
inductive MessageError where
  | amf0Read (halt : Halt)
  | protocolControlMessage

namespace MessageParser

variable (shortRead : ShortRead)

/-- The object, or null from where the failed attempt stopped. -/
def objectOrNull : Reader Halt Amf0Value := fun payload position =>
  match decodeWithType shortRead .object payload position with
  | .ok result => .ok result
  | .error (.error _ stop) => decodeWithType shortRead .null payload stop
  | .error halt => .error halt

def parseCommand : Reader Halt RtmpMessageData := do
  let commandName ← decodeWithType shortRead .string
  let transactionId ← decodeWithType shortRead .number
  let commandObject ← objectOrNull shortRead
  let others ← decodeAll shortRead
  return .amf0Command commandName transactionId commandObject others

def parse (chunk : Chunk) : Except MessageError (Option RtmpMessageData) :=
  match chunk.messageHeader.msgTypeId with
  | .commandAMF0 =>
      match parseCommand shortRead chunk.payload 0 with
      | .ok (command, _) => .ok (some command)
      | .error halt => .error (.amf0Read halt)
  | .audio => .ok (some (.audioData chunk.payload))
  | .video => .ok (some (.videoData chunk.payload))
  | .setChunkSize =>
      match readSetChunkSize chunk.payload with
      | .ok chunkSize => .ok (some (.setChunkSize chunkSize))
      | .error _ => .error .protocolControlMessage
  | .dataAMF0 => .ok (some (.amfData chunk.payload))
  | .dataAMF3 => .ok (some (.amfData chunk.payload))
  | _ => .ok none

/-! ## Well-formed commands -/

/-- Values that are decoded one after the other up to the end of the payload. -/
inductive DecodesAll (payload : Bytes) : Nat → List Amf0Value → Prop
  | nil : DecodesAll payload payload.length []
  | cons {position stop : Nat} {value : Amf0Value} {values : List Amf0Value}
      (decoded : decode shortRead payload position = .ok (value, stop))
      (more : DecodesAll payload stop values) : DecodesAll payload position (value :: values)

/-- The payload is a string, a number, an object or null and further values, each
decoded from its first byte and ending where the next one starts. -/
inductive WellFormed (payload : Bytes) : RtmpMessageData → Prop
  | command {afterName afterId afterObject : Nat} {marker : Amf0Marker}
      {commandName transactionId commandObject : Amf0Value} {others : List Amf0Value}
      (isString : StandsAt payload 0 [Amf0Marker.string.byte])
      (name : decode shortRead payload 0 = .ok (commandName, afterName))
      (isNumber : StandsAt payload afterName [Amf0Marker.number.byte])
      (id : decode shortRead payload afterName = .ok (transactionId, afterId))
      (isObject : marker = .object ∨ marker = .null)
      (marked : StandsAt payload afterId [marker.byte])
      (object : decode shortRead payload afterId = .ok (commandObject, afterObject))
      (rest : DecodesAll shortRead payload afterObject others) :
      WellFormed payload (.amf0Command commandName transactionId commandObject others)

/-- A string, a number and a broken object that is left in front of a null
marker, behind which everything is well formed again. -/
def Misleads (payload : Bytes) : Prop :=
  ∃ (commandName transactionId : Amf0Value) (others : List Amf0Value)
    (afterName afterId stop : Nat),
    StandsAt payload 0 [Amf0Marker.string.byte] ∧
    Spells payload (.value commandName) 0 afterName ∧
    StandsAt payload afterName [Amf0Marker.number.byte] ∧
    Spells payload (.value transactionId) afterName afterId ∧
    StandsAt payload afterId [Amf0Marker.object.byte] ∧
    Fails shortRead payload .value afterId (.rejected stop) ∧
    StandsAt payload stop [Amf0Marker.null.byte] ∧
    Sequence payload others (stop + 1)

section Acceptance

variable {shortRead} {payload : Bytes} {position stop : Nat} {value : Amf0Value}

theorem decodesAll_iff {values : List Amf0Value} (within : position ≤ payload.length) :
    DecodesAll shortRead payload position values ↔ Sequence payload values position := by
  constructor
  · intro decoded
    induction decoded with
    | nil => exact .nil
    | cons decoded more ih =>
        have spelled := (decode_eq_ok_iff within).mp decoded
        exact .cons spelled (ih (spelled.bounds within).2)
  · intro sequence
    induction sequence with
    | nil => exact .nil
    | cons spelled more ih =>
        exact .cons ((decode_eq_ok_iff within).mpr spelled) (ih (spelled.bounds within).2)

/-- The ways in which the third value is accepted.  The second attempt starts in
front of another marker, or behind what a broken object has consumed. -/
inductive Attempted (shortRead : ShortRead) (payload : Bytes) (position : Nat) :
    Amf0Value → Nat → Prop
  | object {value : Amf0Value} {stop : Nat}
      (stands : StandsAt payload position [Amf0Marker.object.byte])
      (spelled : Spells payload (.value value) position stop) :
      Attempted shortRead payload position value stop
  | null (stands : StandsAt payload position [Amf0Marker.null.byte]) :
      Attempted shortRead payload position .null (position + 1)
  | misled {middle : Nat} (stands : StandsAt payload position [Amf0Marker.object.byte])
      (failed : Fails shortRead payload .value position (.rejected middle))
      (null : StandsAt payload middle [Amf0Marker.null.byte]) :
      Attempted shortRead payload position .null (middle + 1)

theorem objectOrNull_of_rejected
    (ended : EndsIn (decodeWithType shortRead .object) payload position (.rejected stop)) :
    objectOrNull shortRead payload position = decodeWithType shortRead .null payload stop := by
  obtain ⟨halt, failed, shown⟩ := ended
  cases shown
  rw [objectOrNull, failed]

theorem decodeNull_eq_ok_iff (within : position ≤ payload.length) :
    decodeWithType shortRead .null payload position = .ok (value, stop) ↔
      StandsAt payload position [Amf0Marker.null.byte] ∧ value = .null ∧ stop = position + 1 := by
  rw [decodeWithType_eq_ok_iff within]
  constructor
  · rintro ⟨stands, spelled⟩
    exact ⟨stands, (spells_iff_of_null stands).mp spelled⟩
  · rintro ⟨stands, same⟩
    exact ⟨stands, (spells_iff_of_null stands).mpr same⟩

theorem objectOrNull_of_attempted (attempted : Attempted shortRead payload position value stop)
    (within : position ≤ payload.length) :
    objectOrNull shortRead payload position = .ok (value, stop) := by
  cases attempted with
  | object stands spelled =>
      rw [objectOrNull, (decodeWithType_eq_ok_iff within).mpr ⟨stands, spelled⟩]
  | null stands =>
      have other := @decodeWithType_of_other shortRead _ _ .object _ stands (by decide)
      rw [objectOrNull_of_rejected other, decodeNull_eq_ok_iff within]
      exact ⟨stands, rfl, rfl⟩
  | misled stands failed null =>
      have ended := endsIn_of_eq (decodeWithType_of_marker stands) (decode_of_fails failed within)
      rw [objectOrNull_of_rejected ended, decodeNull_eq_ok_iff (failed.within within).2]
      exact ⟨null, rfl, rfl⟩

theorem attempted_of_object (stands : StandsAt payload position [Amf0Marker.object.byte])
    (within : position ≤ payload.length)
    (read : objectOrNull shortRead payload position = .ok (value, stop)) :
    Attempted shortRead payload position value stop := by
  rcases (settled shortRead payload .value position).value_cases with
    ⟨found, middle, spelled⟩ | ⟨ending, failed⟩
  · have same := (objectOrNull_of_attempted (.object stands spelled) within).symm.trans read
    cases same
    exact .object stands spelled
  · have ended := endsIn_of_eq (decodeWithType_of_marker stands) (decode_of_fails failed within)
    cases ending with
    | rejected middle =>
        rw [objectOrNull_of_rejected ended, decodeNull_eq_ok_iff (failed.within within).2] at read
        obtain ⟨null, rfl, rfl⟩ := read
        exact .misled stands failed null
    | overrun =>
        obtain ⟨halt, panicked, shown⟩ := ended
        cases shown
        rw [objectOrNull, panicked] at read
        cases read

theorem objectOrNull_eq_ok_iff (within : position ≤ payload.length) :
    objectOrNull shortRead payload position = .ok (value, stop) ↔
      Attempted shortRead payload position value stop := by
  refine ⟨fun read => ?_, fun attempted => objectOrNull_of_attempted attempted within⟩
  by_cases remaining : position < payload.length
  · obtain ⟨byte, stands⟩ := StandsAt.exists_byte remaining
    by_cases isObject : byte = Amf0Marker.object.byte
    · subst isObject
      exact attempted_of_object stands within read
    · have other := @decodeWithType_of_other shortRead _ _ .object _ stands isObject
      rw [objectOrNull_of_rejected other, decodeNull_eq_ok_iff within] at read
      obtain ⟨null, rfl, rfl⟩ := read
      exact .null null
  · obtain rfl : position = payload.length := by omega
    have ended := @decodeWithType_of_end shortRead payload _ .object (Nat.le_refl _)
    have place : shortRead.position payload payload.length = payload.length := by
      cases shortRead <;> rfl
    rw [objectOrNull_of_rejected ended, place, decodeNull_eq_ok_iff within] at read
    have present := read.1.le_length
    simp only [List.length_singleton] at present
    omega

theorem Attempted.le_length (attempted : Attempted shortRead payload position value stop)
    (within : position ≤ payload.length) : stop ≤ payload.length := by
  cases attempted with
  | object stands spelled => exact (spelled.bounds within).2
  | null stands => exact stands.le_length
  | misled stands failed null => exact null.le_length

/-- What the parser accepts: well-formed commands, and those with a third value
that only the second attempt accepts. -/
inductive Accepted (shortRead : ShortRead) (payload : Bytes) : RtmpMessageData → Prop
  | command {afterName afterId afterObject : Nat}
      {commandName transactionId commandObject : Amf0Value} {others : List Amf0Value}
      (isString : StandsAt payload 0 [Amf0Marker.string.byte])
      (name : Spells payload (.value commandName) 0 afterName)
      (isNumber : StandsAt payload afterName [Amf0Marker.number.byte])
      (id : Spells payload (.value transactionId) afterName afterId)
      (object : Attempted shortRead payload afterId commandObject afterObject)
      (rest : Sequence payload others afterObject) :
      Accepted shortRead payload (.amf0Command commandName transactionId commandObject others)

theorem accepted_of_parseCommand {command : RtmpMessageData}
    (read : parseCommand shortRead payload 0 = .ok (command, stop)) :
    Accepted shortRead payload command := by
  have start := Nat.zero_le payload.length
  obtain ⟨commandName, afterName, nameRead, read⟩ := bind_eq_ok_iff.mp read
  obtain ⟨isString, name⟩ := (decodeWithType_eq_ok_iff start).mp nameRead
  have nameBound := (name.bounds start).2
  obtain ⟨transactionId, afterId, idRead, read⟩ := bind_eq_ok_iff.mp read
  obtain ⟨isNumber, id⟩ := (decodeWithType_eq_ok_iff nameBound).mp idRead
  have idBound := (id.bounds nameBound).2
  obtain ⟨commandObject, afterObject, objectRead, read⟩ := bind_eq_ok_iff.mp read
  have object := (objectOrNull_eq_ok_iff idBound).mp objectRead
  obtain ⟨others, last, othersRead, read⟩ := bind_eq_ok_iff.mp read
  obtain ⟨rest, rfl⟩ := (decodeAll_eq_ok_iff (object.le_length idBound)).mp othersRead
  cases read
  exact .command isString name isNumber id object rest

theorem parseCommand_of_accepted {command : RtmpMessageData}
    (accepted : Accepted shortRead payload command) :
    parseCommand shortRead payload 0 = .ok (command, payload.length) := by
  have start := Nat.zero_le payload.length
  cases accepted with
  | command isString name isNumber id object rest =>
      have nameBound := (name.bounds start).2
      have idBound := (id.bounds nameBound).2
      rw [parseCommand, bind_ok ((decodeWithType_eq_ok_iff start).mpr ⟨isString, name⟩),
        bind_ok ((decodeWithType_eq_ok_iff nameBound).mpr ⟨isNumber, id⟩),
        bind_ok ((objectOrNull_eq_ok_iff idBound).mpr object),
        bind_ok ((decodeAll_eq_ok_iff (object.le_length idBound)).mpr ⟨rest, rfl⟩)]
      rfl

theorem accepted_of_wellFormed {command : RtmpMessageData}
    (wellFormed : WellFormed shortRead payload command) : Accepted shortRead payload command := by
  have start := Nat.zero_le payload.length
  cases wellFormed with
  | command isString name isNumber id isObject marked object rest =>
      have named := (decode_eq_ok_iff start).mp name
      have nameBound := (named.bounds start).2
      have numbered := (decode_eq_ok_iff nameBound).mp id
      have idBound := (numbered.bounds nameBound).2
      have third := (decode_eq_ok_iff idBound).mp object
      have thirdBound := (third.bounds idBound).2
      have sequence := (decodesAll_iff thirdBound).mp rest
      rcases isObject with rfl | rfl
      · exact .command isString named isNumber numbered (.object marked third) sequence
      · obtain ⟨rfl, rfl⟩ := (spells_iff_of_null marked).mp third
        exact .command isString named isNumber numbered (.null marked) sequence

/-- An accepted command is well formed or misleads the parser. -/
theorem wellFormed_or_misleads {command : RtmpMessageData}
    (accepted : Accepted shortRead payload command) :
    WellFormed shortRead payload command ∨ Misleads shortRead payload := by
  have start := Nat.zero_le payload.length
  cases accepted with
  | command isString named isNumber numbered object rest =>
      have nameBound := (named.bounds start).2
      have idBound := (numbered.bounds nameBound).2
      have name := @decode_of_spells shortRead _ _ _ _ named start
      have id := @decode_of_spells shortRead _ _ _ _ numbered nameBound
      have decoded := (@decodesAll_iff shortRead _ _ _ (object.le_length idBound)).mpr rest
      cases object with
      | object stands spelled =>
          exact .inl (.command isString name isNumber id (.inl rfl) stands
            (decode_of_spells spelled idBound) decoded)
      | null stands =>
          exact .inl (.command isString name isNumber id (.inr rfl) stands
            (decode_of_spells (.null stands) idBound) decoded)
      | misled stands failed null =>
          exact .inr ⟨_, _, _, _, _, _, isString, named, isNumber, numbered, stands, failed, null,
            rest⟩

/-- A misleading payload is accepted though no command is well formed there. -/
theorem accepted_of_misleads (misleads : Misleads shortRead payload) :
    ∃ command, Accepted shortRead payload command ∧ ¬ WellFormed shortRead payload command := by
  obtain ⟨commandName, transactionId, others, afterName, afterId, stop, isString, named, isNumber,
    numbered, stands, failed, null, rest⟩ := misleads
  have start := Nat.zero_le payload.length
  have nameBound := (named.bounds start).2
  have idBound := (numbered.bounds nameBound).2
  refine ⟨_, .command isString named isNumber numbered (.misled stands failed null) rest, ?_⟩
  intro wellFormed
  cases wellFormed with
  | command _ name _ id _ _ object _ =>
      have sameName := (decode_of_spells named start).symm.trans name
      cases sameName
      have sameId := (decode_of_spells numbered nameBound).symm.trans id
      cases sameId
      exact (decode_of_fails failed idBound).not_ok object

end Acceptance

theorem parse_command_iff {chunk : Chunk} (isCommand : chunk.messageHeader.msgTypeId = .commandAMF0)
    (message : Option RtmpMessageData) :
    parse shortRead chunk = .ok message ↔
      ∃ command, message = some command ∧ Accepted shortRead chunk.payload command := by
  unfold parse
  rw [isCommand]
  dsimp only
  cases read : parseCommand shortRead chunk.payload 0 with
  | error halt =>
      constructor
      · intro impossible
        cases impossible
      · rintro ⟨command, rfl, accepted⟩
        rw [parseCommand_of_accepted accepted] at read
        cases read
  | ok result =>
      obtain ⟨command, stop⟩ := result
      constructor
      · intro same
        cases same
        exact ⟨command, rfl, accepted_of_parseCommand read⟩
      · rintro ⟨other, rfl, accepted⟩
        rw [parseCommand_of_accepted accepted] at read
        cases read
        rfl

/-- The parser accepts exactly the well-formed commands, unless the payload
misleads it. -/
theorem parse_exact_iff (chunk : Chunk)
    (isCommand : chunk.messageHeader.msgTypeId = .commandAMF0) :
    (∀ message, parse shortRead chunk = .ok message ↔
        ∃ command, message = some command ∧ WellFormed shortRead chunk.payload command) ↔
      ¬ Misleads shortRead chunk.payload := by
  constructor
  · intro exact misleads
    obtain ⟨command, accepted, malformed⟩ := accepted_of_misleads misleads
    have parsed := (parse_command_iff shortRead isCommand (some command)).mpr
      ⟨command, rfl, accepted⟩
    obtain ⟨other, same, wellFormed⟩ := (exact (some command)).mp parsed
    cases same
    exact malformed wellFormed
  · intro straight message
    rw [parse_command_iff shortRead isCommand message]
    constructor
    · rintro ⟨command, rfl, accepted⟩
      exact ⟨command, rfl, (wellFormed_or_misleads accepted).resolve_right straight⟩
    · rintro ⟨command, rfl, wellFormed⟩
      exact ⟨command, rfl, accepted_of_wellFormed wellFormed⟩

/-- A command with an empty name, the number zero, and an object whose only
property is undefined and followed by a null marker. -/
def misleadingPayload : Bytes :=
  [0x02, 0x00, 0x00, 0x00, 0x00, 0x00, 0x00, 0x00, 0x00, 0x00, 0x00, 0x00,
    0x03, 0x00, 0x00, 0x06, 0x05]

theorem emptyText {data : Bytes} {position : Nat}
    (stands : StandsAt data position [0x00, 0x00]) : Text data 2 position "" (position + 2) :=
  ⟨[], by decide, stands, fromUtf8_asBytes "", rfl⟩

theorem misleadingPayload_misleads : Misleads shortRead misleadingPayload := by
  have standsAt : ∀ position count, position + count ≤ 17 → StandsAt misleadingPayload position
      ((misleadingPayload.drop position).take count) := fun _ _ present => StandsAt.of_le present
  have absent : ¬ StandsAt misleadingPayload 13 endMarker := fun present =>
    absurd ((standsAt 13 3 (by decide)).unique present rfl) (by decide)
  refine ⟨.string "", .number 0, [], 3, 12, 16, standsAt 0 1 (by decide), ?_,
    standsAt 3 1 (by decide), ?_, standsAt 12 1 (by decide), ?_, standsAt 16 1 (by decide), .nil⟩
  · exact .string (standsAt 0 1 (by decide)) (emptyText (standsAt 1 2 (by decide)))
  · exact .number (standsAt 3 9 (by decide))
  · exact .object (standsAt 12 1 (by decide)) (.value (.unended absent)
      (emptyText (standsAt 13 2 (by decide))) (.refused (standsAt 15 1 (by decide)) (by decide)))

def commandChunk (payload : Bytes) : Chunk := Chunk.new 3 0 .commandAMF0 0 payload

/-- The misleading payload is accepted, so acceptance is not exact. -/
theorem parse_inexact_of_misleading :
    ¬ ∀ message, parse .stays (commandChunk misleadingPayload) = .ok message ↔
      ∃ command, message = some command ∧ WellFormed .stays misleadingPayload command := by
  intro exact
  obtain ⟨command, accepted, malformed⟩ :=
    accepted_of_misleads (misleadingPayload_misleads .stays)
  have parsed :=
    (@parse_command_iff .stays (commandChunk misleadingPayload) rfl (some command)).mpr
      ⟨command, rfl, accepted⟩
  obtain ⟨other, same, wellFormed⟩ := (exact (some command)).mp parsed
  cases same
  exact malformed wellFormed

theorem parse_exact_iff_misleading :
    (commandChunk misleadingPayload).messageHeader.msgTypeId = .commandAMF0 ∧
      ¬ ∀ message, parse .drains (commandChunk misleadingPayload) = .ok message ↔
        ∃ command, message = some command ∧ WellFormed .drains misleadingPayload command :=
  ⟨rfl, fun exact => (parse_exact_iff .drains (commandChunk misleadingPayload) rfl).mp exact
    (misleadingPayload_misleads .drains)⟩

end MessageParser

end ScuffleVideo.Rtmp
