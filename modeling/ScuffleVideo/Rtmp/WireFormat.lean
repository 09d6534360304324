import ScuffleVideo.Rtmp.DecoderSteps

/-!
# Chunks on the wire

What a peer may send: the three forms of the basic header, short and extended
time fields, and the four message headers with the fields each of them carries.
A message header resolves against the previous header of its chunk stream; the
decoder reads exactly the bytes of a header and obtains what it resolves to.
-/

namespace ScuffleVideo.Rtmp

open Wire Wire.Reader

/-! ## Basic headers -/

inductive BasicForm where
  | one
  | two
  | three
  deriving DecidableEq, Repr

namespace BasicForm

/-- The chunk stream ids a form can express. -/
def Fits : BasicForm → UInt32 → Prop
  | .one, csid => 2 ≤ csid.toNat ∧ csid.toNat < 64
  | .two, csid => 64 ≤ csid.toNat ∧ csid.toNat < 64 + 256
  | .three, csid => 64 ≤ csid.toNat ∧ csid.toNat < 64 + 65536

instance (form : BasicForm) (csid : UInt32) : Decidable (form.Fits csid) := by
  cases form <;> exact inferInstanceAs (Decidable (_ ∧ _))

def bytes (form : BasicForm) (format : ChunkType) (csid : UInt32) : Bytes :=
  match form with
  | .one => [format.toU8 <<< 6 ||| csid.toUInt8]
  | .two => [format.toU8 <<< 6, (csid - 64).toUInt8]
  | .three => [format.toU8 <<< 6 ||| 1, ((csid - 64) % 256).toUInt8, ((csid - 64) / 256).toUInt8]

end BasicForm

/-- The first byte splits back into the format and the six low bits. -/
theorem firstByte_split (format : ChunkType) {low : UInt8} (small : low.toNat < 64) :
    ((format.toU8 <<< 6 ||| low) >>> 6) &&& 0b00000011 = format.toU8 ∧
      (format.toU8 <<< 6 ||| low) &&& 0b00111111 = low := by
  have table : ∀ number < 64,
      ((format.toU8 <<< 6 ||| UInt8.ofNat number) >>> 6) &&& 0b00000011 = format.toU8 ∧
        (format.toU8 <<< 6 ||| UInt8.ofNat number) &&& 0b00111111 = UInt8.ofNat number := by
    cases format <;> decide
  have entry := table low.toNat small
  rwa [UInt8.ofNat_toNat] at entry

/-- A basic header is its first byte followed by the bytes the low bits call
for. -/
theorem readHeader_reads_of_low (format : ChunkType) {low : UInt8} (small : low.toNat < 64)
    {rest : Bytes} {csid : UInt32}
    (read : Reads (ChunkDecoder.readChunkStreamId low.toUInt32) rest csid) :
    Reads ChunkDecoder.readHeader ((format.toU8 <<< 6 ||| low) :: rest) ⟨format, csid⟩ := by
  obtain ⟨high, lowBits⟩ := firstByte_split format small
  change Reads _ ([_] ++ ([] ++ rest)) _
  refine (Reads.readU8 _).bind ?_
  rw [high, lowBits]
  dsimp only
  rw [ChunkType.fromU8_toU8]
  exact (Reads.orFail _ format).bind (read.map _)

theorem readHeader_reads {form : BasicForm} {csid : UInt32} (format : ChunkType)
    (fits : form.Fits csid) :
    Reads ChunkDecoder.readHeader (form.bytes format csid) ⟨format, csid⟩ := by
  cases form with
  | one =>
      obtain ⟨least, most⟩ := fits
      have low : csid.toUInt8.toNat = csid.toNat := by
        rw [UInt32.toNat_toUInt8]
        omega
      have widened : csid.toUInt8.toUInt32 = csid := by
        rw [← UInt32.toNat_inj, UInt8.toNat_toUInt32, low]
      refine readHeader_reads_of_low format (by omega) ?_
      rw [widened, ChunkDecoder.readChunkStreamId, if_neg, if_neg]
      · exact Reads.pure csid
      · rintro rfl
        exact absurd least (by decide)
      · rintro rfl
        exact absurd least (by decide)
  | two =>
      obtain ⟨least, most⟩ := fits
      have shifted : (csid - 64).toNat = csid.toNat - 64 :=
        UInt32.toNat_sub_of_le _ _ (UInt32.le_iff_toNat_le.mpr least)
      have value : 64 + (csid - 64).toUInt8.toUInt32 = csid := by
        rw [← UInt32.toNat_inj, UInt32.toNat_add, UInt8.toNat_toUInt32, UInt32.toNat_toUInt8,
          shifted]
        change (64 + _) % 2 ^ 32 = _
        omega
      have first : format.toU8 <<< 6 = format.toU8 <<< 6 ||| 0 := by cases format <;> rfl
      rw [BasicForm.bytes, first]
      refine readHeader_reads_of_low format (by decide) ?_
      have read := (Reads.readU8 (ε := Option DecodeFault) (csid - 64).toUInt8).map
        fun second => 64 + second.toUInt32
      rwa [value] at read
  | three =>
      obtain ⟨least, most⟩ := fits
      have shifted : (csid - 64).toNat = csid.toNat - 64 :=
        UInt32.toNat_sub_of_le _ _ (UInt32.le_iff_toNat_le.mpr least)
      have value : 64 + ((csid - 64) % 256).toUInt8.toUInt32 +
          ((csid - 64) / 256).toUInt8.toUInt32 * 256 = csid := by
        rw [← UInt32.toNat_inj]
        simp only [UInt32.toNat_add, UInt32.toNat_mul, UInt8.toNat_toUInt32,
          UInt32.toNat_toUInt8, UInt32.toNat_mod, UInt32.toNat_div, shifted]
        change ((64 + (csid.toNat - 64) % 256 % 256) % 2 ^ 32 +
          (csid.toNat - 64) / 256 % 256 * 256 % 2 ^ 32) % 2 ^ 32 = _
        omega
      refine readHeader_reads_of_low format (by decide) ?_
      change Reads (readU8 >>= fun second => do
        let third ← readU8
        return 64 + second.toUInt32 + third.toUInt32 * 256) ([_] ++ [_]) csid
      refine (Reads.readU8 _).bind ?_
      have read := (Reads.readU8 (ε := Option DecodeFault) ((csid - 64) / 256).toUInt8).map
        fun third => 64 + ((csid - 64) % 256).toUInt8.toUInt32 + third.toUInt32 * 256
      rwa [value] at read

/-! ## Time fields -/

/-- A timestamp or a delta: three bytes below their marker value, or the marker
and four bytes after the rest of the header. -/
inductive TimeField where
  | short (value : UInt32) (below : value.toNat < 0xFFFFFF)
  | extended (value : UInt32)
  deriving DecidableEq

namespace TimeField

def value : TimeField → UInt32
  | .short value _ => value
  | .extended value => value

def isExtended : TimeField → Bool
  | .short _ _ => false
  | .extended _ => true

/-- The number in the three bytes. -/
def marker : TimeField → UInt32
  | .short value _ => value
  | .extended _ => 0xFFFFFF

def field (time : TimeField) : Bytes := toBytesBE 3 time.marker.toNat

def extension : TimeField → Bytes
  | .short _ _ => []
  | .extended value => toBytesBE 4 value.toNat

/-- The shortest field for a value. -/
def ofValue (value : UInt32) : TimeField :=
  if below : value.toNat < 0xFFFFFF then .short value below else .extended value

@[simp]
theorem value_ofValue (value : UInt32) : (ofValue value).value = value := by
  unfold ofValue
  split <;> rfl

theorem field_reads (time : TimeField) :
    Reads (readU24 : HeaderReader UInt32) time.field time.marker := by
  refine Reads.readU24 ?_
  cases time with
  | short value below => exact Nat.lt_trans below (by decide)
  | extended value => exact (by decide : (0xFFFFFF : UInt32).toNat < 2 ^ 24)

theorem extension_reads (time : TimeField) :
    Reads (ChunkDecoder.readExtended time.marker) time.extension
      (time.value, time.isExtended) := by
  unfold ChunkDecoder.readExtended
  cases time with
  | short value below =>
      rw [if_neg]
      · exact Reads.pure _
      · rintro rfl
        exact absurd below (by decide)
  | extended value =>
      change Reads (if (0xFFFFFF : UInt32) = 0xFFFFFF then _ else _) _ _
      rw [if_pos rfl]
      exact (Reads.readU32 value).map _

end TimeField

/-! ## Message headers -/

inductive WireHeader where
  | type0 (time : TimeField) (msgLength : UInt32) (msgTypeId : MessageTypeID)
      (msgStreamId : UInt32)
  | type1 (delta : TimeField) (msgLength : UInt32) (msgTypeId : MessageTypeID)
  | type2 (delta : TimeField)
  | type3 (extension : Option UInt32)

namespace WireHeader

def format : WireHeader → ChunkType
  | .type0 _ _ _ _ => .type0
  | .type1 _ _ _ => .type1
  | .type2 _ => .type2
  | .type3 _ => .type3

def bytes : WireHeader → Bytes
  | .type0 time msgLength msgTypeId msgStreamId =>
      time.field ++ (toBytesBE 3 msgLength.toNat ++ ([msgTypeId.toU8] ++
        (toBytesLE 4 msgStreamId.toNat ++ time.extension)))
  | .type1 delta msgLength msgTypeId =>
      delta.field ++ (toBytesBE 3 msgLength.toNat ++ ([msgTypeId.toU8] ++ delta.extension))
  | .type2 delta => delta.field ++ delta.extension
  | .type3 none => []
  | .type3 (some extension) => toBytesBE 4 extension.toNat

/-- The header a chunk stands for after the given previous header, provided
that header exists, the length is allowed and the time does not overflow. -/
def resolve : WireHeader → Option ChunkMessageHeader → Option ChunkMessageHeader
  | .type0 time msgLength msgTypeId msgStreamId, _ =>
      if msgLength.toNat ≤ Limits.maxPartialChunkSize then
        some ⟨time.value, msgLength, msgTypeId, msgStreamId, time.isExtended⟩
      else none
  | .type1 delta msgLength msgTypeId, some previous =>
      if msgLength.toNat ≤ Limits.maxPartialChunkSize ∧
          previous.timestamp.toNat + delta.value.toNat < 2 ^ 32 then
        some ⟨previous.timestamp + delta.value, msgLength, msgTypeId, previous.msgStreamId,
          delta.isExtended⟩
      else none
  | .type2 delta, some previous =>
      if previous.timestamp.toNat + delta.value.toNat < 2 ^ 32 then
        some ⟨previous.timestamp + delta.value, previous.msgLength, previous.msgTypeId,
          previous.msgStreamId, delta.isExtended⟩
      else none
  | .type3 extension, some previous =>
      if extension.isSome = previous.wasExtendedTimestamp then some previous else none
  | _, none => none

/-- The ways in which a header resolves. -/
inductive Resolves : WireHeader → Option ChunkMessageHeader → ChunkMessageHeader → Prop
  | type0 {previous : Option ChunkMessageHeader} (time : TimeField) {msgLength : UInt32}
      (msgTypeId : MessageTypeID) (msgStreamId : UInt32)
      (small : msgLength.toNat ≤ Limits.maxPartialChunkSize) :
      Resolves (.type0 time msgLength msgTypeId msgStreamId) previous
        ⟨time.value, msgLength, msgTypeId, msgStreamId, time.isExtended⟩
  | type1 (previous : ChunkMessageHeader) (delta : TimeField) {msgLength : UInt32}
      (msgTypeId : MessageTypeID) (small : msgLength.toNat ≤ Limits.maxPartialChunkSize)
      (fits : previous.timestamp.toNat + delta.value.toNat < 2 ^ 32) :
      Resolves (.type1 delta msgLength msgTypeId) (some previous)
        ⟨previous.timestamp + delta.value, msgLength, msgTypeId, previous.msgStreamId,
          delta.isExtended⟩
  | type2 (previous : ChunkMessageHeader) (delta : TimeField)
      (fits : previous.timestamp.toNat + delta.value.toNat < 2 ^ 32) :
      Resolves (.type2 delta) (some previous)
        ⟨previous.timestamp + delta.value, previous.msgLength, previous.msgTypeId,
          previous.msgStreamId, delta.isExtended⟩
  | type3 (previous : ChunkMessageHeader) {extension : Option UInt32}
      (repeated : extension.isSome = previous.wasExtendedTimestamp) :
      Resolves (.type3 extension) (some previous) previous

theorem resolve_cases {wire : WireHeader} {previous : Option ChunkMessageHeader}
    {header : ChunkMessageHeader} (resolved : wire.resolve previous = some header) :
    wire.Resolves previous header := by
  cases wire with
  | type0 time msgLength msgTypeId msgStreamId =>
      obtain ⟨small, same⟩ := Option.ite_none_right_eq_some.mp resolved
      cases same
      exact .type0 time msgTypeId msgStreamId small
  | type1 delta msgLength msgTypeId =>
      cases previous with
      | none => cases resolved
      | some previous =>
          obtain ⟨⟨small, fits⟩, same⟩ := Option.ite_none_right_eq_some.mp resolved
          cases same
          exact .type1 previous delta msgTypeId small fits
  | type2 delta =>
      cases previous with
      | none => cases resolved
      | some previous =>
          obtain ⟨fits, same⟩ := Option.ite_none_right_eq_some.mp resolved
          cases same
          exact .type2 previous delta fits
  | type3 extension =>
      cases previous with
      | none => cases resolved
      | some previous =>
          obtain ⟨repeated, same⟩ := Option.ite_none_right_eq_some.mp resolved
          cases same
          exact .type3 _ repeated

end WireHeader

theorem readMsgLength_reads {msgLength : UInt32}
    (small : msgLength.toNat ≤ Limits.maxPartialChunkSize) :
    Reads ChunkDecoder.readMsgLength (toBytesBE 3 msgLength.toNat) msgLength := by
  refine (Reads.readU24 (Nat.lt_of_le_of_lt small (by decide))).finish ?_
  rw [if_neg (Nat.not_lt_of_le small)]
  exact Reads.pure msgLength

theorem readMsgTypeId_reads (msgTypeId : MessageTypeID) :
    Reads ChunkDecoder.readMsgTypeId [msgTypeId.toU8] msgTypeId := by
  refine (Reads.readU8 _).finish ?_
  rw [MessageTypeID.fromU8_toU8]
  exact Reads.orFail _ _

theorem previousHeader_reads {decoder : ChunkDecoder} {csid : UInt32}
    {previous : ChunkMessageHeader}
    (found : decoder.previousChunkHeaders.lookup csid = some previous) :
    Reads (decoder.previousHeader csid) [] previous := by
  rw [ChunkDecoder.previousHeader, found]
  exact Reads.orFail _ _

/-- The addition of the Type2 branch fails exactly when it overflows in a build
that traps. -/
theorem addTimestamp_apply (checks : OverflowChecks) (previous delta : UInt32) (buffer : Bytes)
    (position : Nat) :
    ChunkDecoder.addTimestamp checks previous delta buffer position =
      if checks = .off ∨ previous.toNat + delta.toNat < 2 ^ 32 then
        .ok (previous + delta, position)
      else .error (some (.overflow .timestamp)) := by
  unfold ChunkDecoder.addTimestamp
  cases checks with
  | off => rfl
  | on =>
      by_cases fits : previous.toNat + delta.toNat < 2 ^ 32
      · rw [if_pos (Or.inr fits)]
        dsimp only
        rw [if_pos fits]
        rfl
      · have overflows : ¬ (OverflowChecks.on = .off ∨ previous.toNat + delta.toNat < 2 ^ 32) := by
          rintro (impossible | sum)
          · cases impossible
          · exact fits sum
        rw [if_neg overflows]
        dsimp only
        rw [if_neg fits]
        rfl

section DeltaHeaders

variable {decoder : ChunkDecoder} {csid : UInt32} {previous : ChunkMessageHeader}

/-- A Type1 header adds its delta unless the sum overflows. -/
theorem readType1_reads (checks : OverflowChecks)
    (found : decoder.previousChunkHeaders.lookup csid = some previous) (delta : TimeField)
    {msgLength : UInt32} (small : msgLength.toNat ≤ Limits.maxPartialChunkSize)
    (msgTypeId : MessageTypeID) :
    Reads (decoder.readMessageHeader checks ⟨.type1, csid⟩)
      (WireHeader.type1 delta msgLength msgTypeId).bytes
      ⟨ChunkDecoder.checkedTimestamp previous.timestamp delta.value, msgLength, msgTypeId,
        previous.msgStreamId, delta.isExtended⟩ := by
  refine delta.field_reads.bind ?_
  refine (readMsgLength_reads small).bind ?_
  refine (readMsgTypeId_reads msgTypeId).bind ?_
  refine delta.extension_reads.finish ?_
  exact (previousHeader_reads found).finish (Reads.pure _)

/-- A Type2 header adds its delta, whatever the sum. -/
theorem readType2_apply (checks : OverflowChecks)
    (found : decoder.previousChunkHeaders.lookup csid = some previous) (delta : TimeField)
    (before after : Bytes) :
    decoder.readMessageHeader checks ⟨.type2, csid⟩
        (before ++ (WireHeader.type2 delta).bytes ++ after) before.length =
      if checks = .off ∨ previous.timestamp.toNat + delta.value.toNat < 2 ^ 32 then
        .ok (⟨previous.timestamp + delta.value, previous.msgLength, previous.msgTypeId,
          previous.msgStreamId, delta.isExtended⟩,
          before.length + (WireHeader.type2 delta).bytes.length)
      else .error (some (.overflow .timestamp)) := by
  have fields : Reads (readU24 >>= fun field => ChunkDecoder.readExtended field >>= fun extended =>
      decoder.previousHeader csid >>= fun held => pure (extended, held))
      (WireHeader.type2 delta).bytes ((delta.value, delta.isExtended), previous) :=
    delta.field_reads.bind
      (delta.extension_reads.finish ((previousHeader_reads found).finish (Reads.pure _)))
  obtain ⟨field, afterField, fieldRead, rest⟩ := bind_eq_ok_iff.mp (fields before after)
  obtain ⟨extended, afterExtended, extendedRead, rest⟩ := bind_eq_ok_iff.mp rest
  obtain ⟨held, position, heldRead, last⟩ := bind_eq_ok_iff.mp rest
  cases last
  change (readU24 >>= _) _ _ = _
  rw [bind_ok fieldRead, bind_ok extendedRead]
  dsimp only
  rw [bind_ok heldRead, bind_apply, addTimestamp_apply]
  split
  · rename_i sum
    split at sum
    · cases sum
    · cases sum
      rename_i overflows
      rw [if_neg overflows]
  · rename_i sum
    split at sum
    · cases sum
      rename_i fits
      rw [if_pos fits]
      rfl
    · cases sum

end DeltaHeaders

/-- The decoder reads a message header as what it resolves to. -/
theorem readMessageHeader_reads {checks : OverflowChecks} {decoder : ChunkDecoder}
    {csid : UInt32} {wire : WireHeader} {messageHeader : ChunkMessageHeader}
    (resolved : wire.resolve (decoder.previousChunkHeaders.lookup csid) = some messageHeader) :
    Reads (decoder.readMessageHeader checks ⟨wire.format, csid⟩) wire.bytes messageHeader := by
  generalize found : decoder.previousChunkHeaders.lookup csid = previous at resolved
  cases WireHeader.resolve_cases resolved with
  | type0 time msgTypeId msgStreamId small =>
      refine time.field_reads.bind ?_
      refine (readMsgLength_reads small).bind ?_
      refine (readMsgTypeId_reads msgTypeId).bind ?_
      refine (Reads.readU32LE msgStreamId).bind ?_
      exact time.extension_reads.finish (Reads.pure _)
  | type1 previous delta msgTypeId small fits =>
      have read := readType1_reads checks found delta small msgTypeId
      rwa [ChunkDecoder.checkedTimestamp, if_pos fits] at read
  | type2 previous delta fits =>
      intro before after
      exact (readType2_apply checks found delta before after).trans (if_pos (.inr fits))
  | @type3 _ extension repeated =>
      change Reads (decoder.previousHeader csid >>= fun previous => _)
        ([] ++ (WireHeader.type3 extension).bytes) _
      refine (previousHeader_reads found).bind ?_
      rw [← repeated]
      cases extension with
      | none => exact Reads.pure _
      | some extension => exact (Reads.readU32 extension).map _

/-! ## Chunks -/

structure WireChunk where
  form : BasicForm
  csid : UInt32
  header : WireHeader
  payload : Bytes

namespace WireChunk

def bytes (chunk : WireChunk) : Bytes :=
  chunk.form.bytes chunk.header.format chunk.csid ++ chunk.header.bytes ++ chunk.payload

def basicHeader (chunk : WireChunk) : ChunkBasicHeader := ⟨chunk.header.format, chunk.csid⟩

end WireChunk

namespace ChunkDecoder

/-- Without underflow the range takes what remains of the message, up to the
chunk size. -/
theorem getPayloadRange_of_le {checks : OverflowChecks} {decoder : ChunkDecoder}
    {header : ChunkBasicHeader} {messageHeader : ChunkMessageHeader} {received : Nat}
    (held : decoder.receivedLength (header.chunkStreamId, messageHeader.msgStreamId) = received)
    (enough : received ≤ messageHeader.msgLength.toNat) (buffer : Bytes) (position : Nat) :
    decoder.getPayloadRange checks header messageHeader buffer position =
      .ok ((position,
          position + min (messageHeader.msgLength.toNat - received) decoder.maxChunkSize),
        position + min (messageHeader.msgLength.toNat - received) decoder.maxChunkSize) := by
  have word : messageHeader.msgLength.toNat < 2 ^ 64 :=
    Nat.lt_trans messageHeader.msgLength.toNat_lt (by decide)
  unfold getPayloadRange
  dsimp only
  rw [held, remainingLength_of_le enough word]
  rfl

/-- A chunk that carries as much of its message as the chunk size allows is
read as one frame and stored. -/
theorem iteration_wireChunk {checks : OverflowChecks} {decoder : ChunkDecoder}
    {chunk : WireChunk} {messageHeader : ChunkMessageHeader} {received : Nat}
    (fits : chunk.form.Fits chunk.csid)
    (resolved : chunk.header.resolve (decoder.previousChunkHeaders.lookup chunk.csid) =
      some messageHeader)
    (held : decoder.receivedLength (chunk.csid, messageHeader.msgStreamId) = received)
    (enough : received ≤ messageHeader.msgLength.toNat)
    (size : chunk.payload.length =
      min (messageHeader.msgLength.toNat - received) decoder.maxChunkSize)
    (rest : Bytes) :
    decoder.iteration checks (chunk.bytes ++ rest) =
      decoder.storeChunk chunk.basicHeader messageHeader chunk.payload rest := by
  obtain ⟨head, headers_eq⟩ : ∃ head,
      head = chunk.form.bytes chunk.header.format chunk.csid ++ chunk.header.bytes := ⟨_, rfl⟩
  have whole : chunk.bytes ++ rest = head ++ (chunk.payload ++ rest) := by
    rw [WireChunk.bytes, ← headers_eq, List.append_assoc]
  have headers : Reads
      (readHeader >>= fun header => decoder.readMessageHeader checks header >>= fun found =>
        pure (header, found)) head (chunk.basicHeader, messageHeader) := by
    rw [headers_eq]
    exact (readHeader_reads chunk.header.format fits).bind
      ((readMessageHeader_reads resolved).map _)
  have frame : decoder.readFrame checks (chunk.bytes ++ rest) 0 =
      .ok (⟨chunk.basicHeader, messageHeader, head.length, head.length + chunk.payload.length⟩,
        head.length + chunk.payload.length) := by
    obtain ⟨header, middle, headerRead, messageRead⟩ :=
      bind_eq_ok_iff.mp (headers.run_append (chunk.payload ++ rest))
    obtain ⟨found, stop, messageRead, paired⟩ := bind_eq_ok_iff.mp messageRead
    cases paired
    rw [whole, readFrame, bind_ok headerRead, bind_ok messageRead,
      bind_ok (getPayloadRange_of_le held enough _ _), ← size]
    rfl
  rw [iteration, frame]
  dsimp only
  have within : ¬ head.length + chunk.payload.length > (chunk.bytes ++ rest).length := by
    rw [whole, ← List.append_assoc, List.length_append, List.length_append]
    exact Nat.not_lt_of_le (Nat.le_add_right _ _)
  rw [if_neg within, whole]
  have payload : (((head ++ (chunk.payload ++ rest)).take (head.length + chunk.payload.length)).take
      (head.length + chunk.payload.length)).drop head.length = chunk.payload := by
    rw [List.take_take, Nat.min_self, ← List.append_assoc, ← List.length_append, List.take_left,
      List.drop_left]
  have left : (head ++ (chunk.payload ++ rest)).drop (head.length + chunk.payload.length) =
      rest := by
    rw [← List.append_assoc, ← List.length_append, List.drop_left]
  rw [payload, left]

end ChunkDecoder

end ScuffleVideo.Rtmp
