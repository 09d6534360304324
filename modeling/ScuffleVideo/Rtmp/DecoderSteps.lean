import ScuffleVideo.Rtmp.Decoder
import ScuffleVideo.Wire.FiniteMap

/-!
# Rounds of the reading loop

One round either leaves the decoder and the buffer alone, or consumes the chunk
at the front of the buffer and stores it.  The loop equation of `readChunk`
follows, free of its fuel.
-/

namespace ScuffleVideo.Rtmp

open Wire Wire.Reader

namespace Iteration

/-- The decoder left behind by a round. -/
def decoder : Iteration → ChunkDecoder
  | .returns _ decoder _ => decoder
  | .continues decoder _ => decoder

/-- The buffer left behind by a round. -/
def buffer : Iteration → Bytes
  | .returns _ _ buffer => buffer
  | .continues _ buffer => buffer

def isContinues : Iteration → Bool
  | .returns _ _ _ => false
  | .continues _ _ => true

theorem eq_continues {round : Iteration} (goesOn : round.isContinues = true) :
    round = .continues round.decoder round.buffer := by
  cases round with
  | returns result decoder buffer => cases goesOn
  | continues decoder buffer => rfl

end Iteration

namespace ChunkDecoder

/-! ## Updates -/

section Updates

variable (decoder : ChunkDecoder) (chunkStreamId : UInt32)
  (messageHeader : ChunkMessageHeader) (key : UInt32 × UInt32) (partialChunk : Bytes)

@[simp]
theorem insertHeader_partialChunks :
    (decoder.insertHeader chunkStreamId messageHeader).partialChunks = decoder.partialChunks :=
  rfl

@[simp]
theorem insertHeader_maxChunkSize :
    (decoder.insertHeader chunkStreamId messageHeader).maxChunkSize = decoder.maxChunkSize :=
  rfl

@[simp]
theorem insertPartial_previousChunkHeaders :
    (decoder.insertPartial key partialChunk).previousChunkHeaders =
      decoder.previousChunkHeaders := rfl

@[simp]
theorem insertPartial_maxChunkSize :
    (decoder.insertPartial key partialChunk).maxChunkSize = decoder.maxChunkSize := rfl

@[simp]
theorem removePartial_previousChunkHeaders :
    (decoder.removePartial key).previousChunkHeaders = decoder.previousChunkHeaders := rfl

@[simp]
theorem removePartial_maxChunkSize :
    (decoder.removePartial key).maxChunkSize = decoder.maxChunkSize := rfl

@[simp]
theorem lookup_insertHeader :
    (decoder.insertHeader chunkStreamId messageHeader).previousChunkHeaders.lookup
      chunkStreamId = some messageHeader :=
  AList.lookup_insert _

theorem lookup_insertHeader_ne {other : UInt32} (different : other ≠ chunkStreamId) :
    (decoder.insertHeader chunkStreamId messageHeader).previousChunkHeaders.lookup other =
      decoder.previousChunkHeaders.lookup other :=
  AList.lookup_insert_ne different

/-- `headerCount` is the number of headers held after the insertion. -/
theorem length_keys_insertHeader :
    (decoder.insertHeader chunkStreamId messageHeader).previousChunkHeaders.keys.length =
      decoder.headerCount chunkStreamId := by
  unfold headerCount
  split
  · rename_i held
    exact FiniteMap.length_keys_insert_of_mem _ (AList.lookup_isSome.mp held)
  · rename_i absent
    exact FiniteMap.length_keys_insert_of_notMem _
      (fun held => absent (AList.lookup_isSome.mpr held))

@[simp]
theorem receivedLength_insertHeader :
    (decoder.insertHeader chunkStreamId messageHeader).receivedLength key =
      decoder.receivedLength key := rfl

@[simp]
theorem receivedLength_insertPartial :
    (decoder.insertPartial key partialChunk).receivedLength key = partialChunk.length := by
  rw [receivedLength, insertPartial, AList.lookup_insert]
  rfl

theorem receivedLength_insertPartial_ne {other : UInt32 × UInt32} (different : other ≠ key) :
    (decoder.insertPartial key partialChunk).receivedLength other =
      decoder.receivedLength other := by
  rw [receivedLength, insertPartial, AList.lookup_insert_ne different, receivedLength]

@[simp]
theorem receivedLength_removePartial :
    (decoder.removePartial key).receivedLength key = 0 := by
  rw [receivedLength, removePartial, AList.lookup_erase]
  rfl

theorem receivedLength_removePartial_ne {other : UInt32 × UInt32} (different : other ≠ key) :
    (decoder.removePartial key).receivedLength other = decoder.receivedLength other := by
  rw [receivedLength, removePartial, AList.lookup_erase_ne different, receivedLength]

theorem openPartial_of_held {decoder : ChunkDecoder} {key : UInt32 × UInt32}
    {partialChunk : Bytes} (held : decoder.partialChunks.lookup key = some partialChunk) :
    decoder.openPartial key = some (decoder, partialChunk) := by
  rw [openPartial, held]

theorem openPartial_of_absent {decoder : ChunkDecoder} {key : UInt32 × UInt32}
    (absent : decoder.partialChunks.lookup key = none)
    (room : decoder.partialChunks.keys.length < Limits.maxPartialChunkCount) :
    decoder.openPartial key = some (decoder.insertPartial key [], []) := by
  rw [openPartial, absent]
  exact if_neg (Nat.not_le_of_lt room)

/-- Opening a slot adds at most an empty payload under its key. -/
theorem openPartial_eq_some {decoder opened : ChunkDecoder} {key : UInt32 × UInt32}
    {partialChunk : Bytes} (found : decoder.openPartial key = some (opened, partialChunk)) :
    opened.previousChunkHeaders = decoder.previousChunkHeaders ∧
    partialChunk.length = decoder.receivedLength key ∧
    ∀ other, opened.receivedLength other = decoder.receivedLength other := by
  unfold openPartial at found
  cases held : decoder.partialChunks.lookup key with
  | some stored =>
      rw [held] at found
      cases found
      exact ⟨rfl, by rw [receivedLength, held]; rfl, fun _ => rfl⟩
  | none =>
      rw [held] at found
      dsimp only at found
      split at found
      · cases found
      · cases found
        have empty : decoder.receivedLength key = 0 := by rw [receivedLength, held]; rfl
        refine ⟨rfl, empty.symm, fun other => ?_⟩
        by_cases same : other = key
        · rw [same, receivedLength_insertPartial, empty]
          rfl
        · rw [receivedLength_insertPartial_ne _ _ _ same]

end Updates

/-! ## Consumption -/

theorem readChunkStreamId_consumes (csid : UInt32) : Consumes 0 (readChunkStreamId csid) := by
  unfold readChunkStreamId
  split
  · exact (Consumes.readU8.bind fun _ => Consumes.pure _).weaken (Nat.zero_le _)
  · split
    · exact (Consumes.readU8.bind fun _ =>
        Consumes.readU8.bind fun _ => Consumes.pure _).weaken (Nat.zero_le _)
    · exact Consumes.pure _

theorem readHeader_consumes : Consumes 1 readHeader :=
  Consumes.readU8.bind fun _ => (Consumes.orFail _ _).bind fun _ =>
    (readChunkStreamId_consumes _).bind fun _ => Consumes.pure _

theorem readMsgLength_consumes : Consumes 0 readMsgLength := by
  refine (Consumes.readU24.bind fun length => ?_).weaken (Nat.zero_le (3 + 0))
  split
  · exact Consumes.fail _
  · exact Consumes.pure _

theorem readMsgTypeId_consumes : Consumes 0 readMsgTypeId :=
  (Consumes.readU8.bind fun _ => Consumes.orFail _ _).weaken (Nat.zero_le _)

theorem readExtended_consumes (field : UInt32) : Consumes 0 (readExtended field) := by
  unfold readExtended
  split
  · exact (Consumes.readU32.bind fun _ => Consumes.pure _).weaken (Nat.zero_le _)
  · exact Consumes.pure _

theorem addTimestamp_consumes (checks : OverflowChecks) (previous delta : UInt32) :
    Consumes 0 (addTimestamp checks previous delta) := by
  unfold addTimestamp
  cases checks with
  | off => exact Consumes.pure _
  | on =>
      dsimp only
      split
      · exact Consumes.pure _
      · exact Consumes.fail _

theorem readMessageHeader_consumes (checks : OverflowChecks) (decoder : ChunkDecoder)
    (header : ChunkBasicHeader) : Consumes 0 (decoder.readMessageHeader checks header) := by
  have readU24_zero : Consumes 0 (readU24 : HeaderReader UInt32) :=
    Consumes.readU24.weaken (Nat.zero_le 3)
  have readU32LE_zero : Consumes 0 (readU32LE : HeaderReader UInt32) :=
    Consumes.readU32LE.weaken (Nat.zero_le 4)
  unfold readMessageHeader
  cases header.format with
  | type0 =>
      exact readU24_zero.bind fun _ => readMsgLength_consumes.bind fun _ =>
        readMsgTypeId_consumes.bind fun _ => readU32LE_zero.bind fun _ =>
          (readExtended_consumes _).bind fun _ => Consumes.pure _
  | type1 =>
      exact readU24_zero.bind fun _ => readMsgLength_consumes.bind fun _ =>
        readMsgTypeId_consumes.bind fun _ => (readExtended_consumes _).bind fun _ =>
          (Consumes.orFail _ _).bind fun _ => Consumes.pure _
  | type2 =>
      exact readU24_zero.bind fun _ => (readExtended_consumes _).bind fun _ =>
        (Consumes.orFail _ _).bind fun _ => (addTimestamp_consumes _ _ _).bind fun _ =>
          Consumes.pure _
  | type3 =>
      have repeated (previous : ChunkMessageHeader) :
          Consumes 0 (if previous.wasExtendedTimestamp then do
            let _ ← readU32
            return previous
          else return previous : HeaderReader ChunkMessageHeader) := by
        split
        · exact (Consumes.readU32.bind fun _ => Consumes.pure _).weaken (Nat.zero_le _)
        · exact Consumes.pure _
      exact (Consumes.orFail _ _).bind repeated

theorem remainingLength_consumes (checks : OverflowChecks) (msgLength received : Nat) :
    Consumes 0 (remainingLength checks msgLength received) := by
  unfold remainingLength
  cases checks with
  | off => exact Consumes.pure _
  | on =>
      dsimp only
      split
      · exact Consumes.pure _
      · exact Consumes.fail _

theorem remainingLength_position {checks : OverflowChecks} {msgLength received : Nat}
    {buffer : Bytes} {position stop remaining : Nat}
    (read : remainingLength checks msgLength received buffer position = .ok (remaining, stop)) :
    stop = position := by
  unfold remainingLength at read
  cases checks with
  | off => cases read; rfl
  | on =>
      dsimp only at read
      split at read
      · cases read; rfl
      · cases read

/-- Without underflow the two builds agree. -/
theorem remainingLength_of_le {checks : OverflowChecks} {msgLength received : Nat}
    (enough : received ≤ msgLength) (word : msgLength < 2 ^ 64) :
    remainingLength checks msgLength received = pure (msgLength - received) := by
  unfold remainingLength
  cases checks with
  | off =>
      dsimp only
      rw [show (msgLength + 2 ^ 64 - received) % 2 ^ 64 = msgLength - received by omega]
  | on =>
      dsimp only
      rw [if_pos enough]

theorem getPayloadRange_consumes (checks : OverflowChecks) (decoder : ChunkDecoder)
    (header : ChunkBasicHeader) (messageHeader : ChunkMessageHeader) :
    Consumes 0 (decoder.getPayloadRange checks header messageHeader) :=
  (remainingLength_consumes _ _ _).bind fun _ => Consumes.tell.bind fun _ =>
    (Consumes.seek _).bind fun _ => Consumes.pure _

theorem readFrame_consumes (checks : OverflowChecks) (decoder : ChunkDecoder) :
    Consumes 1 (decoder.readFrame checks) :=
  readHeader_consumes.bind fun _ => (readMessageHeader_consumes _ _ _).bind fun _ =>
    (getPayloadRange_consumes _ _ _ _).bind fun _ => Consumes.pure _

/-! ## The parts of a frame -/

theorem previousHeader_eq_ok {decoder : ChunkDecoder} {chunkStreamId : UInt32} {buffer : Bytes}
    {position stop : Nat} {previous : ChunkMessageHeader}
    (read : decoder.previousHeader chunkStreamId buffer position = .ok (previous, stop)) :
    decoder.previousChunkHeaders.lookup chunkStreamId = some previous := by
  unfold previousHeader at read
  cases found : decoder.previousChunkHeaders.lookup chunkStreamId with
  | none =>
      rw [found] at read
      cases read
  | some header =>
      rw [found] at read
      cases read
      rfl

/-- A frame is a basic header, a message header and the range of the payload
that follows them. -/
theorem readFrame_eq_ok {checks : OverflowChecks} {decoder : ChunkDecoder} {buffer : Bytes}
    {frame : Frame} {position : Nat}
    (read : decoder.readFrame checks buffer 0 = .ok (frame, position)) :
    ∃ middle stop remaining,
      readHeader buffer 0 = .ok (frame.header, middle) ∧
      decoder.readMessageHeader checks frame.header buffer middle =
        .ok (frame.messageHeader, stop) ∧
      remainingLength checks frame.messageHeader.msgLength.toNat
        (decoder.receivedLength (frame.header.chunkStreamId, frame.messageHeader.msgStreamId))
        buffer stop = .ok (remaining, stop) ∧
      frame.payloadStart = stop ∧ frame.payloadEnd = position ∧
      position = stop + min remaining decoder.maxChunkSize := by
  obtain ⟨header, middle, headerRead, rest⟩ := bind_eq_ok_iff.mp read
  obtain ⟨messageHeader, stop, messageRead, rest⟩ := bind_eq_ok_iff.mp rest
  obtain ⟨range, past, rangeRead, rest⟩ := bind_eq_ok_iff.mp rest
  obtain ⟨remaining, unmoved, remainingRead, sought⟩ := bind_eq_ok_iff.mp rangeRead
  obtain rfl : unmoved = stop := remainingLength_position remainingRead
  cases sought
  cases rest
  exact ⟨middle, _, remaining, headerRead, messageRead, remainingRead, rfl, rfl, rfl⟩

/-! ## Outcomes of a round -/

/-- Everything storing a chunk can do, with the tests that lead there. -/
inductive StoreOutcome (decoder : ChunkDecoder) (header : ChunkBasicHeader)
    (messageHeader : ChunkMessageHeader) (payload buffer : Bytes) : Iteration → Prop where
  | tooManyHeaders
      (full : Limits.maxPreviousChunkHeaders < decoder.headerCount header.chunkStreamId) :
      StoreOutcome decoder header messageHeader payload buffer
        (.returns (.error (.error .tooManyPreviousChunkHeaders)) decoder buffer)
  | whole
      (room : decoder.headerCount header.chunkStreamId ≤ Limits.maxPreviousChunkHeaders)
      (size : payload.length = messageHeader.msgLength.toNat) :
      StoreOutcome decoder header messageHeader payload buffer
        (.returns (.ok (some ⟨header, messageHeader, payload⟩))
          (decoder.insertHeader header.chunkStreamId messageHeader) buffer)
  | tooManyPartials
      (room : decoder.headerCount header.chunkStreamId ≤ Limits.maxPreviousChunkHeaders)
      (part : payload.length ≠ messageHeader.msgLength.toNat)
      (full : (decoder.insertHeader header.chunkStreamId messageHeader).openPartial
        (header.chunkStreamId, messageHeader.msgStreamId) = none) :
      StoreOutcome decoder header messageHeader payload buffer
        (.returns (.error (.error .tooManyPartialChunks))
          (decoder.insertHeader header.chunkStreamId messageHeader) buffer)
  | tooLarge {opened : ChunkDecoder} {partialChunk : Bytes}
      (room : decoder.headerCount header.chunkStreamId ≤ Limits.maxPreviousChunkHeaders)
      (part : payload.length ≠ messageHeader.msgLength.toNat)
      (found : (decoder.insertHeader header.chunkStreamId messageHeader).openPartial
        (header.chunkStreamId, messageHeader.msgStreamId) = some (opened, partialChunk))
      (large : Limits.maxPartialChunkSize < partialChunk.length + payload.length) :
      StoreOutcome decoder header messageHeader payload buffer
        (.returns
          (.error (.error (.partialChunkTooLarge (partialChunk.length + payload.length))))
          opened buffer)
  | completes {opened : ChunkDecoder} {partialChunk : Bytes}
      (room : decoder.headerCount header.chunkStreamId ≤ Limits.maxPreviousChunkHeaders)
      (part : payload.length ≠ messageHeader.msgLength.toNat)
      (found : (decoder.insertHeader header.chunkStreamId messageHeader).openPartial
        (header.chunkStreamId, messageHeader.msgStreamId) = some (opened, partialChunk))
      (small : partialChunk.length + payload.length ≤ Limits.maxPartialChunkSize)
      (size : (partialChunk ++ payload).length = messageHeader.msgLength.toNat) :
      StoreOutcome decoder header messageHeader payload buffer
        (.returns (.ok (some ⟨header, messageHeader, partialChunk ++ payload⟩))
          (opened.removePartial (header.chunkStreamId, messageHeader.msgStreamId)) buffer)
  | grows {opened : ChunkDecoder} {partialChunk : Bytes}
      (room : decoder.headerCount header.chunkStreamId ≤ Limits.maxPreviousChunkHeaders)
      (part : payload.length ≠ messageHeader.msgLength.toNat)
      (found : (decoder.insertHeader header.chunkStreamId messageHeader).openPartial
        (header.chunkStreamId, messageHeader.msgStreamId) = some (opened, partialChunk))
      (small : partialChunk.length + payload.length ≤ Limits.maxPartialChunkSize)
      (short : (partialChunk ++ payload).length ≠ messageHeader.msgLength.toNat) :
      StoreOutcome decoder header messageHeader payload buffer
        (.continues
          (opened.insertPartial (header.chunkStreamId, messageHeader.msgStreamId)
            (partialChunk ++ payload)) buffer)

theorem storeChunk_outcome (decoder : ChunkDecoder) (header : ChunkBasicHeader)
    (messageHeader : ChunkMessageHeader) (payload buffer : Bytes) :
    StoreOutcome decoder header messageHeader payload buffer
      (decoder.storeChunk header messageHeader payload buffer) := by
  unfold storeChunk
  by_cases full : Limits.maxPreviousChunkHeaders < decoder.headerCount header.chunkStreamId
  · rw [if_pos full]
    exact .tooManyHeaders full
  · rw [if_neg full]
    have room := Nat.le_of_not_lt full
    by_cases size : payload.length = messageHeader.msgLength.toNat
    · dsimp only
      rw [if_pos size]
      exact .whole room size
    · dsimp only
      rw [if_neg size]
      split
      · rename_i none_found
        exact .tooManyPartials room size none_found
      · rename_i opened partialChunk found
        unfold extendPartial
        by_cases large : Limits.maxPartialChunkSize < partialChunk.length + payload.length
        · rw [if_pos large]
          exact .tooLarge room size found large
        · rw [if_neg large]
          dsimp only
          split
          · rename_i whole
            exact .completes room size found (Nat.le_of_not_lt large) whole
          · rename_i short
            exact .grows room size found (Nat.le_of_not_lt large) short

theorem storeChunk_whole {decoder : ChunkDecoder} {header : ChunkBasicHeader}
    {messageHeader : ChunkMessageHeader} {payload : Bytes} (buffer : Bytes)
    (room : decoder.headerCount header.chunkStreamId ≤ Limits.maxPreviousChunkHeaders)
    (size : payload.length = messageHeader.msgLength.toNat) :
    decoder.storeChunk header messageHeader payload buffer =
      .returns (.ok (some ⟨header, messageHeader, payload⟩))
        (decoder.insertHeader header.chunkStreamId messageHeader) buffer := by
  rw [storeChunk, if_neg (Nat.not_lt_of_le room)]
  exact if_pos size

theorem storeChunk_part {decoder opened : ChunkDecoder} {header : ChunkBasicHeader}
    {messageHeader : ChunkMessageHeader} {payload partialChunk : Bytes} (buffer : Bytes)
    (room : decoder.headerCount header.chunkStreamId ≤ Limits.maxPreviousChunkHeaders)
    (part : payload.length ≠ messageHeader.msgLength.toNat)
    (found : (decoder.insertHeader header.chunkStreamId messageHeader).openPartial
      (header.chunkStreamId, messageHeader.msgStreamId) = some (opened, partialChunk)) :
    decoder.storeChunk header messageHeader payload buffer =
      opened.extendPartial header messageHeader
        (header.chunkStreamId, messageHeader.msgStreamId) partialChunk payload buffer := by
  rw [storeChunk, if_neg (Nat.not_lt_of_le room)]
  dsimp only
  rw [if_neg part, found]

theorem extendPartial_completes {decoder : ChunkDecoder} {header : ChunkBasicHeader}
    {messageHeader : ChunkMessageHeader} {key : UInt32 × UInt32} {partialChunk payload : Bytes}
    (buffer : Bytes)
    (small : (partialChunk ++ payload).length ≤ Limits.maxPartialChunkSize)
    (size : (partialChunk ++ payload).length = messageHeader.msgLength.toNat) :
    decoder.extendPartial header messageHeader key partialChunk payload buffer =
      .returns (.ok (some ⟨header, messageHeader, partialChunk ++ payload⟩))
        (decoder.removePartial key) buffer := by
  rw [List.length_append] at small
  rw [extendPartial, if_neg (Nat.not_lt_of_le small)]
  exact if_pos size

theorem extendPartial_grows {decoder : ChunkDecoder} {header : ChunkBasicHeader}
    {messageHeader : ChunkMessageHeader} {key : UInt32 × UInt32} {partialChunk payload : Bytes}
    (buffer : Bytes)
    (small : (partialChunk ++ payload).length ≤ Limits.maxPartialChunkSize)
    (short : (partialChunk ++ payload).length ≠ messageHeader.msgLength.toNat) :
    decoder.extendPartial header messageHeader key partialChunk payload buffer =
      .continues (decoder.insertPartial key (partialChunk ++ payload)) buffer := by
  rw [List.length_append] at small
  rw [extendPartial, if_neg (Nat.not_lt_of_le small)]
  exact if_neg short

/-- Storing a chunk never touches the rest of the buffer. -/
theorem storeChunk_buffer (decoder : ChunkDecoder) (header : ChunkBasicHeader)
    (messageHeader : ChunkMessageHeader) (payload buffer : Bytes) :
    (decoder.storeChunk header messageHeader payload buffer).buffer = buffer := by
  have outcome := storeChunk_outcome decoder header messageHeader payload buffer
  generalize decoder.storeChunk header messageHeader payload buffer = round at outcome ⊢
  cases outcome <;> rfl

/-- A round either stops with decoder and buffer as they were, or stores the
chunk that stands at the front of the buffer. -/
theorem iteration_cases (checks : OverflowChecks) (decoder : ChunkDecoder) (buffer : Bytes) :
    (∃ result, decoder.iteration checks buffer = .returns result decoder buffer ∧
      ∀ chunk, result ≠ .ok (some chunk)) ∨
    ∃ frame position, decoder.readFrame checks buffer 0 = .ok (frame, position) ∧
      0 < position ∧ position ≤ buffer.length ∧
      decoder.iteration checks buffer =
        decoder.storeChunk frame.header frame.messageHeader
          (((buffer.take position).take frame.payloadEnd).drop frame.payloadStart)
          (buffer.drop position) := by
  unfold iteration
  cases read : decoder.readFrame checks buffer 0 with
  | error fault =>
      cases fault with
      | none => exact .inl ⟨_, rfl, by simp⟩
      | some fault => exact .inl ⟨_, rfl, by simp⟩
  | ok pair =>
      obtain ⟨frame, position⟩ := pair
      dsimp only
      split
      · exact .inl ⟨_, rfl, by simp⟩
      · rename_i within
        have moved := readFrame_consumes checks decoder _ _ _ _ read
        exact .inr ⟨frame, position, rfl, by omega, by omega, rfl⟩

/-- A round that does not stop for lack of a chunk has taken a positive number
of bytes off the front of the buffer. -/
theorem iteration_drops (checks : OverflowChecks) (decoder : ChunkDecoder) (buffer : Bytes) :
    (∃ result, decoder.iteration checks buffer = .returns result decoder buffer ∧
      ∀ chunk, result ≠ .ok (some chunk)) ∨
    ∃ position, 0 < position ∧ position ≤ buffer.length ∧
      (decoder.iteration checks buffer).buffer = buffer.drop position := by
  rcases iteration_cases checks decoder buffer with stopped |
      ⟨frame, position, _, positive, within, stored⟩
  · exact .inl stopped
  · refine .inr ⟨position, positive, within, ?_⟩
    rw [stored, storeChunk_buffer]

/-- A round that waits for more bytes leaves everything as it was. -/
theorem iteration_waits {checks : OverflowChecks} {decoder next : ChunkDecoder}
    {buffer rest : Bytes}
    (round : decoder.iteration checks buffer = .returns (.ok none) next rest) :
    next = decoder ∧ rest = buffer := by
  rcases iteration_cases checks decoder buffer with ⟨result, stopped, _⟩ |
      ⟨frame, position, _, _, _, stored⟩
  · rw [stopped] at round
    cases round
    exact ⟨rfl, rfl⟩
  · have outcome := storeChunk_outcome decoder frame.header frame.messageHeader
      (((buffer.take position).take frame.payloadEnd).drop frame.payloadStart)
      (buffer.drop position)
    rw [← stored, round] at outcome
    cases outcome

theorem iteration_continues_lt {checks : OverflowChecks} {decoder next : ChunkDecoder}
    {buffer rest : Bytes} (round : decoder.iteration checks buffer = .continues next rest) :
    rest.length < buffer.length := by
  rcases iteration_drops checks decoder buffer with ⟨result, stopped, _⟩ |
      ⟨position, positive, within, left⟩
  · rw [stopped] at round
    cases round
  · rw [round] at left
    change rest = buffer.drop position at left
    rw [left, List.length_drop]
    omega

theorem iteration_returns_lt {checks : OverflowChecks} {decoder next : ChunkDecoder}
    {buffer rest : Bytes} {chunk : Chunk}
    (round : decoder.iteration checks buffer = .returns (.ok (some chunk)) next rest) :
    rest.length < buffer.length := by
  rcases iteration_drops checks decoder buffer with ⟨result, stopped, other⟩ |
      ⟨position, positive, within, left⟩
  · rw [stopped] at round
    cases round
    exact absurd rfl (other chunk)
  · rw [round] at left
    change rest = buffer.drop position at left
    rw [left, List.length_drop]
    omega

/-! ## The loop equation -/

theorem readChunkLoop_fuel (checks : OverflowChecks) (buffer : Bytes) :
    ∀ (decoder : ChunkDecoder) (fuel : Nat), buffer.length < fuel →
      readChunkLoop checks fuel decoder buffer = decoder.readChunk checks buffer := by
  induction size : buffer.length using Nat.strongRecOn generalizing buffer with
  | ind length ih =>
      subst size
      intro decoder fuel enough
      obtain ⟨fuel, rfl⟩ := Nat.exists_eq_add_of_lt enough
      unfold readChunk
      simp only [readChunkLoop]
      cases round : decoder.iteration checks buffer with
      | returns result next rest => rfl
      | continues next rest =>
          have shorter := iteration_continues_lt round
          dsimp only
          rw [ih _ shorter rest rfl next _ (by omega), ih _ shorter rest rfl next _ shorter]

/-- The loop of `readChunk`, round by round. -/
theorem readChunk_eq (checks : OverflowChecks) (decoder : ChunkDecoder) (buffer : Bytes) :
    decoder.readChunk checks buffer =
      match decoder.iteration checks buffer with
      | .returns result next rest => (result, next, rest)
      | .continues next rest => next.readChunk checks rest := by
  conv_lhs => rw [readChunk, readChunkLoop]
  cases round : decoder.iteration checks buffer with
  | returns result next rest => rfl
  | continues next rest =>
      exact readChunkLoop_fuel checks rest next _ (iteration_continues_lt round)

theorem readChunk_of_returns {checks : OverflowChecks} {decoder next : ChunkDecoder}
    {buffer rest : Bytes} {result : Except DecodeFault (Option Chunk)}
    (round : decoder.iteration checks buffer = .returns result next rest) :
    decoder.readChunk checks buffer = (result, next, rest) := by
  rw [readChunk_eq, round]

theorem readChunk_of_continues {checks : OverflowChecks} {decoder next : ChunkDecoder}
    {buffer rest : Bytes} (round : decoder.iteration checks buffer = .continues next rest) :
    decoder.readChunk checks buffer = next.readChunk checks rest := by
  rw [readChunk_eq, round]

/-- What every round preserves, a whole call preserves. -/
theorem readChunk_preserves {checks : OverflowChecks} {property : ChunkDecoder → Prop}
    (round : ∀ decoder buffer, property decoder →
      property (decoder.iteration checks buffer).decoder)
    (decoder : ChunkDecoder) (buffer : Bytes) (holds : property decoder) :
    property (decoder.readChunk checks buffer).2.1 := by
  induction size : buffer.length using Nat.strongRecOn generalizing decoder buffer with
  | ind length ih =>
      have preserved := round decoder buffer holds
      rw [readChunk_eq]
      cases step : decoder.iteration checks buffer with
      | returns result next rest =>
          rw [step] at preserved
          exact preserved
      | continues next rest =>
          rw [step] at preserved
          have shorter := iteration_continues_lt step
          exact ih rest.length (by omega) next rest preserved rfl

end ChunkDecoder

end ScuffleVideo.Rtmp
