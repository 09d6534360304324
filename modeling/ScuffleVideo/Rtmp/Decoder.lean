import Mathlib.Data.List.AList
import ScuffleVideo.Rtmp.Define

/-!
# The chunk decoder

`readChunk` loops over the chunks in the buffer until one of them completes a
message, an error occurs, or the data runs out.  One round of the loop is
`iteration`: it reads the two headers and the payload range through a cursor
that leaves the buffer alone, and only then splits the buffer and stores the
chunk.  The two hash maps are finite maps with unique keys.
-/

namespace ScuffleVideo.Rtmp

open Wire Wire.Reader

/-- The absent error of the header readers: there is not enough data yet. -/
instance : Starving (Option DecodeFault) := ⟨none⟩

abbrev HeaderReader := Reader (Option DecodeFault)

structure ChunkDecoder where
  previousChunkHeaders : AList (fun _ : UInt32 => ChunkMessageHeader)
  partialChunks : AList (fun _ : UInt32 × UInt32 => Bytes)
  maxChunkSize : Nat

/-- How one round of the reading loop ends. -/
inductive Iteration where
  | returns (result : Except DecodeFault (Option Chunk)) (decoder : ChunkDecoder)
      (buffer : Bytes)
  | continues (decoder : ChunkDecoder) (buffer : Bytes)

/-- What a chunk header announces: the headers and the payload's range. -/
structure Frame where
  header : ChunkBasicHeader
  messageHeader : ChunkMessageHeader
  payloadStart : Nat
  payloadEnd : Nat

namespace ChunkDecoder

def default : ChunkDecoder := ⟨∅, ∅, Limits.initChunkSize⟩

def updateMaxChunkSize (decoder : ChunkDecoder) (chunkSize : Nat) : Bool × ChunkDecoder :=
  if Limits.initChunkSize ≤ chunkSize ∧ chunkSize ≤ Limits.maxChunkSize then
    (true, { decoder with maxChunkSize := chunkSize })
  else
    (false, decoder)

/-! ## Headers -/

/-- The chunk stream id selected by the low six bits of the first byte. -/
def readChunkStreamId (csid : UInt32) : HeaderReader UInt32 :=
  if csid = 0 then do
    let second ← readU8
    return 64 + second.toUInt32
  else if csid = 1 then do
    let second ← readU8
    let third ← readU8
    return 64 + second.toUInt32 + third.toUInt32 * 256
  else
    return csid

def readHeader : HeaderReader ChunkBasicHeader := do
  let byte ← readU8
  let format := (byte >>> 6) &&& 0b00000011
  let format ← orFail (some (.error (.invalidChunkType format))) (ChunkType.fromU8 format)
  let chunkStreamId ← readChunkStreamId (byte &&& 0b00111111).toUInt32
  return ⟨format, chunkStreamId⟩

def readMsgLength : HeaderReader UInt32 := do
  let msgLength ← readU24
  if Limits.maxPartialChunkSize < msgLength.toNat then
    fail (some (.error (.partialChunkTooLarge msgLength.toNat)))
  else
    return msgLength

def readMsgTypeId : HeaderReader MessageTypeID := do
  let msgTypeId ← readU8
  orFail (some (.error (.invalidMessageTypeID msgTypeId))) (MessageTypeID.fromU8 msgTypeId)

/-- The four bytes that replace a three-byte field holding its marker. -/
def readExtended (field : UInt32) : HeaderReader (UInt32 × Bool) :=
  if field = 0xFFFFFF then do
    let extended ← readU32
    return (extended, true)
  else
    return (field, false)

def previousHeader (decoder : ChunkDecoder) (chunkStreamId : UInt32) :
    HeaderReader ChunkMessageHeader :=
  orFail (some (.error (.missingPreviousChunkHeader chunkStreamId)))
    (decoder.previousChunkHeaders.lookup chunkStreamId)

/-- The checked addition of the Type1 branch. -/
def checkedTimestamp (previous delta : UInt32) : UInt32 :=
  if previous.toNat + delta.toNat < 2 ^ 32 then previous + delta else previous

/-- The plain addition of the Type2 branch. -/
def addTimestamp (checks : OverflowChecks) (previous delta : UInt32) : HeaderReader UInt32 :=
  match checks with
  | .off => return previous + delta
  | .on =>
      if previous.toNat + delta.toNat < 2 ^ 32 then
        return previous + delta
      else
        fail (some (.overflow .timestamp))

def readMessageHeader (checks : OverflowChecks) (decoder : ChunkDecoder)
    (header : ChunkBasicHeader) : HeaderReader ChunkMessageHeader :=
  match header.format with
  | .type0 => do
      let timestamp ← readU24
      let msgLength ← readMsgLength
      let msgTypeId ← readMsgTypeId
      let msgStreamId ← readU32LE
      let (timestamp, wasExtendedTimestamp) ← readExtended timestamp
      return ⟨timestamp, msgLength, msgTypeId, msgStreamId, wasExtendedTimestamp⟩
  | .type1 => do
      let timestampDelta ← readU24
      let msgLength ← readMsgLength
      let msgTypeId ← readMsgTypeId
      let (timestampDelta, wasExtendedTimestamp) ← readExtended timestampDelta
      let previous ← decoder.previousHeader header.chunkStreamId
      return ⟨checkedTimestamp previous.timestamp timestampDelta, msgLength, msgTypeId,
        previous.msgStreamId, wasExtendedTimestamp⟩
  | .type2 => do
      let timestampDelta ← readU24
      let (timestampDelta, wasExtendedTimestamp) ← readExtended timestampDelta
      let previous ← decoder.previousHeader header.chunkStreamId
      let timestamp ← addTimestamp checks previous.timestamp timestampDelta
      return ⟨timestamp, previous.msgLength, previous.msgTypeId, previous.msgStreamId,
        wasExtendedTimestamp⟩
  | .type3 => do
      let previous ← decoder.previousHeader header.chunkStreamId
      if previous.wasExtendedTimestamp then do
        let _ ← readU32
        return previous
      else
        return previous

/-! ## Payload -/

/-- The number of payload bytes already received under a key. -/
def receivedLength (decoder : ChunkDecoder) (key : UInt32 × UInt32) : Nat :=
  ((decoder.partialChunks.lookup key).map List.length).getD 0

/-- The subtraction of the received length from the message length, on words of
sixty-four bits. -/
def remainingLength (checks : OverflowChecks) (msgLength received : Nat) :
    HeaderReader Nat :=
  match checks with
  | .off => return (msgLength + 2 ^ 64 - received) % 2 ^ 64
  | .on =>
      if received ≤ msgLength then
        return msgLength - received
      else
        fail (some (.overflow .payloadRange))

def getPayloadRange (checks : OverflowChecks) (decoder : ChunkDecoder)
    (header : ChunkBasicHeader) (messageHeader : ChunkMessageHeader) :
    HeaderReader (Nat × Nat) := do
  let key := (header.chunkStreamId, messageHeader.msgStreamId)
  let remainingReadLength ←
    remainingLength checks messageHeader.msgLength.toNat (decoder.receivedLength key)
  let needReadLength := min remainingReadLength decoder.maxChunkSize
  let pos ← tell
  seek needReadLength
  return (pos, pos + needReadLength)

def readFrame (checks : OverflowChecks) (decoder : ChunkDecoder) : HeaderReader Frame := do
  let header ← readHeader
  let messageHeader ← decoder.readMessageHeader checks header
  let (payloadStart, payloadEnd) ← decoder.getPayloadRange checks header messageHeader
  return ⟨header, messageHeader, payloadStart, payloadEnd⟩

/-! ## Storing a chunk -/

/-- The number of headers stored once `chunkStreamId` has one. -/
def headerCount (decoder : ChunkDecoder) (chunkStreamId : UInt32) : Nat :=
  if (decoder.previousChunkHeaders.lookup chunkStreamId).isSome then
    decoder.previousChunkHeaders.keys.length
  else
    decoder.previousChunkHeaders.keys.length + 1

def insertHeader (decoder : ChunkDecoder) (chunkStreamId : UInt32)
    (messageHeader : ChunkMessageHeader) : ChunkDecoder :=
  { decoder with
    previousChunkHeaders := decoder.previousChunkHeaders.insert chunkStreamId messageHeader }

def insertPartial (decoder : ChunkDecoder) (key : UInt32 × UInt32) (partialChunk : Bytes) :
    ChunkDecoder :=
  { decoder with partialChunks := decoder.partialChunks.insert key partialChunk }

def removePartial (decoder : ChunkDecoder) (key : UInt32 × UInt32) : ChunkDecoder :=
  { decoder with partialChunks := decoder.partialChunks.erase key }

/-- The partial payload under `key`, a new empty one if there is none and the
map has room for it. -/
def openPartial (decoder : ChunkDecoder) (key : UInt32 × UInt32) :
    Option (ChunkDecoder × Bytes) :=
  match decoder.partialChunks.lookup key with
  | some partialChunk => some (decoder, partialChunk)
  | none =>
      if Limits.maxPartialChunkCount ≤ decoder.partialChunks.keys.length then
        none
      else
        some (decoder.insertPartial key [], [])

/-- Extend the partial payload under `key`, completing the message if that is
all of it. -/
def extendPartial (decoder : ChunkDecoder) (header : ChunkBasicHeader)
    (messageHeader : ChunkMessageHeader) (key : UInt32 × UInt32)
    (partialChunk payload buffer : Bytes) : Iteration :=
  if Limits.maxPartialChunkSize < partialChunk.length + payload.length then
    .returns (.error (.error (.partialChunkTooLarge (partialChunk.length + payload.length))))
      decoder buffer
  else
    let extended := partialChunk ++ payload
    if extended.length = messageHeader.msgLength.toNat then
      .returns (.ok (some ⟨header, messageHeader, extended⟩)) (decoder.removePartial key) buffer
    else
      .continues (decoder.insertPartial key extended) buffer

/-- The part of the loop body after the buffer has been split. -/
def storeChunk (decoder : ChunkDecoder) (header : ChunkBasicHeader)
    (messageHeader : ChunkMessageHeader) (payload buffer : Bytes) : Iteration :=
  if Limits.maxPreviousChunkHeaders < decoder.headerCount header.chunkStreamId then
    .returns (.error (.error .tooManyPreviousChunkHeaders)) decoder buffer
  else
    let decoder := decoder.insertHeader header.chunkStreamId messageHeader
    if payload.length = messageHeader.msgLength.toNat then
      .returns (.ok (some ⟨header, messageHeader, payload⟩)) decoder buffer
    else
      let key := (header.chunkStreamId, messageHeader.msgStreamId)
      match decoder.openPartial key with
      | none => .returns (.error (.error .tooManyPartialChunks)) decoder buffer
      | some (decoder, partialChunk) =>
          decoder.extendPartial header messageHeader key partialChunk payload buffer

/-! ## The reading loop -/

def iteration (checks : OverflowChecks) (decoder : ChunkDecoder) (buffer : Bytes) : Iteration :=
  match decoder.readFrame checks buffer 0 with
  | .error none => .returns (.ok none) decoder buffer
  | .error (some fault) => .returns (.error fault) decoder buffer
  | .ok (frame, position) =>
      if position > buffer.length then
        .returns (.ok none) decoder buffer
      else
        let data := buffer.take position
        let payload := (data.take frame.payloadEnd).drop frame.payloadStart
        decoder.storeChunk frame.header frame.messageHeader payload (buffer.drop position)

def readChunkLoop (checks : OverflowChecks) : Nat → ChunkDecoder → Bytes →
    Except DecodeFault (Option Chunk) × ChunkDecoder × Bytes
  | 0, decoder, buffer => (.ok none, decoder, buffer)
  | fuel + 1, decoder, buffer =>
      match decoder.iteration checks buffer with
      | .returns result decoder buffer => (result, decoder, buffer)
      | .continues decoder buffer => readChunkLoop checks fuel decoder buffer

/-- Every round that continues has consumed a header byte, so the loop ends
within as many rounds as the buffer has bytes. -/
def readChunk (checks : OverflowChecks) (decoder : ChunkDecoder) (buffer : Bytes) :
    Except DecodeFault (Option Chunk) × ChunkDecoder × Bytes :=
  readChunkLoop checks (buffer.length + 1) decoder buffer

end ChunkDecoder

end ScuffleVideo.Rtmp
