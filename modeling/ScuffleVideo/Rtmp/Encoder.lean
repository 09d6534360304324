import ScuffleVideo.Rtmp.Define

/-!
# The chunk encoder

Every message is written as one Type0 chunk followed by as many Type3 chunks as
its payload needs.  The extended timestamp is repeated in each of them.
-/

namespace ScuffleVideo.Rtmp

open Wire

/-- A panic of the integer writer, or a splitting loop that never ends. -/
inductive EncodeFault where
  | panic
  | unfinished
  deriving DecidableEq, Repr

instance : Panicking EncodeFault := ⟨.panic⟩

structure ChunkEncoder where
  chunkSize : Nat
  deriving DecidableEq, Repr

namespace ChunkEncoder

def default : ChunkEncoder := ⟨Limits.initChunkSize⟩

def setChunkSize (_ : ChunkEncoder) (chunkSize : Nat) : ChunkEncoder := ⟨chunkSize⟩

def writeBasicHeader (format : ChunkType) (csid : UInt32) : Bytes :=
  let fmt := format.toU8
  if 64 + 255 ≤ csid then
    let csid := csid - 64
    [fmt <<< 6 ||| 1, (csid % 256).toUInt8, (csid / 256).toUInt8]
  else if 64 ≤ csid then
    [fmt <<< 6, (csid - 64).toUInt8]
  else
    [fmt <<< 6 ||| csid.toUInt8]

def writeExtenedTimestamp (timestamp : UInt32) : Bytes := toBytesBE 4 timestamp.toNat

def writeMessageHeader (header : ChunkMessageHeader) : Except EncodeFault Bytes := do
  let timestamp := if 0xFFFFFF ≤ header.timestamp then 0xFFFFFF else header.timestamp
  let timestampField ← writeU24 timestamp
  let lengthField ← writeU24 header.msgLength
  let extended :=
    if header.isExtendedTimestamp then writeExtenedTimestamp header.timestamp else []
  return timestampField ++ lengthField ++ [header.msgTypeId.toU8] ++
    toBytesLE 4 header.msgStreamId.toNat ++ extended

/-- The header of every chunk of a message after the first. -/
def writeContinuation (chunk : Chunk) : Bytes :=
  writeBasicHeader .type3 chunk.basicHeader.chunkStreamId ++
    if chunk.messageHeader.isExtendedTimestamp then
      writeExtenedTimestamp chunk.messageHeader.timestamp
    else []

/-- The splitting loop.  Each round takes a non-empty piece unless the chunk
size is zero, so the payload length is enough fuel for every other size. -/
def writePayload (encoder : ChunkEncoder) (chunk : Chunk) :
    Nat → Bytes → Except EncodeFault Bytes
  | _, [] => .ok []
  | 0, _ :: _ => .error .unfinished
  | fuel + 1, payload =>
      let curPayloadSize :=
        if payload.length > encoder.chunkSize then encoder.chunkSize else payload.length
      let payloadBytes := payload.take curPayloadSize
      let remaining := payload.drop curPayloadSize
      let continuation := if remaining.isEmpty then [] else writeContinuation chunk
      do
        let written ← writePayload encoder chunk fuel remaining
        return payloadBytes ++ continuation ++ written

def writeChunk (encoder : ChunkEncoder) (chunk : Chunk) : Except EncodeFault Bytes := do
  let messageHeader ← writeMessageHeader chunk.messageHeader
  let payload ← writePayload encoder chunk chunk.payload.length chunk.payload
  return writeBasicHeader .type0 chunk.basicHeader.chunkStreamId ++ messageHeader ++ payload

/-- Successive messages written to one output. -/
def writeChunks (encoder : ChunkEncoder) : List Chunk → Except EncodeFault Bytes
  | [] => .ok []
  | chunk :: chunks => do
      let bytes ← encoder.writeChunk chunk
      let rest ← encoder.writeChunks chunks
      return bytes ++ rest

end ChunkEncoder

end ScuffleVideo.Rtmp
