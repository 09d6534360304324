import ScuffleVideo.Wire.Reader

/-!
# RTMP chunks

The data types of the chunk layer: chunk types, message types, the two headers
of a chunk, the chunk itself, and the limits and errors of the decoder.
-/

namespace ScuffleVideo.Rtmp

open Wire

/-- The format of a chunk header. -/
inductive ChunkType where
  | type0
  | type1
  | type2
  | type3
  deriving DecidableEq, Repr

def ChunkType.toU8 : ChunkType → UInt8
  | .type0 => 0
  | .type1 => 1
  | .type2 => 2
  | .type3 => 3

def ChunkType.fromU8 : UInt8 → Option ChunkType
  | 0 => some .type0
  | 1 => some .type1
  | 2 => some .type2
  | 3 => some .type3
  | _ => none

@[simp]
theorem ChunkType.fromU8_toU8 (format : ChunkType) :
    ChunkType.fromU8 format.toU8 = some format := by
  cases format <;> rfl

inductive MessageTypeID where
  | setChunkSize
  | abort
  | acknowledgement
  | userControlEvent
  | windowAcknowledgementSize
  | setPeerBandwidth
  | audio
  | video
  | dataAMF3
  | sharedObjAMF3
  | commandAMF3
  | dataAMF0
  | sharedObjAMF0
  | commandAMF0
  | aggregate
  deriving DecidableEq, Repr

def MessageTypeID.toU8 : MessageTypeID → UInt8
  | .setChunkSize => 1
  | .abort => 2
  | .acknowledgement => 3
  | .userControlEvent => 4
  | .windowAcknowledgementSize => 5
  | .setPeerBandwidth => 6
  | .audio => 8
  | .video => 9
  | .dataAMF3 => 15
  | .sharedObjAMF3 => 16
  | .commandAMF3 => 17
  | .dataAMF0 => 18
  | .sharedObjAMF0 => 19
  | .commandAMF0 => 20
  | .aggregate => 22

def MessageTypeID.fromU8 : UInt8 → Option MessageTypeID
  | 1 => some .setChunkSize
  | 2 => some .abort
  | 3 => some .acknowledgement
  | 4 => some .userControlEvent
  | 5 => some .windowAcknowledgementSize
  | 6 => some .setPeerBandwidth
  | 8 => some .audio
  | 9 => some .video
  | 15 => some .dataAMF3
  | 16 => some .sharedObjAMF3
  | 17 => some .commandAMF3
  | 18 => some .dataAMF0
  | 19 => some .sharedObjAMF0
  | 20 => some .commandAMF0
  | 22 => some .aggregate
  | _ => none

@[simp]
theorem MessageTypeID.fromU8_toU8 (typeId : MessageTypeID) :
    MessageTypeID.fromU8 typeId.toU8 = some typeId := by
  cases typeId <;> rfl

structure ChunkBasicHeader where
  format : ChunkType
  chunkStreamId : UInt32
  deriving DecidableEq, Repr

structure ChunkMessageHeader where
  timestamp : UInt32
  msgLength : UInt32
  msgTypeId : MessageTypeID
  msgStreamId : UInt32
  wasExtendedTimestamp : Bool
  deriving DecidableEq, Repr

/-- The timestamp does not fit the three-byte field below its marker value. -/
def ChunkMessageHeader.isExtendedTimestamp (header : ChunkMessageHeader) : Bool :=
  decide (0xFFFFFF ≤ header.timestamp)

structure Chunk where
  basicHeader : ChunkBasicHeader
  messageHeader : ChunkMessageHeader
  payload : Bytes
  deriving DecidableEq, Repr

/-- The length field is the payload length cast to thirty-two bits. -/
def Chunk.new (chunkStreamId timestamp : UInt32) (msgTypeId : MessageTypeID)
    (msgStreamId : UInt32) (payload : Bytes) : Chunk where
  basicHeader := ⟨.type0, chunkStreamId⟩
  messageHeader := ⟨timestamp, UInt32.ofNat payload.length, msgTypeId, msgStreamId, false⟩
  payload := payload

/-- A chunk without the two fields that only the decoder uses. -/
structure Message where
  chunkStreamId : UInt32
  timestamp : UInt32
  msgLength : UInt32
  msgTypeId : MessageTypeID
  msgStreamId : UInt32
  payload : Bytes
  deriving DecidableEq, Repr

def Chunk.message (chunk : Chunk) : Message where
  chunkStreamId := chunk.basicHeader.chunkStreamId
  timestamp := chunk.messageHeader.timestamp
  msgLength := chunk.messageHeader.msgLength
  msgTypeId := chunk.messageHeader.msgTypeId
  msgStreamId := chunk.messageHeader.msgStreamId
  payload := chunk.payload

namespace Limits

def maxChunkSize : Nat := 4096 * 16

def initChunkSize : Nat := 128

def maxPartialChunkSize : Nat := 10 * 1024 * 1024

def maxPreviousChunkHeaders : Nat := 100

def maxPartialChunkCount : Nat := 4

end Limits

inductive ChunkDecodeError where
  | invalidChunkType (format : UInt8)
  | invalidMessageTypeID (typeId : UInt8)
  | missingPreviousChunkHeader (chunkStreamId : UInt32)
  | tooManyPartialChunks
  | tooManyPreviousChunkHeaders
  | partialChunkTooLarge (size : Nat)
  deriving DecidableEq, Repr

/-- The arithmetic operation that trapped. -/
inductive OverflowSite where
  | timestamp
  | payloadRange
  deriving DecidableEq, Repr

/-- How a decoding call ends other than by returning a value. -/
inductive DecodeFault where
  | error (error : ChunkDecodeError)
  | overflow (site : OverflowSite)
  deriving DecidableEq, Repr

end ScuffleVideo.Rtmp
