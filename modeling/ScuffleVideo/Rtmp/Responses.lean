import ScuffleVideo.Amf0.Encoder
import ScuffleVideo.Rtmp.Encoder

/-!
# What the server writes

The protocol control messages, the command responses and the event the server
sends.  Each is one message handed to the chunk encoder; the command responses
carry AMF0 values.
-/

namespace ScuffleVideo.Rtmp

open Wire Amf0

/-- Writing into the growable output fails only on a value or on a chunk. -/
inductive WriteFault where
  | amf0Write (error : Amf0WriteError)
  | chunkEncode (fault : EncodeFault)
  deriving DecidableEq, Repr

def amf0Write (result : Except Amf0WriteError Bytes) : Except WriteFault Bytes :=
  result.mapError .amf0Write

def writeMessage (encoder : ChunkEncoder) (chunkStreamId : UInt32) (msgTypeId : MessageTypeID)
    (payload : Bytes) : Except WriteFault Bytes :=
  (encoder.writeChunk (Chunk.new chunkStreamId 0 msgTypeId 0 payload)).mapError .chunkEncode

namespace ProtocolControlMessagesWriter

/-- The size is cut to 31 bits. -/
def writeSetChunkSize (encoder : ChunkEncoder) (chunkSize : UInt32) : Except WriteFault Bytes :=
  writeMessage encoder 2 .setChunkSize (toBytesBE 4 (chunkSize &&& 0x7FFFFFFF).toNat)

def writeWindowAcknowledgementSize (encoder : ChunkEncoder) (windowSize : UInt32) :
    Except WriteFault Bytes :=
  writeMessage encoder 2 .windowAcknowledgementSize (toBytesBE 4 windowSize.toNat)

def writeSetPeerBandwidth (encoder : ChunkEncoder) (windowSize : UInt32) (limitType : UInt8) :
    Except WriteFault Bytes :=
  writeMessage encoder 2 .setPeerBandwidth (toBytesBE 4 windowSize.toNat ++ [limitType])

end ProtocolControlMessagesWriter

/-- The chunk stream that carries commands. -/
def commandChunkStream : UInt32 := 3

namespace NetConnection

def writeConnectResponse (encoder : ChunkEncoder) (transactionId : UInt64) (fmsver : String)
    (capabilities : UInt64) (code level description : String) (encoding : UInt64) :
    Except WriteFault Bytes := do
  let name ← amf0Write (Amf0Encoder.encodeString "_result")
  let properties ← amf0Write (Amf0Encoder.encode (.object
    [("fmsVer", .string fmsver), ("capabilities", .number capabilities)]))
  let information ← amf0Write (Amf0Encoder.encode (.object
    [("level", .string level), ("code", .string code), ("description", .string description),
      ("objectEncoding", .number encoding)]))
  writeMessage encoder commandChunkStream .commandAMF0
    (name ++ Amf0Encoder.encodeNumber transactionId ++ properties ++ information)

def writeCreateStreamResponse (encoder : ChunkEncoder) (transactionId streamId : UInt64) :
    Except WriteFault Bytes := do
  let name ← amf0Write (Amf0Encoder.encodeString "_result")
  writeMessage encoder commandChunkStream .commandAMF0
    (name ++ Amf0Encoder.encodeNumber transactionId ++ Amf0Encoder.encodeNull ++
      Amf0Encoder.encodeNumber streamId)

end NetConnection

def NetStreamWriter.writeOnStatus (encoder : ChunkEncoder) (transactionId : UInt64)
    (level code description : String) : Except WriteFault Bytes := do
  let name ← amf0Write (Amf0Encoder.encodeString "onStatus")
  let information ← amf0Write (Amf0Encoder.encode (.object
    [("level", .string level), ("code", .string code), ("description", .string description)]))
  writeMessage encoder commandChunkStream .commandAMF0
    (name ++ Amf0Encoder.encodeNumber transactionId ++ Amf0Encoder.encodeNull ++ information)

/-- The event type and the stream that begins. -/
def EventMessagesWriter.writeStreamBegin (encoder : ChunkEncoder) (streamId : UInt32) :
    Except WriteFault Bytes :=
  writeMessage encoder 2 .userControlEvent (toBytesBE 2 0 ++ toBytesBE 4 streamId.toNat)

end ScuffleVideo.Rtmp
