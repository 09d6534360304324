import ScuffleVideo.Rtmp.Handshake
import ScuffleVideo.Rtmp.Messages
import ScuffleVideo.Rtmp.Responses

/-!
# The server session

The part of a session that follows the handshake.  It reads from the network,
takes messages out of its buffer and handles them one by one: commands change
what is published and are answered, media is sent to the consumer of the
published stream.  The consumers' answers and what the network delivers come
from outside.
-/

namespace ScuffleVideo.Rtmp.Server

open Wire Wire.Reader Amf0

abbrev UniqueID := BitVec 128

inductive ChannelData where
  | video (timestamp : UInt32) (data : Bytes)
  | audio (timestamp : UInt32) (data : Bytes)
  | metadata (timestamp : UInt32) (data : Bytes)
  deriving DecidableEq, Repr

inductive SessionError where
  | handshake (fault : Handshake.HandshakeFault)
  | message (error : MessageError)
  | chunkDecode (fault : DecodeFault)
  | write (fault : WriteFault)
  | unknownStreamID (streamId : UInt32)
  | io (clientClosed : Bool)
  | timeout
  | noAppName
  | noStreamName
  | publishRequestDenied
  | playNotSupported
  | publisherDropped
  | invalidChunkSize (chunkSize : Nat)

def SessionError.isClientClosed : SessionError → Bool
  | .io clientClosed => clientClosed
  | .timeout => true
  | _ => false

inductive RtmpCommand where
  | connect
  | createStream
  | publish
  | play
  | deleteStream
  | closeStream
  | releaseStream
  | unknown (command : String)
  deriving DecidableEq, Repr

def RtmpCommand.ofName (command : String) : RtmpCommand :=
  if command = "connect" then .connect
  else if command = "createStream" then .createStream
  else if command = "deleteStream" then .deleteStream
  else if command = "publish" then .publish
  else if command = "play" then .play
  else if command = "closeStream" then .closeStream
  else if command = "releaseStream" then .releaseStream
  else .unknown command

/-- The session.  `sent` is what the data consumer has received. -/
structure Session where
  appName : Option String
  uid : Option UniqueID
  readBuf : Bytes
  writeBuf : Bytes
  skipRead : Bool
  chunkDecoder : ChunkDecoder
  chunkEncoder : ChunkEncoder
  streamId : UInt32
  isPublishing : Bool
  sent : List ChannelData

def chunkSize : Nat := 4096

/-- How the consumers answer while one message is handled: the id an accepted
publish request is given, and whether a media item is taken. -/
structure Answer where
  publish : Option UniqueID
  data : Bool

/-- The number as `as u32` casts it: toward zero, clamped, and zero if it is no
number. -/
def asU32 (bits : UInt64) : UInt32 :=
  let negative := 2 ^ 63 ≤ bits.toNat
  let exponent := bits.toNat / 2 ^ 52 % 2 ^ 11
  let fraction := bits.toNat % 2 ^ 52
  if negative then 0
  else if exponent = 2047 then if fraction = 0 then 0xFFFFFFFF else 0
  else if exponent < 1023 then 0
  else UInt32.ofNat (min ((2 ^ 52 + fraction) * 2 ^ (exponent - 1023) / 2 ^ 52) 0xFFFFFFFF)

example : asU32 0x3FF0000000000000 = 1 ∧ asU32 0x4010000000000000 = 4 ∧
    asU32 0x41EFFFFFFFE00000 = 0xFFFFFFFF ∧ asU32 0x3FE0000000000000 = 0 := by
  decide

namespace Session

def new : Session where
  appName := none
  uid := none
  readBuf := []
  writeBuf := []
  skipRead := false
  chunkDecoder := ChunkDecoder.default
  chunkEncoder := ChunkEncoder.default
  streamId := 0
  isPublishing := false
  sent := []

/-- A new session as the handshake leaves it, with what it has read too far and
what it has still to write. -/
def ready (readBuf writeBuf : Bytes) (skipRead : Bool) : Session :=
  { new with
    readBuf := readBuf
    writeBuf := writeBuf
    skipRead := skipRead
    chunkEncoder := ChunkEncoder.default.setChunkSize chunkSize }

/-- A step of the session and how it ends. -/
abbrev Step := Session × Except SessionError Unit

def andThen (first : Step) (next : Session → Step) : Step :=
  match first with
  | (session, .ok ()) => next session
  | (session, .error error) => (session, .error error)

/-- Append a response to the output. -/
def write (session : Session) (response : ChunkEncoder → Except WriteFault Bytes) : Step :=
  match response session.chunkEncoder with
  | .ok bytes => ({ session with writeBuf := session.writeBuf ++ bytes }, .ok ())
  | .error fault => (session, .error (.write fault))

/-- Tell the client the chunk size and use it from then on. -/
def sendSetChunkSize (session : Session) : Step :=
  andThen (session.write fun encoder =>
    ProtocolControlMessagesWriter.writeSetChunkSize encoder (UInt32.ofNat chunkSize))
  fun session =>
    ({ session with chunkEncoder := session.chunkEncoder.setChunkSize chunkSize }, .ok ())

def onSetChunkSize (session : Session) (size : Nat) : Step :=
  match session.chunkDecoder.updateMaxChunkSize size with
  | (true, decoder) => ({ session with chunkDecoder := decoder }, .ok ())
  | (false, decoder) => ({ session with chunkDecoder := decoder }, .error (.invalidChunkSize size))

def onData (answer : Answer) (session : Session) (streamId : UInt32) (data : ChannelData) : Step :=
  if streamId ≠ session.streamId ∨ session.isPublishing = false then
    (session, .error (.unknownStreamID streamId))
  else if answer.data then ({ session with sent := session.sent ++ [data] }, .ok ())
  else (session, .error .publisherDropped)

def onCommandConnect (session : Session) (transactionId : UInt64)
    (commandObj : List (String × Amf0Value)) : Step :=
  andThen (session.write fun encoder =>
    ProtocolControlMessagesWriter.writeWindowAcknowledgementSize encoder (UInt32.ofNat chunkSize))
  fun session =>
  andThen (session.write fun encoder =>
    ProtocolControlMessagesWriter.writeSetPeerBandwidth encoder (UInt32.ofNat chunkSize) 2)
  fun session =>
  match commandObj.find? fun property => property.1 == "app" with
  | some (_, .string app) =>
      { session with appName := some app }.write fun encoder =>
        NetConnection.writeConnectResponse encoder transactionId "FMS/3,0,1,123"
          0x403F000000000000 "NetConnection.Connect.Success" "status" "Connection Succeeded." 0
  | _ => (session, .error .noAppName)

/-- The created stream has the id one. -/
def onCommandCreateStream (session : Session) (transactionId : UInt64) : Step :=
  session.write fun encoder =>
    NetConnection.writeCreateStreamResponse encoder transactionId 0x3FF0000000000000

/-- The stream that a delete command names. -/
def deletedStream (others : List Amf0Value) : UInt32 :=
  match others.head? with
  | some (.number streamId) => asU32 streamId
  | _ => asU32 0

def onCommandDeleteStream (session : Session) (transactionId : UInt64)
    (others : List Amf0Value) : Step :=
  let session :=
    if session.streamId = deletedStream others ∧ session.isPublishing = true then
      { session with streamId := 0, isPublishing := false }
    else session
  session.write fun encoder =>
    NetStreamWriter.writeOnStatus encoder transactionId "status" "NetStream.DeleteStream.Suceess" ""

def onCommandPublish (answer : Answer) (session : Session) (transactionId : UInt64)
    (streamId : UInt32) (others : List Amf0Value) : Step :=
  match others.head? with
  | some (.string _) =>
      match session.appName with
      | none => (session, .error .noAppName)
      | some _ =>
          match answer.publish with
          | none => (session, .error .publishRequestDenied)
          | some uid =>
              andThen ({ session with uid := some uid, isPublishing := true, streamId := streamId }.write
                fun encoder => EventMessagesWriter.writeStreamBegin encoder streamId)
              fun session => session.write fun encoder =>
                NetStreamWriter.writeOnStatus encoder transactionId "status"
                  "NetStream.Publish.Start" ""
  | _ => (session, .error .noStreamName)

/-- The command of a name that may be any value. -/
def commandOf : Amf0Value → RtmpCommand
  | .string name => .ofName name
  | _ => .ofName ""

def transactionOf : Amf0Value → UInt64
  | .number bits => bits
  | _ => 0

def propertiesOf : Amf0Value → List (String × Amf0Value)
  | .object properties => properties
  | _ => []

def onAmf0CommandMessage (answer : Answer) (session : Session) (streamId : UInt32)
    (commandName transactionId commandObject : Amf0Value) (others : List Amf0Value) : Step :=
  match commandOf commandName with
  | .connect =>
      onCommandConnect session (transactionOf transactionId) (propertiesOf commandObject)
  | .createStream => onCommandCreateStream session (transactionOf transactionId)
  | .deleteStream => onCommandDeleteStream session (transactionOf transactionId) others
  | .play => (session, .error .playNotSupported)
  | .publish => onCommandPublish answer session (transactionOf transactionId) streamId others
  | .closeStream => (session, .ok ())
  | .releaseStream => (session, .ok ())
  | .unknown _ => (session, .ok ())

def processMessages (answer : Answer) (session : Session) (message : RtmpMessageData)
    (streamId timestamp : UInt32) : Step :=
  match message with
  | .amf0Command commandName transactionId commandObject others =>
      onAmf0CommandMessage answer session streamId commandName transactionId commandObject others
  | .setChunkSize size => session.onSetChunkSize size.toNat
  | .audioData data => onData answer session streamId (.audio timestamp data)
  | .videoData data => onData answer session streamId (.video timestamp data)
  | .amfData data => onData answer session streamId (.metadata timestamp data)

end Session

/-- A message as it is handled, with the answers it gets from the consumers. -/
structure Received where
  message : RtmpMessageData
  streamId : UInt32
  timestamp : UInt32
  answer : Answer

def Session.handle (session : Session) (received : Received) : Session.Step :=
  session.processMessages received.answer received.message received.streamId received.timestamp

/-- The handled messages with the session after each of them, the session at the
end, and how it ends. -/
structure Progress (α : Type) where
  transcript : List (Received × Session)
  session : Session
  result : α

/-- Why the network gives nothing. -/
inductive IoFailure where
  | io (clientClosed : Bool)
  | timeout
  deriving DecidableEq, Repr

def IoFailure.error : IoFailure → SessionError
  | .io clientClosed => .io clientClosed
  | .timeout => .timeout

/-- One round of the ready phase as the outside takes part in it: what a read
delivers, how the consumers answer the messages of the round, and whether the
output can be written. -/
structure Turn where
  read : Except IoFailure Bytes
  answers : Nat → Answer
  flush : Except IoFailure Unit

namespace Session

variable (checks : OverflowChecks) (shortRead : ShortRead)

/-- The loop of `parse_chunks`.  Every chunk consumes a header byte. -/
def parseChunksLoop (answers : Nat → Answer) :
    Nat → Nat → Session → Progress (Except SessionError Unit)
  | 0, _, session => ⟨[], session, .ok ()⟩
  | fuel + 1, index, session =>
      match session.chunkDecoder.readChunk checks session.readBuf with
      | (.error fault, decoder, readBuf) =>
          ⟨[], { session with chunkDecoder := decoder, readBuf := readBuf },
            .error (.chunkDecode fault)⟩
      | (.ok none, decoder, readBuf) =>
          ⟨[], { session with chunkDecoder := decoder, readBuf := readBuf }, .ok ()⟩
      | (.ok (some chunk), decoder, readBuf) =>
          let session := { session with chunkDecoder := decoder, readBuf := readBuf }
          match MessageParser.parse shortRead chunk with
          | .error error => ⟨[], session, .error (.message error)⟩
          | .ok none => parseChunksLoop answers fuel index session
          | .ok (some message) =>
              let received : Received :=
                ⟨message, chunk.messageHeader.msgStreamId, chunk.messageHeader.timestamp,
                  answers index⟩
              match session.handle received with
              | (session, .error error) => ⟨[(received, session)], session, .error error⟩
              | (session, .ok ()) =>
                  let rest := parseChunksLoop answers fuel (index + 1) session
                  ⟨(received, session) :: rest.transcript, rest.session, rest.result⟩

def parseChunks (answers : Nat → Answer) (session : Session) :
    Progress (Except SessionError Unit) :=
  parseChunksLoop checks shortRead answers (session.readBuf.length + 1) 0 session

/-- One round: read unless bytes are left from the handshake, then parse.  A read
of nothing ends the session. -/
def doReady (session : Session) (turn : Turn) : Progress (Except SessionError Bool) :=
  let parsed := fun session : Session =>
    let progress := parseChunks checks shortRead turn.answers session
    (⟨progress.transcript, progress.session, progress.result.map fun _ => true⟩ :
      Progress (Except SessionError Bool))
  if session.skipRead then parsed { session with skipRead := false }
  else
    match turn.read with
    | .error failure => ⟨[], session, .error failure.error⟩
    | .ok bytes =>
        if bytes.isEmpty then ⟨[], session, .ok false⟩
        else parsed { session with readBuf := session.readBuf ++ bytes }

def flush (session : Session) (written : Except IoFailure Unit) : Step :=
  if session.writeBuf.isEmpty then (session, .ok ())
  else
    match written with
    | .ok () => ({ session with writeBuf := [] }, .ok ())
    | .error failure => (session, .error failure.error)

/-- The ready phase of `run`.  There is no result while the session waits for its
next turn. -/
def runReady (session : Session) : List Turn → Progress (Option (Except SessionError Bool))
  | [] => ⟨[], session, none⟩
  | turn :: turns =>
      match doReady checks shortRead session turn with
      | ⟨transcript, session, .error error⟩ =>
          if error.isClientClosed then ⟨transcript, session, some (.ok (!session.isPublishing))⟩
          else ⟨transcript, session, some (.error error)⟩
      | ⟨transcript, session, .ok false⟩ =>
          ⟨transcript, session, some (.ok (!session.isPublishing))⟩
      | ⟨transcript, session, .ok true⟩ =>
          match session.flush turn.flush with
          | (session, .error error) => ⟨transcript, session, some (.error error)⟩
          | (session, .ok ()) =>
              let rest := runReady session turns
              ⟨transcript ++ rest.transcript, rest.session, rest.result⟩

end Session

end ScuffleVideo.Rtmp.Server
