import ScuffleVideo.Amf0.RoundTrip
import ScuffleVideo.Rtmp.Receiving

/-!
# What a session answers

Everything that a session writes after the handshake is a stream of messages: the
announcement of its chunk size and the replies to the messages it has handled, in
order.  Whoever decodes it as a session decodes its own input gets these messages,
whatever the client has sent and however the output is cut.  Only the messages of
the round in which a session fails can be left without their replies, and a flush
that fails may have written the first part of its output.
-/

namespace ScuffleVideo.Rtmp.Server

open Wire Wire.Reader Amf0 Amf0Encoder

/-- A message of the server, by what it conveyed. -/
inductive Reply where
  | chunkSize (size : UInt32)
  | windowAcknowledgement (size : UInt32)
  | peerBandwidth (size : UInt32) (limitType : UInt8)
  | streamBegin (streamId : UInt32)
  | command (name : String) (transactionId : UInt64) (object information : Amf0Value)

/-- The chunk says it.  A command and an announcement are read by the parser of the
messages; the others are given by their bytes. -/
def Reply.Conveys (shortRead : ShortRead) (chunk : Chunk) : Reply → Prop
  | .chunkSize size => MessageParser.parse shortRead chunk = .ok (some (.setChunkSize size))
  | .windowAcknowledgement size =>
      chunk.messageHeader.msgTypeId = .windowAcknowledgementSize ∧
        chunk.payload = toBytesBE 4 size.toNat
  | .peerBandwidth size limitType =>
      chunk.messageHeader.msgTypeId = .setPeerBandwidth ∧
        chunk.payload = toBytesBE 4 size.toNat ++ [limitType]
  | .streamBegin streamId =>
      chunk.messageHeader.msgTypeId = .userControlEvent ∧
        chunk.payload = toBytesBE 2 0 ++ toBytesBE 4 streamId.toNat
  | .command name transactionId object information =>
      MessageParser.parse shortRead chunk =
        .ok (some (.amf0Command (.string name) (.number transactionId) object [information]))

/-- What is said does not depend on the fields that only the decoder uses. -/
theorem Reply.Conveys.congr {shortRead : ShortRead} {reply : Reply} {chunk other : Chunk}
    (told : reply.Conveys shortRead chunk) (same : chunk.message = other.message) :
    reply.Conveys shortRead other := by
  have type : chunk.messageHeader.msgTypeId = other.messageHeader.msgTypeId :=
    congrArg Message.msgTypeId same
  have payload : chunk.payload = other.payload := congrArg Message.payload same
  have parsed : MessageParser.parse shortRead chunk = MessageParser.parse shortRead other := by
    unfold MessageParser.parse
    rw [type, payload]
  cases reply with
  | chunkSize size => exact parsed.symm.trans told
  | windowAcknowledgement size => exact ⟨type.symm.trans told.1, payload.symm.trans told.2⟩
  | peerBandwidth size limitType => exact ⟨type.symm.trans told.1, payload.symm.trans told.2⟩
  | streamBegin streamId => exact ⟨type.symm.trans told.1, payload.symm.trans told.2⟩
  | command name transactionId object information => exact parsed.symm.trans told

/-! ## Commands -/

/-- What a status message says. -/
def statusInformation (code : String) : Amf0Value :=
  .object [("level", .string "status"), ("code", .string code), ("description", .string "")]

def connectProperties : Amf0Value :=
  .object [("fmsVer", .string "FMS/3,0,1,123"), ("capabilities", .number 0x403F000000000000)]

def connectInformation : Amf0Value :=
  .object [("level", .string "status"), ("code", .string "NetConnection.Connect.Success"),
    ("description", .string "Connection Succeeded."), ("objectEncoding", .number 0)]

/-- What the session answers when it handles the message without an error. -/
def Received.replies (received : Received) : List Reply :=
  match received.message with
  | .amf0Command commandName transactionId _ _ =>
      let transactionId := Session.transactionOf transactionId
      match Session.commandOf commandName with
      | .connect =>
          [.windowAcknowledgement 4096, .peerBandwidth 4096 2,
            .command "_result" transactionId connectProperties connectInformation]
      | .createStream => [.command "_result" transactionId .null (.number 0x3FF0000000000000)]
      | .deleteStream =>
          [.command "onStatus" transactionId .null
            (statusInformation "NetStream.DeleteStream.Suceess")]
      | .publish =>
          [.streamBegin received.streamId,
            .command "onStatus" transactionId .null
              (statusInformation "NetStream.Publish.Start")]
      | _ => []
  | _ => []

section Commands

variable {name : String} {nameBytes objectBytes informationBytes : Bytes}
  {object information : Amf0Value}

theorem encodeString_marker (written : encodeString name = .ok nameBytes) :
    ∃ rest, nameBytes = Amf0Marker.string.byte :: rest := by
  unfold encodeString at written
  split at written
  · cases written
  · cases written
    exact ⟨_, rfl⟩

theorem encode_object_marker {properties : List (String × Amf0Value)}
    (written : encode (.object properties) = .ok objectBytes) :
    ∃ rest, objectBytes = Amf0Marker.object.byte :: rest := by
  rw [encode] at written
  obtain ⟨inner, _, same⟩ := sequence_eq_ok_iff.mp written
  cases same
  exact ⟨_, rfl⟩

/-- A command that is written value by value is read as that command. -/
theorem parse_command (shortRead : ShortRead) (transactionId : UInt64)
    (nameFits : Fits name) (nameWritten : encodeString name = .ok nameBytes)
    (isObject : object = .null ∨ ∃ properties, object = .object properties)
    (objectRepresentable : Representable object) (objectWritten : encode object = .ok objectBytes)
    (informationRepresentable : Representable information)
    (informationWritten : encode information = .ok informationBytes) {chunk : Chunk}
    (type : chunk.messageHeader.msgTypeId = .commandAMF0)
    (payload : chunk.payload =
      nameBytes ++ encodeNumber transactionId ++ objectBytes ++ informationBytes) :
    MessageParser.parse shortRead chunk =
      .ok (some (.amf0Command (.string name) (.number transactionId) object [information])) := by
  have whole : StandsAt chunk.payload 0
      (nameBytes ++ (encodeNumber transactionId ++ (objectBytes ++ informationBytes))) :=
    ⟨[], [], by rw [payload]; simp, rfl⟩
  obtain ⟨nameStands, rest⟩ := StandsAt.append_iff.mp whole
  obtain ⟨idStands, rest⟩ := StandsAt.append_iff.mp rest
  obtain ⟨objectStands, informationStands⟩ := StandsAt.append_iff.mp rest
  have nameSpelled := spells_encode (.string name) 0 nameBytes nameFits
    (by rw [encode]; exact nameWritten) nameStands
  rw [Nat.zero_add] at nameSpelled idStands objectStands informationStands
  have idSpelled := spells_encode (.number transactionId) nameBytes.length
    (encodeNumber transactionId) trivial (by rw [encode]) idStands
  have objectSpelled := spells_encode object _ objectBytes objectRepresentable objectWritten
    objectStands
  have informationSpelled := spells_encode information _ informationBytes
    informationRepresentable informationWritten informationStands
  have isString : StandsAt chunk.payload 0 [Amf0Marker.string.byte] := by
    obtain ⟨rest, rfl⟩ := encodeString_marker nameWritten
    exact (StandsAt.cons_iff.mp nameStands).1
  have isNumber : StandsAt chunk.payload nameBytes.length [Amf0Marker.number.byte] :=
    (StandsAt.cons_iff.mp idStands).1
  have attempted : MessageParser.Attempted shortRead chunk.payload
      (nameBytes.length + (encodeNumber transactionId).length) object
      (nameBytes.length + (encodeNumber transactionId).length + objectBytes.length) := by
    rcases isObject with rfl | ⟨properties, rfl⟩
    · rw [encode] at objectWritten
      cases objectWritten
      exact .null objectStands
    · obtain ⟨rest, rfl⟩ := encode_object_marker objectWritten
      exact .object (StandsAt.cons_iff.mp objectStands).1 objectSpelled
  have ended : nameBytes.length + (encodeNumber transactionId).length + objectBytes.length +
      informationBytes.length = chunk.payload.length := by
    rw [payload]
    simp only [List.length_append]
  have sequence : Sequence chunk.payload [information]
      (nameBytes.length + (encodeNumber transactionId).length + objectBytes.length) := by
    refine .cons informationSpelled ?_
    rw [ended]
    exact .nil
  have accepted : MessageParser.Accepted shortRead chunk.payload
      (.amf0Command (.string name) (.number transactionId) object [information]) :=
    .command isString nameSpelled isNumber idSpelled attempted sequence
  rw [MessageParser.parse, type]
  dsimp only
  rw [MessageParser.parseCommand_of_accepted accepted]

end Commands

/-! ## The writers -/

/-- A chunk that carries the reply and that every receiver accepts. -/
structure Carries (shortRead : ShortRead) (reply : Reply) (chunk : Chunk) : Prop where
  sendable : chunk.Sendable
  other : chunk.messageHeader.msgTypeId ≠ .setChunkSize
  stream : chunk.basicHeader.chunkStreamId ∈ [2, 3]
  conveyed : reply.Conveys shortRead chunk

theorem Carries.legal {shortRead : ShortRead} {reply : Reply} {chunk : Chunk}
    (carries : Carries shortRead reply chunk) : chunk.Legal where
  sendable := carries.sendable
  announced := fun announces => absurd announces carries.other

/-- The writer writes the reply, whatever the chunk size. -/
def Sends (shortRead : ShortRead) (reply : Reply)
    (response : ChunkEncoder → Except WriteFault Bytes) : Prop :=
  ∃ chunk, Carries shortRead reply chunk ∧
    ∀ encoder, response encoder = (encoder.writeChunk chunk).mapError .chunkEncode

/-- The value is encoded in at most so many bytes. -/
def encodesWithin (value : Amf0Value) (limit : Nat) : Bool :=
  match encode value with
  | .ok bytes => decide (bytes.length ≤ limit)
  | .error _ => false

section Writers

variable {shortRead : ShortRead}

theorem exists_of_encodesWithin {value : Amf0Value} {limit : Nat}
    (within : encodesWithin value limit = true) :
    ∃ bytes, encode value = .ok bytes ∧ bytes.length ≤ limit := by
  unfold encodesWithin at within
  split at within
  · rename_i bytes written
    exact ⟨bytes, written, of_decide_eq_true within⟩
  · cases within

/-- A message on one of the two chunk streams of the server. -/
theorem sends_message {chunkStreamId : UInt32} {msgTypeId : MessageTypeID} {payload : Bytes}
    {reply : Reply} {response : ChunkEncoder → Except WriteFault Bytes}
    (stream : chunkStreamId ∈ [2, 3]) (small : payload.length ≤ 10485760)
    (other : msgTypeId ≠ .setChunkSize)
    (conveyed : reply.Conveys shortRead (Chunk.new chunkStreamId 0 msgTypeId 0 payload))
    (written : ∀ encoder, response encoder = writeMessage encoder chunkStreamId msgTypeId payload) :
    Sends shortRead reply response := by
  have range : 2 ≤ chunkStreamId.toNat ∧ chunkStreamId.toNat ≤ 65599 := by
    rcases List.mem_cons.mp stream with rfl | stream
    · decide
    · obtain rfl := List.mem_singleton.mp stream
      decide
  exact ⟨_, ⟨⟨_, _, _, _, _, rfl, range.1, range.2, small⟩, other, stream, conveyed⟩, written⟩

theorem sends_windowAcknowledgement (size : UInt32) :
    Sends shortRead (.windowAcknowledgement size) fun encoder =>
      ProtocolControlMessagesWriter.writeWindowAcknowledgementSize encoder size :=
  sends_message (by decide) (Nat.le_trans (Nat.le_of_eq (length_toBytesBE 4 _)) (by decide))
    (by decide) ⟨rfl, rfl⟩ fun _ => rfl

theorem sends_peerBandwidth (size : UInt32) (limitType : UInt8) :
    Sends shortRead (.peerBandwidth size limitType) fun encoder =>
      ProtocolControlMessagesWriter.writeSetPeerBandwidth encoder size limitType :=
  sends_message (by decide)
    (by rw [List.length_append, length_toBytesBE, List.length_singleton]; decide) (by decide)
    ⟨rfl, rfl⟩ fun _ => rfl

theorem sends_streamBegin (streamId : UInt32) :
    Sends shortRead (.streamBegin streamId) fun encoder =>
      EventMessagesWriter.writeStreamBegin encoder streamId :=
  sends_message (by decide)
    (by rw [List.length_append, length_toBytesBE, length_toBytesBE]; decide) (by decide)
    ⟨rfl, rfl⟩ fun _ => rfl

/-- A command whose values are written one after the other. -/
theorem sends_command {name : String} {object information : Amf0Value} (transactionId : UInt64)
    {response : ChunkEncoder → Except WriteFault Bytes}
    (nameWithin : encodesWithin (.string name) 1000 = true)
    (isObject : object = .null ∨ ∃ properties, object = .object properties)
    (objectRepresentable : Representable object)
    (objectWithin : encodesWithin object 1000 = true)
    (informationRepresentable : Representable information)
    (informationWithin : encodesWithin information 1000 = true)
    (written : ∀ encoder nameBytes objectBytes informationBytes,
      encodeString name = .ok nameBytes → encode object = .ok objectBytes →
      encode information = .ok informationBytes →
      response encoder = writeMessage encoder commandChunkStream .commandAMF0
        (nameBytes ++ encodeNumber transactionId ++ objectBytes ++ informationBytes)) :
    Sends shortRead (.command name transactionId object information) response := by
  obtain ⟨nameBytes, nameWritten, nameSize⟩ := exists_of_encodesWithin nameWithin
  obtain ⟨objectBytes, objectWritten, objectSize⟩ := exists_of_encodesWithin objectWithin
  obtain ⟨informationBytes, informationWritten, informationSize⟩ :=
    exists_of_encodesWithin informationWithin
  rw [encode] at nameWritten
  have nameFits : Fits name := (encodeString_ok_iff name).mp ⟨nameBytes, nameWritten⟩
  have numberSize : (encodeNumber transactionId).length = 9 := rfl
  refine sends_message (by decide) ?_ (by decide) ?_ fun encoder =>
    written encoder nameBytes objectBytes informationBytes nameWritten objectWritten
      informationWritten
  · simp only [List.length_append]
    omega
  · exact parse_command shortRead transactionId nameFits nameWritten isObject objectRepresentable
      objectWritten informationRepresentable informationWritten rfl rfl

theorem sends_connectResponse (transactionId : UInt64) :
    Sends shortRead (.command "_result" transactionId connectProperties connectInformation)
      fun encoder => NetConnection.writeConnectResponse encoder transactionId "FMS/3,0,1,123"
        0x403F000000000000 "NetConnection.Connect.Success" "status" "Connection Succeeded." 0 := by
  refine sends_command transactionId (by decide +kernel) (.inr ⟨_, rfl⟩) ?_ (by decide +kernel) ?_
    (by decide +kernel) ?_
  · simp only [Representable, connectProperties, Amf0Value.Every, EveryProperty, HasForm, Fits]
    decide +kernel
  · simp only [Representable, connectInformation, Amf0Value.Every, EveryProperty, HasForm, Fits]
    decide +kernel
  · intro encoder nameBytes objectBytes informationBytes nameWritten objectWritten
      informationWritten
    unfold connectProperties at objectWritten
    unfold connectInformation at informationWritten
    rw [NetConnection.writeConnectResponse, nameWritten, objectWritten, informationWritten]
    rfl

theorem sends_createStreamResponse (transactionId : UInt64) :
    Sends shortRead (.command "_result" transactionId .null (.number 0x3FF0000000000000))
      fun encoder =>
        NetConnection.writeCreateStreamResponse encoder transactionId 0x3FF0000000000000 := by
  refine sends_command transactionId (by decide +kernel) (.inl rfl) trivial (by decide +kernel)
    trivial (by decide +kernel) ?_
  intro encoder nameBytes objectBytes informationBytes nameWritten objectWritten informationWritten
  simp only [encode, Except.ok.injEq] at objectWritten informationWritten
  subst objectWritten informationWritten
  rw [NetConnection.writeCreateStreamResponse, nameWritten]
  rfl

theorem sends_onStatus {code : String} (transactionId : UInt64)
    (representable : Representable (statusInformation code))
    (within : encodesWithin (statusInformation code) 1000 = true) :
    Sends shortRead (.command "onStatus" transactionId .null (statusInformation code))
      fun encoder => NetStreamWriter.writeOnStatus encoder transactionId "status" code "" := by
  refine sends_command transactionId (by decide +kernel) (.inl rfl) trivial (by decide +kernel)
    representable within ?_
  intro encoder nameBytes objectBytes informationBytes nameWritten objectWritten informationWritten
  rw [encode] at objectWritten
  cases objectWritten
  unfold statusInformation at informationWritten
  rw [NetStreamWriter.writeOnStatus, nameWritten, informationWritten]
  rfl

end Writers

/-! ## The handlers -/

/-- The bytes carry the replies, one message after the other. -/
def Written (shortRead : ShortRead) (encoder : ChunkEncoder) (replies : List Reply)
    (bytes : Bytes) : Prop :=
  ∃ chunks, List.Forall₂ (Carries shortRead) replies chunks ∧ encoder.writeStream chunks = .ok bytes

theorem writeStream_append {encoder : ChunkEncoder} {chunks others : List Chunk}
    {bytes more : Bytes} (quiet : ∀ chunk ∈ chunks, encoder.afterSending chunk = encoder)
    (written : encoder.writeStream chunks = .ok bytes)
    (further : encoder.writeStream others = .ok more) :
    encoder.writeStream (chunks ++ others) = .ok (bytes ++ more) := by
  induction chunks generalizing bytes with
  | nil =>
      cases written
      exact further
  | cons chunk chunks ih =>
      have same := quiet chunk List.mem_cons_self
      rw [ChunkEncoder.writeStream] at written
      obtain ⟨first, firstWritten, written⟩ := sequence_eq_ok_iff.mp written
      obtain ⟨rest, restWritten, written⟩ := sequence_eq_ok_iff.mp written
      cases written
      rw [same] at restWritten
      rw [List.cons_append, List.append_assoc]
      refine writeStream_cons firstWritten ?_
      rw [same]
      exact ih (fun other member => quiet other (List.mem_cons_of_mem _ member)) restWritten

section Written

variable {shortRead : ShortRead} {encoder : ChunkEncoder} {replies others : List Reply}
  {bytes more : Bytes}

theorem Written.nil : Written shortRead encoder [] [] := ⟨[], .nil, rfl⟩

theorem carries_quiet {chunks : List Chunk}
    (carried : List.Forall₂ (Carries shortRead) replies chunks) :
    ∀ chunk ∈ chunks, ∃ reply, Carries shortRead reply chunk := by
  induction carried with
  | nil => exact fun chunk member => absurd member List.not_mem_nil
  | @cons reply chunk replies chunks carries rest ih =>
      intro other member
      rcases List.mem_cons.mp member with rfl | member
      · exact ⟨reply, carries⟩
      · exact ih other member

theorem Written.append (written : Written shortRead encoder replies bytes)
    (further : Written shortRead encoder others more) :
    Written shortRead encoder (replies ++ others) (bytes ++ more) := by
  obtain ⟨chunks, carried, written⟩ := written
  obtain ⟨rest, carriedRest, further⟩ := further
  refine ⟨chunks ++ rest, List.rel_append carried carriedRest,
    writeStream_append (fun chunk member => ?_) written further⟩
  obtain ⟨reply, carries⟩ := carries_quiet carried chunk member
  exact ChunkEncoder.afterSending_of_other carries.other

/-- A writer that sends a reply writes it, in every positive chunk size. -/
theorem Sends.written {reply : Reply} {response : ChunkEncoder → Except WriteFault Bytes}
    (sends : Sends shortRead reply response) (positive : 0 < encoder.chunkSize) :
    ∃ bytes, response encoder = .ok bytes ∧ Written shortRead encoder [reply] bytes := by
  obtain ⟨chunk, carries, writes⟩ := sends
  have legal : ∀ other ∈ [chunk], other.Legal := by
    intro other member
    rw [List.mem_singleton.mp member]
    exact carries.legal
  obtain ⟨bytes, written⟩ := @writeStream_ok [chunk] encoder.chunkSize positive legal
  have stream := written
  rw [ChunkEncoder.writeStream] at written
  obtain ⟨first, firstWritten, written⟩ := sequence_eq_ok_iff.mp written
  cases written
  refine ⟨first ++ [], ?_, [chunk], .cons carries .nil, stream⟩
  rw [writes, List.append_nil]
  exact congrArg (Except.mapError WriteFault.chunkEncode) firstWritten

end Written

/-- The fields of a session that its writers work on. -/
structure Writing where
  chunkEncoder : ChunkEncoder
  writeBuf : Bytes

def Session.writing (session : Session) : Writing := ⟨session.chunkEncoder, session.writeBuf⟩

/-- A step that writes the replies if it does not fail, and does not fail because
of them. -/
structure Answers (shortRead : ShortRead) (writing : Writing) (replies : List Reply)
    (step : Session.Step) : Prop where
  encoder : step.1.chunkEncoder = writing.chunkEncoder
  cause : ∀ fault, step.2 ≠ .error (.write fault)
  written : step.2 = .ok () → ∃ bytes, Written shortRead writing.chunkEncoder replies bytes ∧
    step.1.writeBuf = writing.writeBuf ++ bytes

namespace Session

section Handlers

variable {shortRead : ShortRead} {writing : Writing} {session : Session}
  {replies others : List Reply}

theorem answers_ok (same : session.writing = writing) :
    Answers shortRead writing [] (session, .ok ()) := by
  subst same
  refine ⟨rfl, fun fault failed => ?_, fun _ => ⟨[], .nil, (List.append_nil _).symm⟩⟩
  cases failed

theorem answers_error (same : session.writing = writing) {error : SessionError}
    (cause : ∀ fault, error ≠ .write fault) :
    Answers shortRead writing replies (session, .error error) := by
  subst same
  refine ⟨rfl, fun fault failed => ?_, fun impossible => ?_⟩
  · cases failed
    exact cause fault rfl
  · cases impossible

theorem answers_write {reply : Reply} {response : ChunkEncoder → Except WriteFault Bytes}
    (same : session.writing = writing) (positive : 0 < writing.chunkEncoder.chunkSize)
    (sends : Sends shortRead reply response) :
    Answers shortRead writing [reply] (session.write response) := by
  subst same
  obtain ⟨bytes, done, written⟩ := sends.written positive
  have step : session.write response =
      ({ session with writeBuf := session.writeBuf ++ bytes }, .ok ()) := by
    rw [write]
    rw [show response session.chunkEncoder = .ok bytes from done]
  rw [step]
  refine ⟨rfl, fun fault failed => ?_, fun _ => ⟨bytes, written, rfl⟩⟩
  cases failed

theorem answers_andThen {first : Step} {next : Session → Step}
    (answers : Answers shortRead writing replies first)
    (later : ∀ reached : Session, reached.chunkEncoder = writing.chunkEncoder →
      Answers shortRead reached.writing others (next reached)) :
    Answers shortRead writing (replies ++ others) (andThen first next) := by
  rcases andThen_cases first next with ⟨error, failed, result⟩ | ⟨done, result⟩
  · rw [result]
    refine ⟨answers.encoder, fun fault same => answers.cause fault ?_, fun impossible => ?_⟩
    · cases same
      exact failed
    · cases impossible
  · rw [result]
    have further := later first.1 answers.encoder
    obtain ⟨bytes, written, grown⟩ := answers.written done
    refine ⟨further.encoder.trans answers.encoder, further.cause, fun finished => ?_⟩
    obtain ⟨more, writtenMore, grownMore⟩ := further.written finished
    have sameEncoder : first.1.writing.chunkEncoder = writing.chunkEncoder := answers.encoder
    rw [sameEncoder] at writtenMore
    refine ⟨bytes ++ more, written.append writtenMore, ?_⟩
    rw [grownMore, ← List.append_assoc, ← grown]
    rfl

theorem answers_onCommandConnect (same : session.writing = writing)
    (positive : 0 < writing.chunkEncoder.chunkSize) (transactionId : UInt64)
    (properties : List (String × Amf0Value)) :
    Answers shortRead writing
      [.windowAcknowledgement 4096, .peerBandwidth 4096 2,
        .command "_result" transactionId connectProperties connectInformation]
      (onCommandConnect session transactionId properties) := by
  refine answers_andThen (answers_write same positive (sends_windowAcknowledgement _))
    fun first firstSame => answers_andThen (answers_write rfl ?_ (sends_peerBandwidth _ _))
      fun second secondSame => ?_
  · rw [← firstSame] at positive
    exact positive
  · have stillPositive : 0 < second.writing.chunkEncoder.chunkSize := by
      rw [← firstSame] at positive
      change 0 < second.chunkEncoder.chunkSize
      rw [secondSame]
      exact positive
    split
    · rename_i app found
      exact @answers_write shortRead second.writing { second with appName := some app } _ _ rfl
        stillPositive (sends_connectResponse transactionId)
    · exact answers_error rfl (by rintro _ ⟨⟩)

theorem answers_onCommandPublish (same : session.writing = writing)
    (positive : 0 < writing.chunkEncoder.chunkSize) (answer : Answer) (transactionId : UInt64)
    (streamId : UInt32) (others : List Amf0Value) :
    Answers shortRead writing
      [.streamBegin streamId,
        .command "onStatus" transactionId .null (statusInformation "NetStream.Publish.Start")]
      (onCommandPublish answer session transactionId streamId others) := by
  unfold onCommandPublish
  split
  · split
    · exact answers_error same (by rintro _ ⟨⟩)
    · split
      · exact answers_error same (by rintro _ ⟨⟩)
      · rename_i uid accepted
        refine answers_andThen (@answers_write shortRead writing
            { session with uid := some uid, isPublishing := true, streamId := streamId } _ _ same
            positive (sends_streamBegin streamId)) fun first firstSame => ?_
        rw [← firstSame] at positive
        refine answers_write rfl positive (sends_onStatus transactionId ?_ (by decide +kernel))
        simp only [Representable, statusInformation, Amf0Value.Every, EveryProperty, HasForm, Fits]
        decide +kernel
  · exact answers_error same (by rintro _ ⟨⟩)

theorem answers_onCommandDeleteStream (same : session.writing = writing)
    (positive : 0 < writing.chunkEncoder.chunkSize) (transactionId : UInt64)
    (others : List Amf0Value) :
    Answers shortRead writing
      [.command "onStatus" transactionId .null
        (statusInformation "NetStream.DeleteStream.Suceess")]
      (onCommandDeleteStream session transactionId others) := by
  unfold onCommandDeleteStream
  refine answers_write ?_ positive (sends_onStatus transactionId ?_ (by decide +kernel))
  · split
    · exact same
    · exact same
  · simp only [Representable, statusInformation, Amf0Value.Every, EveryProperty, HasForm, Fits]
    decide +kernel

theorem answers_onData (same : session.writing = writing) (answer : Answer) (streamId : UInt32)
    (data : ChannelData) : Answers shortRead writing [] (onData answer session streamId data) := by
  unfold onData
  split
  · exact answers_error same (by rintro _ ⟨⟩)
  · split
    · exact @answers_ok shortRead writing { session with sent := session.sent ++ [data] } same
    · exact answers_error same (by rintro _ ⟨⟩)

/-- Handling a message writes its replies. -/
theorem handle_answers (session : Session) (positive : 0 < session.chunkEncoder.chunkSize)
    (received : Received) :
    Answers shortRead session.writing received.replies (session.handle received) := by
  unfold handle processMessages Received.replies
  cases received.message with
  | amf0Command commandName transactionId commandObject others =>
      unfold onAmf0CommandMessage
      dsimp only
      cases commandOf commandName with
      | connect => exact answers_onCommandConnect rfl positive _ _
      | createStream => exact answers_write rfl positive (sends_createStreamResponse _)
      | publish => exact answers_onCommandPublish rfl positive _ _ _ _
      | play => exact answers_error rfl (by rintro _ ⟨⟩)
      | deleteStream => exact answers_onCommandDeleteStream rfl positive _ _
      | closeStream => exact answers_ok rfl
      | releaseStream => exact answers_ok rfl
      | unknown name => exact answers_ok rfl
  | amfData data => exact answers_onData rfl _ _ _
  | setChunkSize size =>
      dsimp only
      unfold onSetChunkSize
      split
      · rename_i decoder updated
        exact @answers_ok shortRead session.writing { session with chunkDecoder := decoder } rfl
      · rename_i decoder refused
        exact @answers_error shortRead session.writing { session with chunkDecoder := decoder } []
          rfl _ (by rintro _ ⟨⟩)
  | audioData data => exact answers_onData rfl _ _ _
  | videoData data => exact answers_onData rfl _ _ _

end Handlers

/-! ## Rounds and runs -/

/-- The replies to the messages of a transcript. -/
def repliesTo (received : List Received) : List Reply := received.flatMap Received.replies

/-- A round that writes the replies to its messages if it does not fail. -/
structure RoundAnswers (shortRead : ShortRead) (writing : Writing)
    (round : Progress (Except SessionError Unit)) : Prop where
  encoder : round.session.chunkEncoder = writing.chunkEncoder
  cause : ∀ fault, round.result ≠ .error (.write fault)
  written : round.result = .ok () → ∃ bytes,
    Written shortRead writing.chunkEncoder (repliesTo (messages round.transcript)) bytes ∧
      round.session.writeBuf = writing.writeBuf ++ bytes

section Rounds

variable {checks : OverflowChecks} {shortRead : ShortRead}

theorem RoundAnswers.silent {session : Session} {result : Except SessionError Unit}
    (cause : ∀ fault, result ≠ .error (.write fault)) :
    RoundAnswers shortRead session.writing ⟨[], session, result⟩ :=
  ⟨rfl, cause, fun _ => ⟨[], .nil, (List.append_nil _).symm⟩⟩

/-- A handled message in front of a round. -/
theorem RoundAnswers.cons {writing : Writing} {received : Received} {reached : Session}
    {round : Progress (Except SessionError Unit)}
    (first : Answers shortRead writing received.replies (reached, .ok ()))
    (later : RoundAnswers shortRead reached.writing round) :
    RoundAnswers shortRead writing
      ⟨(received, reached) :: round.transcript, round.session, round.result⟩ := by
  have sameEncoder : reached.writing.chunkEncoder = writing.chunkEncoder := first.encoder
  refine ⟨later.encoder.trans sameEncoder, later.cause, fun finished => ?_⟩
  obtain ⟨bytes, written, grown⟩ := first.written rfl
  obtain ⟨more, writtenMore, grownMore⟩ := later.written finished
  rw [sameEncoder] at writtenMore
  refine ⟨bytes ++ more, written.append writtenMore, ?_⟩
  rw [grownMore, ← List.append_assoc, ← grown]
  rfl

theorem parseChunksLoop_answers (answers : Nat → Answer) (fuel index : Nat) (session : Session)
    (positive : 0 < session.chunkEncoder.chunkSize) :
    RoundAnswers shortRead session.writing
      (parseChunksLoop checks shortRead answers fuel index session) := by
  induction fuel generalizing index session with
  | zero => exact .silent (by rintro _ ⟨⟩)
  | succ fuel ih =>
      cases call : session.chunkDecoder.readChunk checks session.readBuf with
      | mk result after =>
          obtain ⟨decoder, rest⟩ := after
          cases result with
          | error fault =>
              rw [parseChunksLoop, call]
              exact @RoundAnswers.silent shortRead (session.readTo decoder rest) _ (by rintro _ ⟨⟩)
          | ok found =>
              cases found with
              | none =>
                  rw [parseChunksLoop, call]
                  exact @RoundAnswers.silent shortRead (session.readTo decoder rest) _
                    (by rintro _ ⟨⟩)
              | some chunk =>
                  cases parsed : MessageParser.parse shortRead chunk with
                  | error error =>
                      rw [parseChunksLoop_misformed call parsed]
                      exact @RoundAnswers.silent shortRead (session.readTo decoder rest) _
                        (by rintro _ ⟨⟩)
                  | ok found =>
                      cases found with
                      | none =>
                          rw [parseChunksLoop_unseen call parsed]
                          exact ih index (session.readTo decoder rest) positive
                      | some message =>
                          have step : Answers shortRead session.writing
                              (toReceived answers index chunk message).replies
                              ((session.readTo decoder rest).handle
                                (toReceived answers index chunk message)) :=
                            handle_answers (session.readTo decoder rest) positive _
                          cases handled : (session.readTo decoder rest).handle
                              (toReceived answers index chunk message) with
                          | mk reached result =>
                              rw [handled] at step
                              cases result with
                              | error error =>
                                  rw [parseChunksLoop_refused call parsed handled]
                                  exact ⟨step.encoder, step.cause, by rintro ⟨⟩⟩
                              | ok done =>
                                  rw [parseChunksLoop_handled call parsed handled]
                                  have same : reached.chunkEncoder = session.chunkEncoder :=
                                    step.encoder
                                  refine .cons step (ih (index + 1) reached ?_)
                                  rw [same]
                                  exact positive

/-- The two directions of a ready phase.  A round whose output is flushed is written as a
whole; of the output of a flush that fails, any first part may have been written. -/
structure Exchange where
  rounds : List (List Received)
  written : Bytes
  pending : List Received
  torn : Bytes

/-- What reaches the network. -/
def Exchange.output (exchange : Exchange) : Bytes := exchange.written ++ exchange.torn

/-- What the flushed rounds tell the client. -/
def Exchange.due (exchange : Exchange) : List Reply :=
  match exchange.rounds with
  | [] => []
  | rounds => .chunkSize 4096 :: repliesTo rounds.flatten

theorem Exchange.due_of_nil {exchange : Exchange} (none : exchange.rounds = []) :
    exchange.due = [] := by
  rw [due, none]

theorem Exchange.due_of_ne_nil {exchange : Exchange} (some : exchange.rounds ≠ []) :
    exchange.due = .chunkSize 4096 :: repliesTo exchange.rounds.flatten := by
  unfold due
  cases rounds : exchange.rounds with
  | nil => exact absurd rounds some
  | cons round rounds => rfl

theorem Exchange.due_prefix (exchange : Exchange) :
    exchange.due <+: .chunkSize 4096 :: repliesTo (exchange.rounds.flatten ++ exchange.pending) := by
  by_cases none : exchange.rounds = []
  · rw [due_of_nil none]
    exact List.nil_prefix
  · rw [due_of_ne_nil none, repliesTo, repliesTo, List.flatMap_append]
    exact List.prefix_append _ _

/-- What the ready phase handles and writes.  A flush that fails has written the first
`part` bytes. -/
def exchange (checks : OverflowChecks) (shortRead : ShortRead) (part : Nat) (session : Session) :
    List Turn → Exchange
  | [] => ⟨[], [], [], []⟩
  | turn :: turns =>
      match doReady checks shortRead session turn with
      | ⟨transcript, session, .ok true⟩ =>
          match session.flush turn.flush with
          | (flushed, .ok ()) =>
              let later := exchange checks shortRead part flushed turns
              ⟨messages transcript :: later.rounds, session.writeBuf ++ later.written,
                later.pending, later.torn⟩
          | (_, .error _) => ⟨[], [], messages transcript, session.writeBuf.take part⟩
      | ⟨transcript, _, _⟩ => ⟨[], [], messages transcript, []⟩

theorem flush_of_done {session flushed : Session} {written : Except IoFailure Unit}
    (done : session.flush written = (flushed, .ok ())) :
    flushed.writing = ⟨session.chunkEncoder, []⟩ := by
  unfold flush at done
  split at done
  · rename_i empty
    cases done
    rw [writing, List.isEmpty_iff.mp empty]
  · split at done
    · cases done
      rfl
    · cases done

theorem failure_ne_write (failure : IoFailure) (fault : WriteFault) :
    failure.error ≠ .write fault := by
  cases failure <;> rintro ⟨⟩

theorem flush_of_failed {session flushed : Session} {written : Except IoFailure Unit}
    {error : SessionError} (failed : session.flush written = (flushed, .error error))
    (fault : WriteFault) : error ≠ .write fault := by
  unfold flush at failed
  split at failed
  · cases failed
  · split at failed
    · cases failed
    · cases failed
      exact failure_ne_write _ fault

/-- Bytes that end within the replies to the last messages, or before them. -/
def Torn (shortRead : ShortRead) (writing : Writing) (pending : List Received) (torn : Bytes) :
    Prop :=
  torn = [] ∨ ∃ bytes, Written shortRead writing.chunkEncoder (repliesTo pending) bytes ∧
    torn <+: writing.writeBuf ++ bytes

/-- A run whose rounds carry the replies to their messages.  The rounds that are not
written are none, or it is the last and it fails. -/
structure RunAnswers (shortRead : ShortRead) (writing : Writing)
    (run : Progress (Option (Except SessionError Bool))) (exchange : Exchange) : Prop where
  cause : ∀ fault, run.result ≠ some (.error (.write fault))
  handled : messages run.transcript = exchange.rounds.flatten ++ exchange.pending
  unfailed : (∀ error, run.result ≠ some (.error error)) →
    exchange.pending = [] ∧ exchange.torn = []
  carried : (exchange.rounds = [] ∧ exchange.written = [] ∧
      Torn shortRead writing exchange.pending exchange.torn) ∨
    (exchange.rounds ≠ [] ∧
      Torn shortRead ⟨writing.chunkEncoder, []⟩ exchange.pending exchange.torn ∧
      ∃ bytes, Written shortRead writing.chunkEncoder (repliesTo exchange.rounds.flatten) bytes ∧
        exchange.written = writing.writeBuf ++ bytes)

section RunAnswers

variable {writing : Writing} {run : Progress (Option (Except SessionError Bool))}

/-- A run that has no messages writes nothing. -/
theorem RunAnswers.silent (cause : ∀ fault, run.result ≠ some (.error (.write fault)))
    (empty : run.transcript = []) : RunAnswers shortRead writing run ⟨[], [], [], []⟩ := by
  refine ⟨cause, ?_, fun _ => ⟨rfl, rfl⟩, .inl ⟨rfl, rfl, .inl rfl⟩⟩
  rw [empty]
  rfl

/-- The round in which a run fails. -/
theorem RunAnswers.failed {error : SessionError} {torn : Bytes}
    (result : run.result = some (.error error)) (cause : ∀ fault, error ≠ .write fault)
    (carried : Torn shortRead writing (messages run.transcript) torn) :
    RunAnswers shortRead writing run ⟨[], [], messages run.transcript, torn⟩ := by
  refine ⟨fun fault failed => ?_, rfl, fun unfailed => absurd result (unfailed error),
    .inl ⟨rfl, rfl, carried⟩⟩
  rw [result] at failed
  exact cause fault (Except.error.inj (Option.some.inj failed))

/-- The rounds after one that has been written. -/
theorem RunAnswers.append {transcript : List (Received × Session)} {bytes : Bytes}
    {exchange : Exchange}
    (first : Written shortRead writing.chunkEncoder (repliesTo (messages transcript)) bytes)
    (later : RunAnswers shortRead ⟨writing.chunkEncoder, []⟩ run exchange) :
    RunAnswers shortRead writing ⟨transcript ++ run.transcript, run.session, run.result⟩
      ⟨messages transcript :: exchange.rounds, writing.writeBuf ++ bytes ++ exchange.written,
        exchange.pending, exchange.torn⟩ := by
  have both : messages (transcript ++ run.transcript) =
      (messages transcript ++ exchange.rounds.flatten) ++ exchange.pending := by
    rw [List.append_assoc, ← later.handled, messages, List.map_append]
    rfl
  have replied : repliesTo (messages transcript :: exchange.rounds).flatten =
      repliesTo (messages transcript) ++ repliesTo exchange.rounds.flatten := by
    rw [List.flatten_cons, repliesTo, List.flatMap_append]
    rfl
  refine ⟨later.cause, both, later.unfailed, .inr ⟨List.cons_ne_nil _ _, ?_, ?_⟩⟩
  · rcases later.carried with ⟨_, _, torn⟩ | ⟨_, torn, _⟩
    · exact torn
    · exact torn
  · rcases later.carried with ⟨none, silent, _⟩ | ⟨_, _, more, further, grown⟩
    · refine ⟨bytes, ?_, ?_⟩
      · rw [none, List.flatten_singleton]
        exact first
      · dsimp only
        rw [silent, List.append_nil]
    · refine ⟨bytes ++ more, ?_, ?_⟩
      · rw [replied]
        exact first.append further
      · dsimp only
        rw [grown, List.nil_append, List.append_assoc]

end RunAnswers

theorem runReady_answers (part : Nat) (session : Session) (turns : List Turn)
    (positive : 0 < session.chunkEncoder.chunkSize) :
    RunAnswers shortRead session.writing (runReady checks shortRead session turns)
      (exchange checks shortRead part session turns) := by
  induction turns generalizing session with
  | nil => exact .silent (by rintro _ ⟨⟩) rfl
  | cons turn turns ih =>
      rw [runReady, exchange]
      rcases doReady_cases checks shortRead session turn with
        ⟨reading, filled, result⟩ | ⟨failure, result⟩ | result
      · have same : reading.writing = session.writing :=
          (congrArg Session.writing filled).trans rfl
        have round := @parseChunksLoop_answers checks shortRead turn.answers
          (reading.readBuf.length + 1) 0 reading (by
            rw [show reading.chunkEncoder = session.chunkEncoder from
              congrArg Writing.chunkEncoder same]
            exact positive)
        rw [same] at round
        rw [result]
        change RoundAnswers shortRead session.writing
          (parseChunks checks shortRead turn.answers reading) at round
        obtain ⟨goesOn, ended, _⟩ := parseChunks_follows checks shortRead turn.answers reading
        cases parsed : parseChunks checks shortRead turn.answers reading with
        | mk transcript reached outcome =>
            rw [parsed] at round ended
            cases outcome with
            | error error =>
                obtain ⟨rfl, notClosed⟩ := ended
                dsimp only [Except.map]
                rw [if_neg (Bool.eq_false_iff.mp notClosed)]
                refine .failed rfl (fun fault same => ?_) (.inl rfl)
                exact round.cause fault (congrArg Except.error same)
            | ok done =>
                obtain ⟨bytes, carried, grown⟩ := round.written rfl
                dsimp only [Except.map]
                cases flushed : reached.flush turn.flush with
                | mk next written =>
                    cases written with
                    | error error =>
                        refine .failed rfl (flush_of_failed flushed) (.inr ⟨bytes, carried, ?_⟩)
                        rw [← grown]
                        exact List.take_prefix part _
                    | ok done =>
                        have emptied := flush_of_done flushed
                        have sameEncoder : reached.chunkEncoder = session.chunkEncoder :=
                          round.encoder
                        have nextEncoder : next.chunkEncoder = session.chunkEncoder :=
                          (congrArg Writing.chunkEncoder emptied).trans sameEncoder
                        have later := ih next (by rw [nextEncoder]; exact positive)
                        rw [emptied, sameEncoder] at later
                        rw [show reached.writeBuf = session.writing.writeBuf ++ bytes from grown]
                        exact later.append carried
      · rw [result]
        dsimp only
        split
        · exact .silent (by rintro _ ⟨⟩) rfl
        · exact .failed rfl (failure_ne_write failure) (.inl rfl)
      · rw [result]
        exact .silent (by rintro _ ⟨⟩) rfl

/-- A run that still waits for its next turn has flushed all its rounds, whatever comes
later. -/
theorem exchange_settled (part : Nat) (session : Session) (turns later : List Turn)
    (waits : (runReady checks shortRead session turns).result = none) :
    messages (runReady checks shortRead session turns).transcript <+:
      (exchange checks shortRead part session (turns ++ later)).rounds.flatten := by
  induction turns generalizing session with
  | nil => exact List.nil_prefix
  | cons turn turns ih =>
      rw [runReady] at waits ⊢
      rw [List.cons_append, exchange]
      cases round : doReady checks shortRead session turn with
      | mk transcript reached outcome =>
          rw [round] at waits
          cases outcome with
          | error error =>
              dsimp only at waits
              split at waits
              · cases waits
              · cases waits
          | ok goesOn =>
              cases goesOn with
              | false => cases waits
              | true =>
                  dsimp only at waits ⊢
                  cases flushed : reached.flush turn.flush with
                  | mk next written =>
                      rw [flushed] at waits
                      cases written with
                      | error error => cases waits
                      | ok done =>
                          dsimp only at waits ⊢
                          rw [messages, List.map_append, List.flatten_cons]
                          exact List.prefix_append_right_inj _ |>.mpr (ih next waits)

end Rounds

/-! ## What the client decodes -/

section Decoding

variable {shortRead : ShortRead} {replies : List Reply} {chunks returned : List Chunk}

/-- Chunks with the same messages convey the same. -/
theorem conveyed_of_carried (carried : List.Forall₂ (Carries shortRead) replies chunks)
    (same : returned.map Chunk.message = chunks.map Chunk.message) :
    List.Forall₂ (fun reply chunk => reply.Conveys shortRead chunk) replies returned := by
  induction carried generalizing returned with
  | nil =>
      obtain rfl := List.map_eq_nil_iff.mp same
      exact .nil
  | @cons reply chunk replies chunks carries rest ih =>
      obtain ⟨first, others, rfl, sameFirst, sameOthers⟩ := List.map_eq_cons_iff.mp same
      exact .cons (carries.conveyed.congr sameFirst.symm) (ih sameOthers)

/-- The announcement of the chunk size of the session. -/
def announcementChunk : Chunk :=
  Chunk.new 2 0 .setChunkSize 0 (toBytesBE 4 (UInt32.ofNat chunkSize &&& 0x7FFFFFFF).toNat)

theorem announcementChunk_read : readSetChunkSize announcementChunk.payload = .ok 4096 := by
  decide +kernel

theorem announcementChunk_legal : announcementChunk.Legal :=
  Chunk.legal_announcement (by decide) (by decide) (by decide) announcementChunk_read (by decide)

theorem announcementChunk_conveys :
    (Reply.chunkSize 4096).Conveys shortRead announcementChunk := by
  have type : announcementChunk.messageHeader.msgTypeId = .setChunkSize := rfl
  rw [Reply.Conveys, MessageParser.parse, type]
  dsimp only
  rw [announcementChunk_read]

/-- A client that decodes the announcement and replies gets them. -/
theorem awaits_replies (checks : OverflowChecks) {announcement bytes : Bytes}
    (announced : ProtocolControlMessagesWriter.writeSetChunkSize ChunkEncoder.default
      (UInt32.ofNat chunkSize) = .ok announcement)
    (written : Written shortRead ⟨chunkSize⟩ replies bytes) :
    ∃ returned, Rtmp.Session.Awaits checks ChunkDecoder.default (announcement ++ bytes) returned ∧
      List.Forall₂ (fun reply chunk => reply.Conveys shortRead chunk)
        (.chunkSize 4096 :: replies) returned := by
  obtain ⟨chunks, carried, written⟩ := written
  have first : ChunkEncoder.default.writeChunk announcementChunk = .ok announcement := by
    change (ChunkEncoder.default.writeChunk announcementChunk).mapError WriteFault.chunkEncode = _
      at announced
    cases done : ChunkEncoder.default.writeChunk announcementChunk with
    | error fault =>
        rw [done] at announced
        cases announced
    | ok bytes =>
        rw [done] at announced
        cases announced
        rfl
  have after : ChunkEncoder.default.afterSending announcementChunk = ⟨chunkSize⟩ :=
    ChunkEncoder.afterSending_of_announced rfl announcementChunk_read
  have stream : ChunkEncoder.default.writeStream (announcementChunk :: chunks) =
      .ok (announcement ++ bytes) := by
    refine writeStream_cons first ?_
    rw [after]
    exact written
  have legal : ∀ chunk ∈ announcementChunk :: chunks, chunk.Legal := by
    intro chunk member
    rcases List.mem_cons.mp member with rfl | member
    · exact announcementChunk_legal
    · obtain ⟨reply, carries⟩ := carries_quiet carried chunk member
      exact carries.legal
  have few : ((announcementChunk :: chunks).map (·.basicHeader.chunkStreamId)).dedup.length ≤
      100 := by
    have inside : ((announcementChunk :: chunks).map (·.basicHeader.chunkStreamId)).dedup ⊆
        [2, 3] := by
      intro csid member
      obtain ⟨chunk, found, rfl⟩ := List.mem_map.mp (List.mem_dedup.mp member)
      rcases List.mem_cons.mp found with rfl | later
      · decide
      · obtain ⟨reply, carries⟩ := carries_quiet carried chunk later
        exact carries.stream
    exact Nat.le_trans (List.Subperm.length_le
      (List.subperm_of_subset (List.nodup_dedup _) inside)) (by decide)
  obtain ⟨total, same, returned, awaits, messages⟩ := awaits_writeStream checks legal few
  cases stream.symm.trans same
  refine ⟨returned, awaits, ?_⟩
  obtain ⟨head, others, rfl, sameHead, sameOthers⟩ := List.map_eq_cons_iff.mp messages
  exact .cons (announcementChunk_conveys.congr sameHead.symm)
    (conveyed_of_carried carried sameOthers)

variable {checks : OverflowChecks}

/-- The client awaits the chunks that convey the replies. -/
def Tells (shortRead : ShortRead) (checks : OverflowChecks) (bytes : Bytes)
    (replies : List Reply) : Prop :=
  ∃ returned, Rtmp.Session.Awaits checks ChunkDecoder.default bytes returned ∧
    List.Forall₂ (fun reply chunk => reply.Conveys shortRead chunk) replies returned

theorem tells_nil : Tells shortRead checks [] [] :=
  ⟨[], Rtmp.Session.awaits_nil checks ChunkDecoder.default, .nil⟩

/-- A client that is told all of the replies has nothing unread. -/
theorem Tells.receive {reads : List Bytes} (tells : Tells shortRead checks reads.flatten replies) :
    ∃ returned last, Rtmp.Session.receive checks ChunkDecoder.default [] reads =
        (returned, .ok (last, [])) ∧
      List.Forall₂ (fun reply chunk => reply.Conveys shortRead chunk) replies returned := by
  obtain ⟨returned, awaits, conveyed⟩ := tells
  obtain ⟨last, received⟩ := awaits.receive
  exact ⟨returned, last, received, conveyed⟩

/-- Bytes that end within the last replies tell all those before them and the first of
the last ones. -/
theorem Tells.receive_torn {due later : List Reply} {bytes torn rest : Bytes} {reads : List Bytes}
    (front : Tells shortRead checks bytes due)
    (whole : Tells shortRead checks (bytes ++ rest) (due ++ later)) (tears : torn <+: rest)
    (same : reads.flatten = bytes ++ torn) :
    ∃ returned last left told, Rtmp.Session.receive checks ChunkDecoder.default [] reads =
        (returned, .ok (last, left)) ∧
      List.Forall₂ (fun reply chunk => reply.Conveys shortRead chunk) told returned ∧
      due <+: told ∧ told <+: due ++ later := by
  obtain ⟨first, firstAwaits, firstConveyed⟩ := front
  obtain ⟨chunks, awaits, conveyed⟩ := whole
  obtain ⟨unwritten, rfl⟩ := tears
  rw [← List.append_assoc, ← same] at awaits
  obtain ⟨returned, last, left, received, before⟩ := awaits.receive_front
  have atLeast : first <+: returned := firstAwaits.first_received same received
  refine ⟨returned, last, left, (due ++ later).take returned.length, received, ?_, ?_,
    List.take_prefix _ _⟩
  · have cut := List.forall₂_take returned.length conveyed
    rw [← List.prefix_iff_eq_take.mp before] at cut
    exact cut
  · refine List.prefix_take_iff.mpr ⟨List.prefix_append _ _, ?_⟩
    rw [firstConveyed.length_eq]
    exact atLeast.length_le

section RunAnswers

variable {announcement : Bytes} {run : Progress (Option (Except SessionError Bool))}
  {exchange : Exchange}
  (announced : ProtocolControlMessagesWriter.writeSetChunkSize ChunkEncoder.default
    (UInt32.ofNat chunkSize) = .ok announcement)
  (answers : RunAnswers shortRead ⟨⟨chunkSize⟩, announcement⟩ run exchange)

include announced answers

/-- The flushed rounds tell the client what is due. -/
theorem RunAnswers.tells_due : Tells shortRead checks exchange.written exchange.due := by
  rcases answers.carried with ⟨none, silent, _⟩ | ⟨some, _, bytes, written, grown⟩
  · rw [silent, Exchange.due_of_nil none]
    exact tells_nil
  · rw [grown, Exchange.due_of_ne_nil some]
    exact awaits_replies checks announced written

/-- The failed flush goes on with the replies to the pending messages. -/
theorem RunAnswers.tells_pending (torn : exchange.torn ≠ []) :
    ∃ rest later, Tells shortRead checks (exchange.written ++ rest) (exchange.due ++ later) ∧
      exchange.torn <+: rest ∧
      exchange.due ++ later = .chunkSize 4096 :: repliesTo (messages run.transcript) := by
  rw [answers.handled]
  rcases answers.carried with ⟨none, silent, tears⟩ | ⟨some, tears, bytes, written, grown⟩
  · obtain ⟨more, further, before⟩ := tears.resolve_left torn
    refine ⟨announcement ++ more, .chunkSize 4096 :: repliesTo exchange.pending, ?_, before, ?_⟩
    · rw [silent, Exchange.due_of_nil none, List.nil_append, List.nil_append]
      exact awaits_replies checks announced further
    · rw [Exchange.due_of_nil none, none]
      rfl
  · obtain ⟨more, further, before⟩ := tears.resolve_left torn
    refine ⟨more, repliesTo exchange.pending, ?_, before, ?_⟩
    · rw [grown, Exchange.due_of_ne_nil some, List.append_assoc, List.cons_append]
      exact awaits_replies checks announced (written.append further)
    · rw [Exchange.due_of_ne_nil some, List.cons_append, repliesTo, repliesTo, repliesTo,
        List.flatMap_append]

end RunAnswers

end Decoding

/-- In every run after the handshake, whatever the client sends: no reply fails to be
written; the messages that are handled are those of the flushed rounds and, if the session
fails, those of the round in which it fails.  A client that decodes what has reached it, in
any pieces, gets the announcement of the chunk size and the replies to the messages of the
flushed rounds, in order, and after these at most the first replies of a flush that has
failed. -/
theorem run_replies (checks clientChecks : OverflowChecks) (shortRead : ShortRead)
    {surroundings : Handshake.Surroundings} {limit : Nat}
    {flushes : Nat → Except IoFailure Unit} {pieces : List Bytes} {session : Session}
    (handshook : runHandshake surroundings limit flushes pieces = some (.ok session))
    (part : Nat) (turns : List Turn) :
    let run := runReady checks shortRead session turns
    let traffic := exchange checks shortRead part session turns
    (∀ fault, run.result ≠ some (.error (.write fault))) ∧
    messages run.transcript = traffic.rounds.flatten ++ traffic.pending ∧
    (∀ before after, turns = before ++ after →
      (runReady checks shortRead session before).result = none →
      messages (runReady checks shortRead session before).transcript <+:
        traffic.rounds.flatten) ∧
    ((∀ error, run.result ≠ some (.error error)) → traffic.pending = [] ∧ traffic.torn = []) ∧
    ∀ reads : List Bytes, reads.flatten = traffic.output →
      ∃ returned last left told, Rtmp.Session.receive clientChecks ChunkDecoder.default [] reads =
          (returned, .ok (last, left)) ∧
        List.Forall₂ (fun reply chunk => reply.Conveys shortRead chunk) told returned ∧
        traffic.due <+: told ∧
        told <+: .chunkSize 4096 :: repliesTo (messages run.transcript) ∧
        (traffic.torn = [] → told = traffic.due ∧ left = []) := by
  intro run traffic
  obtain ⟨overRead, announcement, announced, rfl⟩ := runHandshake_ready handshook
  have positive : 0 < chunkSize := by decide
  have answers : RunAnswers shortRead ⟨⟨chunkSize⟩, announcement⟩ run traffic :=
    runReady_answers part (ready overRead announcement (!overRead.isEmpty)) turns positive
  refine ⟨answers.cause, answers.handled, ?_, answers.unfailed, fun reads same => ?_⟩
  · rintro before after rfl waits
    exact exchange_settled part _ before after waits
  · have due : Tells shortRead clientChecks traffic.written traffic.due :=
      answers.tells_due announced
    by_cases torn : traffic.torn = []
    · have whole : traffic.written = reads.flatten := by
        rw [same, Exchange.output, torn, List.append_nil]
      have before : traffic.due <+: .chunkSize 4096 :: repliesTo (messages run.transcript) := by
        rw [answers.handled]
        exact traffic.due_prefix
      rw [whole] at due
      obtain ⟨returned, last, received, conveyed⟩ := due.receive
      exact ⟨returned, last, [], traffic.due, received, conveyed, List.prefix_rfl, before,
        fun _ => ⟨rfl, rfl⟩⟩
    · obtain ⟨rest, later, whole, tears, all⟩ :=
        @RunAnswers.tells_pending shortRead clientChecks _ _ _ announced answers torn
      obtain ⟨returned, last, left, told, received, conveyed, atLeast, atMost⟩ :=
        due.receive_torn whole tears same
      rw [all] at atMost
      exact ⟨returned, last, left, told, received, conveyed, atLeast, atMost,
        fun empty => absurd empty torn⟩

/-- The publisher reads the output in two pieces and gets the six replies to its
commands. -/
theorem run_replies_publisher :
    let traffic := exchange .on .stays 0 publisherSession publisherTurns
    traffic.rounds.map List.length = [0, 3, 1] ∧
    ∃ returned last, Rtmp.Session.receive .on ChunkDecoder.default []
        [traffic.output.take 20, traffic.output.drop 20] = (returned, .ok (last, [])) ∧
      returned.map (·.messageHeader.msgTypeId) =
        [.setChunkSize, .windowAcknowledgementSize, .setPeerBandwidth, .commandAMF0,
          .userControlEvent, .commandAMF0] ∧
      List.Forall₂ (fun reply chunk => reply.Conveys .stays chunk)
        (.chunkSize 4096 :: repliesTo traffic.rounds.flatten) returned := by
  intro traffic
  have rounds : traffic.rounds.map List.length = [0, 3, 1] := by decide +kernel
  have types : (Rtmp.Session.receive .on ChunkDecoder.default []
      [traffic.output.take 20, traffic.output.drop 20]).1.map (·.messageHeader.msgTypeId) =
        [.setChunkSize, .windowAcknowledgementSize, .setPeerBandwidth, .commandAMF0,
          .userControlEvent, .commandAMF0] := by decide +kernel
  have some : traffic.rounds ≠ [] := by
    intro none
    rw [none] at rounds
    cases rounds
  obtain ⟨_, _, _, unfailed, decodes⟩ :=
    run_replies .on .on .stays publisher_handshook 0 publisherTurns
  obtain ⟨goesOn, _⟩ := publisher_served
  obtain ⟨_, whole⟩ := unfailed (by
    intro error failed
    rw [failed] at goesOn
    cases goesOn)
  obtain ⟨returned, last, left, told, received, conveyed, _, _, complete⟩ :=
    decodes [traffic.output.take 20, traffic.output.drop 20] (by
      rw [List.flatten_cons, List.flatten_singleton, List.take_append_drop])
  obtain ⟨same, unread⟩ := complete whole
  rw [received] at types
  rw [same, Exchange.due_of_ne_nil some] at conveyed
  subst unread
  exact ⟨rounds, returned, last, received, types, conveyed⟩

/-- The network breaks forty bytes into the replies to `connect`, within the third. -/
example :
    let turns := publisherTurns.mapIdx fun index turn =>
      if index = 1 then { turn with flush := .error .timeout } else turn
    let traffic := exchange .on .stays 40 publisherSession turns
    traffic.rounds.map List.length = [0] ∧ traffic.pending.length = 3 ∧
      (Rtmp.Session.receive .on ChunkDecoder.default [] [traffic.output]).1.map
          (·.messageHeader.msgTypeId) =
        [.setChunkSize, .windowAcknowledgementSize, .setPeerBandwidth] := by
  decide +kernel

end Session

end ScuffleVideo.Rtmp.Server
