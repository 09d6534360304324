import ScuffleVideo.Rtmp.ChunkStream
import ScuffleVideo.Rtmp.HandshakeBoundary
import ScuffleVideo.Rtmp.Publishing

/-!
# What a session receives

Between a client that writes a stream of messages and the consumer of the
published media stand the chunk layer, the reads of the network, the reading loop
and the handlers.  The session handles the messages that the client has sent, one
by one and in order, however the network cuts the stream, and the chunk layer
never ends the session.
-/

namespace ScuffleVideo.Rtmp.Server

open Wire Amf0

/-- The error comes from the chunk layer. -/
def SessionError.OfChunks : SessionError → Bool
  | .chunkDecode _ => true
  | .invalidChunkSize _ => true
  | _ => false

/-- The fields of a session that its reading loop works on. -/
structure Reading where
  chunkDecoder : ChunkDecoder
  readBuf : Bytes
  skipRead : Bool

def Session.reading (session : Session) : Reading where
  chunkDecoder := session.chunkDecoder
  readBuf := session.readBuf
  skipRead := session.skipRead

/-- A step that reads nothing and does not fail in the chunk layer. -/
structure Keeps (reading : Reading) (step : Session.Step) : Prop where
  reading : step.1.reading = reading
  cause : ∀ error, step.2 = .error error → error.OfChunks = false

namespace Session

section Handlers

variable {reading : Reading}

theorem keeps_ok {session : Session} (same : session.reading = reading) :
    Keeps reading (session, .ok ()) := by
  refine ⟨same, fun error failed => ?_⟩
  cases failed

theorem keeps_write {session : Session} (same : session.reading = reading)
    (response : ChunkEncoder → Except WriteFault Bytes) :
    Keeps reading (session.write response) := by
  unfold write
  cases response session.chunkEncoder with
  | ok bytes => exact keeps_ok same
  | error fault =>
      refine ⟨same, fun error failed => ?_⟩
      cases failed
      rfl

theorem keeps_andThen {first : Step} {next : Session → Step} (kept : Keeps reading first)
    (later : ∀ session : Session, session.reading = reading → Keeps reading (next session)) :
    Keeps reading (andThen first next) := by
  rcases andThen_cases first next with ⟨error, failed, result⟩ | ⟨done, result⟩
  · rw [result]
    refine ⟨kept.reading, fun other same => ?_⟩
    cases same
    exact kept.cause error failed
  · rw [result]
    exact later _ kept.reading

theorem keeps_error {session : Session} (same : session.reading = reading) {error : SessionError}
    (cause : error.OfChunks = false) : Keeps reading (session, .error error) := by
  refine ⟨same, fun other failed => ?_⟩
  cases failed
  exact cause

theorem keeps_onData {session : Session} (same : session.reading = reading) (answer : Answer)
    (streamId : UInt32) (data : ChannelData) :
    Keeps reading (onData answer session streamId data) := by
  unfold onData
  split
  · exact keeps_error same rfl
  · split
    · exact @keeps_ok reading { session with sent := session.sent ++ [data] } same
    · exact keeps_error same rfl

theorem keeps_onCommandConnect {session : Session} (same : session.reading = reading)
    (transactionId : UInt64) (properties : List (String × Amf0Value)) :
    Keeps reading (onCommandConnect session transactionId properties) := by
  refine keeps_andThen (keeps_write same _) fun first firstSame =>
    keeps_andThen (keeps_write firstSame _) fun second secondSame => ?_
  split
  · rename_i app found
    exact @keeps_write reading { second with appName := some app } secondSame _
  · exact keeps_error secondSame rfl

theorem keeps_onCommandPublish {session : Session} (same : session.reading = reading)
    (answer : Answer) (transactionId : UInt64) (streamId : UInt32) (others : List Amf0Value) :
    Keeps reading (onCommandPublish answer session transactionId streamId others) := by
  unfold onCommandPublish
  split
  · split
    · exact keeps_error same rfl
    · split
      · exact keeps_error same rfl
      · rename_i uid accepted
        exact keeps_andThen (@keeps_write reading
            { session with uid := some uid, isPublishing := true, streamId := streamId } same _)
          fun written writtenSame => keeps_write writtenSame _
  · exact keeps_error same rfl

theorem keeps_onCommandDeleteStream {session : Session} (same : session.reading = reading)
    (transactionId : UInt64) (others : List Amf0Value) :
    Keeps reading (onCommandDeleteStream session transactionId others) := by
  unfold onCommandDeleteStream
  apply keeps_write
  split
  · exact same
  · exact same

theorem keeps_onAmf0CommandMessage {session : Session} (same : session.reading = reading)
    (answer : Answer) (streamId : UInt32) (commandName transactionId commandObject : Amf0Value)
    (others : List Amf0Value) :
    Keeps reading (onAmf0CommandMessage answer session streamId commandName transactionId
      commandObject others) := by
  unfold onAmf0CommandMessage
  cases commandOf commandName with
  | connect => exact keeps_onCommandConnect same _ _
  | createStream => exact keeps_write same _
  | publish => exact keeps_onCommandPublish same _ _ _ _
  | play => exact keeps_error same rfl
  | deleteStream => exact keeps_onCommandDeleteStream same _ _
  | closeStream => exact keeps_ok same
  | releaseStream => exact keeps_ok same
  | unknown name => exact keeps_ok same

/-- Handling a message touches what is read in one case only: a message that sets
the chunk size. -/
theorem handle_keeps {session : Session} (same : session.reading = reading) {received : Received}
    (other : ∀ size, received.message ≠ .setChunkSize size) :
    Keeps reading (session.handle received) := by
  unfold handle processMessages
  cases message : received.message with
  | amf0Command commandName transactionId commandObject others =>
      exact keeps_onAmf0CommandMessage same _ _ _ _ _ _
  | amfData data => exact keeps_onData same _ _ _
  | setChunkSize size => exact absurd message (other size)
  | audioData data => exact keeps_onData same _ _ _
  | videoData data => exact keeps_onData same _ _ _

end Handlers

/-! ## The messages of a chunk -/

section Messages

variable {shortRead : ShortRead} {chunk : Chunk}

/-- Only a chunk of that type is a message that sets the chunk size, and it sets
the size that the decoder is given. -/
theorem parse_cases {found : Option RtmpMessageData}
    (parsed : MessageParser.parse shortRead chunk = .ok found) :
    (chunk.messageHeader.msgTypeId = .setChunkSize ∧
      ∃ size, readSetChunkSize chunk.payload = .ok size ∧ found = some (.setChunkSize size)) ∨
    (chunk.messageHeader.msgTypeId ≠ .setChunkSize ∧
      ∀ size, found ≠ some (.setChunkSize size)) := by
  unfold MessageParser.parse at parsed
  split at parsed
  · rename_i type
    refine .inr ⟨by rw [type]; rintro ⟨⟩, fun size same => ?_⟩
    split at parsed
    · rename_i command stop read
      cases parsed
      cases same
      cases MessageParser.accepted_of_parseCommand read
    · cases parsed
  · rename_i type
    cases parsed
    exact .inr ⟨by rw [type]; rintro ⟨⟩, by rintro _ ⟨⟩⟩
  · rename_i type
    cases parsed
    exact .inr ⟨by rw [type]; rintro ⟨⟩, by rintro _ ⟨⟩⟩
  · rename_i type
    split at parsed
    · rename_i size read
      cases parsed
      exact .inl ⟨type, size, read, rfl⟩
    · cases parsed
  · rename_i type
    cases parsed
    exact .inr ⟨by rw [type]; rintro ⟨⟩, by rintro _ ⟨⟩⟩
  · rename_i type
    cases parsed
    exact .inr ⟨by rw [type]; rintro ⟨⟩, by rintro _ ⟨⟩⟩
  · rename_i _ _ _ other _ _
    cases parsed
    exact .inr ⟨other, by rintro _ ⟨⟩⟩

theorem processChunk_of_other {decoder : ChunkDecoder}
    (other : chunk.messageHeader.msgTypeId ≠ .setChunkSize) :
    Rtmp.Session.processChunk decoder chunk = .ok decoder := by
  unfold Rtmp.Session.processChunk
  split
  · rename_i type
    exact absurd type other
  · rfl

/-- The handler of a message and the reading loop agree on the decoder. -/
theorem handle_processes {session : Session} {after : ChunkDecoder} {message : RtmpMessageData}
    (parsed : MessageParser.parse shortRead chunk = .ok (some message))
    (processed : Rtmp.Session.processChunk session.chunkDecoder chunk = .ok after)
    (streamId timestamp : UInt32) (answer : Answer) :
    Keeps { session.reading with chunkDecoder := after }
      (session.handle ⟨message, streamId, timestamp, answer⟩) := by
  rcases parse_cases parsed with ⟨type, size, read, same⟩ | ⟨other, different⟩
  · cases same
    rw [Rtmp.Session.processChunk, type] at processed
    dsimp only at processed
    rw [read] at processed
    change Rtmp.Session.onSetChunkSize session.chunkDecoder size.toNat = .ok after at processed
    change Keeps _ (session.onSetChunkSize size.toNat)
    unfold Rtmp.Session.onSetChunkSize at processed
    unfold onSetChunkSize
    cases updated : session.chunkDecoder.updateMaxChunkSize size.toNat with
    | mk accepted decoder =>
        rw [updated] at processed
        cases accepted with
        | false => cases processed
        | true =>
            cases processed
            exact keeps_ok rfl
  · rw [processChunk_of_other other] at processed
    cases processed
    exact handle_keeps rfl fun size same => different size (congrArg some same)

end Messages

/-! ## One round of the reading loop -/

/-- What the handlers get to see of a message. -/
structure Content where
  message : RtmpMessageData
  streamId : UInt32
  timestamp : UInt32

end Session

def Received.content (received : Received) : Session.Content :=
  ⟨received.message, received.streamId, received.timestamp⟩

namespace Session

/-- What a chunk brings to the handlers. -/
def contentOf (shortRead : ShortRead) (chunk : Chunk) : Option Content :=
  match MessageParser.parse shortRead chunk with
  | .ok (some message) =>
      some ⟨message, chunk.messageHeader.msgStreamId, chunk.messageHeader.timestamp⟩
  | _ => none

/-- The contents of the handled messages. -/
def contents (transcript : List (Received × Session)) : List Content :=
  (messages transcript).map Received.content

/-- A round that handles everything the chunks bring, or that handles the first
of it and ends outside the chunk layer. -/
inductive Handles (shortRead : ShortRead) (chunks : List Chunk) (reading : Reading)
    (progress : Progress (Except SessionError Unit)) : Prop
  | whole (contents : contents progress.transcript = chunks.filterMap (contentOf shortRead))
      (result : progress.result = .ok ()) (reached : progress.session.reading = reading)
  | stopped {error : SessionError}
      (contents : contents progress.transcript <+: chunks.filterMap (contentOf shortRead))
      (result : progress.result = .error error) (cause : error.OfChunks = false)

variable {checks : OverflowChecks} {shortRead : ShortRead}

/-- A handled message in front of a round. -/
theorem Handles.cons {chunk : Chunk} {chunks : List Chunk} {reading : Reading}
    {received : Received} {reached : Session} {progress : Progress (Except SessionError Unit)}
    (content : contentOf shortRead chunk = some received.content)
    (handles : Handles shortRead chunks reading progress) :
    Handles shortRead (chunk :: chunks) reading
      ⟨(received, reached) :: progress.transcript, progress.session, progress.result⟩ := by
  have brought : (chunk :: chunks).filterMap (contentOf shortRead) =
      received.content :: chunks.filterMap (contentOf shortRead) :=
    List.filterMap_cons_some content
  have first : contents ((received, reached) :: progress.transcript) =
      received.content :: contents progress.transcript := rfl
  cases handles with
  | whole same result reading =>
      refine .whole ?_ result reading
      rw [first, brought, same]
  | stopped before result cause =>
      refine .stopped ?_ result cause
      rw [first, brought]
      exact List.prefix_cons_inj _ |>.mpr before

theorem Handles.unseen {chunk : Chunk} {chunks : List Chunk} {reading : Reading}
    {progress : Progress (Except SessionError Unit)}
    (content : contentOf shortRead chunk = none)
    (handles : Handles shortRead chunks reading progress) :
    Handles shortRead (chunk :: chunks) reading progress := by
  have brought : (chunk :: chunks).filterMap (contentOf shortRead) =
      chunks.filterMap (contentOf shortRead) := List.filterMap_cons_none content
  cases handles with
  | whole same result reading => exact .whole (same.trans brought.symm) result reading
  | stopped before result cause =>
      refine .stopped ?_ result cause
      rw [brought]
      exact before

/-- The session when a chunk has been read. -/
def readTo (session : Session) (decoder : ChunkDecoder) (rest : Bytes) : Session :=
  { session with chunkDecoder := decoder, readBuf := rest }

section Rounds

variable {answers : Nat → Answer} {fuel index : Nat} {session : Session} {decoder : ChunkDecoder}
  {rest : Bytes} {chunk : Chunk}

theorem parseChunksLoop_unseen
    (call : session.chunkDecoder.readChunk checks session.readBuf =
      (.ok (some chunk), decoder, rest))
    (parsed : MessageParser.parse shortRead chunk = .ok none) :
    parseChunksLoop checks shortRead answers (fuel + 1) index session =
      parseChunksLoop checks shortRead answers fuel index (session.readTo decoder rest) := by
  rw [parseChunksLoop, call]
  dsimp only
  rw [parsed]
  rfl

theorem parseChunksLoop_misformed {error : MessageError}
    (call : session.chunkDecoder.readChunk checks session.readBuf =
      (.ok (some chunk), decoder, rest))
    (parsed : MessageParser.parse shortRead chunk = .error error) :
    parseChunksLoop checks shortRead answers (fuel + 1) index session =
      ⟨[], session.readTo decoder rest, .error (.message error)⟩ := by
  rw [parseChunksLoop, call]
  dsimp only
  rw [parsed]
  rfl

/-- The chunk's message with the answers of the round. -/
def toReceived (answers : Nat → Answer) (index : Nat) (chunk : Chunk) (message : RtmpMessageData) :
    Received :=
  ⟨message, chunk.messageHeader.msgStreamId, chunk.messageHeader.timestamp, answers index⟩

variable {message : RtmpMessageData} {reached : Session}

theorem parseChunksLoop_refused {error : SessionError}
    (call : session.chunkDecoder.readChunk checks session.readBuf =
      (.ok (some chunk), decoder, rest))
    (parsed : MessageParser.parse shortRead chunk = .ok (some message))
    (handled : (session.readTo decoder rest).handle (toReceived answers index chunk message) =
      (reached, .error error)) :
    parseChunksLoop checks shortRead answers (fuel + 1) index session =
      ⟨[(toReceived answers index chunk message, reached)], reached, .error error⟩ := by
  unfold readTo toReceived at handled
  rw [parseChunksLoop, call]
  dsimp only
  rw [parsed]
  dsimp only
  rw [handled]
  rfl

theorem parseChunksLoop_handled
    (call : session.chunkDecoder.readChunk checks session.readBuf =
      (.ok (some chunk), decoder, rest))
    (parsed : MessageParser.parse shortRead chunk = .ok (some message))
    (handled : (session.readTo decoder rest).handle (toReceived answers index chunk message) =
      (reached, .ok ())) :
    parseChunksLoop checks shortRead answers (fuel + 1) index session =
      ⟨(toReceived answers index chunk message, reached) ::
          (parseChunksLoop checks shortRead answers fuel (index + 1) reached).transcript,
        (parseChunksLoop checks shortRead answers fuel (index + 1) reached).session,
        (parseChunksLoop checks shortRead answers fuel (index + 1) reached).result⟩ := by
  unfold readTo toReceived at handled
  rw [parseChunksLoop, call]
  dsimp only
  rw [parsed]
  dsimp only
  rw [handled]
  rfl

/-- A chunk is handled by itself, and the loop goes on with the decoder that the
chunk leaves. -/
theorem handles_chunk {after : ChunkDecoder} {chunks : List Chunk} {target : Reading}
    (call : session.chunkDecoder.readChunk checks session.readBuf =
      (.ok (some chunk), decoder, rest))
    (processed : Rtmp.Session.processChunk decoder chunk = .ok after)
    (later : ∀ (index : Nat) (reached : Session),
      reached.reading = ⟨after, rest, session.skipRead⟩ →
        Handles shortRead chunks target
          (parseChunksLoop checks shortRead answers fuel index reached)) :
    Handles shortRead (chunk :: chunks) target
      (parseChunksLoop checks shortRead answers (fuel + 1) index session) := by
  cases parsed : MessageParser.parse shortRead chunk with
  | error error =>
      rw [parseChunksLoop_misformed call parsed]
      exact .stopped List.nil_prefix rfl rfl
  | ok found =>
      cases found with
      | none =>
          have unseen : contentOf shortRead chunk = none := by rw [contentOf, parsed]
          obtain ⟨other, _⟩ := (parse_cases parsed).resolve_left (by
            rintro ⟨_, size, _, impossible⟩
            cases impossible)
          rw [processChunk_of_other other] at processed
          cases processed
          rw [parseChunksLoop_unseen call parsed]
          exact .unseen unseen (later index (session.readTo decoder rest) rfl)
      | some message =>
          have kept : Keeps ⟨after, rest, session.skipRead⟩
              ((session.readTo decoder rest).handle (toReceived answers index chunk message)) :=
            @handle_processes shortRead chunk (session.readTo decoder rest) after message parsed
              processed _ _ _
          have brought : contentOf shortRead chunk =
              some (toReceived answers index chunk message).content := by
            rw [contentOf, parsed]
            rfl
          cases handled : (session.readTo decoder rest).handle
              (toReceived answers index chunk message) with
          | mk reached result =>
              rw [handled] at kept
              cases result with
              | error error =>
                  rw [parseChunksLoop_refused call parsed handled]
                  refine .stopped ?_ rfl (kept.cause error rfl)
                  rw [List.filterMap_cons_some brought]
                  exact ⟨_, rfl⟩
              | ok done =>
                  rw [parseChunksLoop_handled call parsed handled]
                  exact .cons brought (later (index + 1) reached kept.reading)

end Rounds

theorem parseChunksLoop_handles (answers : Nat → Answer) (fuel index : Nat) (session : Session)
    {chunks : List Chunk} {next : ChunkDecoder} {left : Bytes}
    (enough : session.readBuf.length < fuel)
    (parsed : Rtmp.Session.parseChunks checks session.chunkDecoder session.readBuf =
      (chunks, .ok (next, left))) :
    Handles shortRead chunks ⟨next, left, session.skipRead⟩
      (parseChunksLoop checks shortRead answers fuel index session) := by
  induction fuel generalizing index session chunks with
  | zero => exact absurd enough (Nat.not_lt_zero _)
  | succ fuel ih =>
      rw [Rtmp.Session.parseChunks_eq] at parsed
      cases call : session.chunkDecoder.readChunk checks session.readBuf with
      | mk result after =>
          obtain ⟨decoder, rest⟩ := after
          rw [call] at parsed
          cases result with
          | error fault => cases parsed
          | ok found =>
              cases found with
              | none =>
                  cases parsed
                  rw [parseChunksLoop, call]
                  exact .whole rfl rfl rfl
              | some chunk =>
                  dsimp only at parsed
                  cases processed : Rtmp.Session.processChunk decoder chunk with
                  | error error =>
                      rw [processed] at parsed
                      cases parsed
                  | ok after =>
                      rw [processed] at parsed
                      obtain ⟨rfl, more⟩ := Prod.mk.inj parsed
                      refine handles_chunk call processed fun index reached same => ?_
                      obtain ⟨rfl, rfl, skips⟩ := Reading.mk.inj same
                      have shorter := Rtmp.Session.readChunk_some_lt call
                      rw [← skips]
                      exact ih index reached (by omega) (Prod.ext rfl more)

/-! ## Whole runs -/

/-- What the network delivers to the ready phase until the connection ends.  A
session that has read too far takes nothing in its first round. -/
def arrived : Bool → List Turn → Bytes
  | _, [] => []
  | true, _ :: turns => arrived false turns
  | false, turn :: turns =>
      match turn.read with
      | .error _ => []
      | .ok bytes => if bytes.isEmpty then [] else bytes ++ arrived false turns

theorem failure_ofChunks (failure : IoFailure) : failure.error.OfChunks = false := by
  cases failure <;> rfl

theorem flush_reading (session : Session) (written : Except IoFailure Unit) :
    (session.flush written).1.reading = session.reading := by
  unfold flush
  split
  · rfl
  · split <;> rfl

theorem flush_cause {session flushed : Session} {written : Except IoFailure Unit}
    {error : SessionError} (failed : session.flush written = (flushed, .error error)) :
    error.OfChunks = false := by
  unfold flush at failed
  split at failed
  · cases failed
  · split at failed
    · cases failed
    · cases failed
      exact failure_ofChunks _

/-- A run handles the messages of the chunks in order, it does not fail in the
chunk layer, and it handles all of them if everything has come and it does not
fail. -/
structure Receives (shortRead : ShortRead) (chunks : List Chunk) (everything : Prop)
    (run : Progress (Option (Except SessionError Bool))) : Prop where
  inOrder : contents run.transcript <+: chunks.filterMap (contentOf shortRead)
  cause : ∀ error, run.result = some (.error error) → error.OfChunks = false
  complete : everything → (∀ error, run.result ≠ some (.error error)) →
    contents run.transcript = chunks.filterMap (contentOf shortRead)

/-- A run without a message, of which there is none if everything has come. -/
theorem Receives.nothing {chunks : List Chunk} {everything : Prop}
    {result : Option (Except SessionError Bool)} {session : Session}
    (cause : ∀ error, result = some (.error error) → error.OfChunks = false)
    (complete : everything → chunks = []) :
    Receives shortRead chunks everything ⟨[], session, result⟩ where
  inOrder := List.nil_prefix
  cause := cause
  complete := by
    intro all _
    rw [complete all]
    rfl

theorem Receives.weaken {chunks : List Chunk} {everything all : Prop}
    {run : Progress (Option (Except SessionError Bool))}
    (receives : Receives shortRead chunks everything run) (implies : all → everything) :
    Receives shortRead chunks all run :=
  ⟨receives.inOrder, receives.cause, fun whole => receives.complete (implies whole)⟩

/-- The rounds after one that has handled its chunks. -/
theorem Receives.append {first rest : List Chunk} {everything : Prop}
    {transcript : List (Received × Session)} {run : Progress (Option (Except SessionError Bool))}
    (handled : contents transcript = first.filterMap (contentOf shortRead))
    (receives : Receives shortRead rest everything run) :
    Receives shortRead (first ++ rest) everything
      ⟨transcript ++ run.transcript, run.session, run.result⟩ := by
  have both : contents (transcript ++ run.transcript) =
      contents transcript ++ contents run.transcript := by
    rw [contents, messages, List.map_append, List.map_append]
    rfl
  refine ⟨?_, receives.cause, fun all unfailed => ?_⟩
  · rw [both, handled, List.filterMap_append]
    exact List.prefix_append_right_inj _ |>.mpr receives.inOrder
  · rw [both, handled, List.filterMap_append, receives.complete all unfailed]

section Runs

variable {session : Session} {turn : Turn} {turns : List Turn} {chunks : List Chunk}
  {after : Bytes} {everything : Prop}

/-- The rest of a run after a round that has parsed what is in the buffer. -/
def afterRound (checks : OverflowChecks) (shortRead : ShortRead) (flush : Except IoFailure Unit)
    (turns : List Turn) (round : Progress (Except SessionError Unit)) :
    Progress (Option (Except SessionError Bool)) :=
  match round with
  | ⟨transcript, session, .error error⟩ =>
      if error.isClientClosed then ⟨transcript, session, some (.ok (!session.isPublishing))⟩
      else ⟨transcript, session, some (.error error)⟩
  | ⟨transcript, session, .ok ()⟩ =>
      match session.flush flush with
      | (session, .error error) => ⟨transcript, session, some (.error error)⟩
      | (session, .ok ()) =>
          let rest := runReady checks shortRead session turns
          ⟨transcript ++ rest.transcript, rest.session, rest.result⟩

theorem runReady_skip (skips : session.skipRead = true) :
    runReady checks shortRead session (turn :: turns) =
      afterRound checks shortRead turn.flush turns
        (parseChunks checks shortRead turn.answers { session with skipRead := false }) := by
  rw [runReady, doReady]
  dsimp only
  rw [if_pos skips]
  cases parseChunks checks shortRead turn.answers { session with skipRead := false } with
  | mk transcript session result =>
      cases result with
      | error error => rfl
      | ok done => rfl

theorem runReady_read {bytes : Bytes} (reads : session.skipRead = false)
    (delivered : turn.read = .ok bytes) (some : bytes.isEmpty = false) :
    runReady checks shortRead session (turn :: turns) =
      afterRound checks shortRead turn.flush turns
        (parseChunks checks shortRead turn.answers
          { session with readBuf := session.readBuf ++ bytes }) := by
  have noSkip : ¬ session.skipRead = true := by simp [reads]
  have present : ¬ bytes.isEmpty = true := by simp [some]
  rw [runReady, doReady]
  dsimp only
  rw [if_neg noSkip, delivered]
  dsimp only
  rw [if_neg present]
  cases parseChunks checks shortRead turn.answers
      { session with readBuf := session.readBuf ++ bytes } with
  | mk transcript session result =>
      cases result with
      | error error => rfl
      | ok done => rfl

theorem runReady_failed {failure : IoFailure} (reads : session.skipRead = false)
    (failed : turn.read = .error failure) :
    ∃ result, runReady checks shortRead session (turn :: turns) = ⟨[], session, some result⟩ ∧
      ∀ error, result = .error error → error = failure.error := by
  have noSkip : ¬ session.skipRead = true := by simp [reads]
  rw [runReady, doReady]
  dsimp only
  rw [if_neg noSkip, failed]
  dsimp only
  split
  · exact ⟨_, rfl, by rintro _ ⟨⟩⟩
  · refine ⟨_, rfl, fun error same => ?_⟩
    cases same
    rfl

theorem runReady_closed (reads : session.skipRead = false) {bytes : Bytes}
    (delivered : turn.read = .ok bytes) (none : bytes.isEmpty = true) :
    runReady checks shortRead session (turn :: turns) =
      ⟨[], session, some (.ok (!session.isPublishing))⟩ := by
  have noSkip : ¬ session.skipRead = true := by simp [reads]
  rw [runReady, doReady]
  dsimp only
  rw [if_neg noSkip, delivered]
  dsimp only
  rw [if_pos none]

/-- A round handles the chunks that are complete and leaves the rest to later
rounds. -/
theorem afterRound_receives (answers : Nat → Answer) (flush : Except IoFailure Unit)
    (reads : session.skipRead = false)
    (awaits : Rtmp.Session.Awaits checks session.chunkDecoder (session.readBuf ++ after) chunks)
    (later : ∀ (next : Session) (rest : List Chunk), next.skipRead = false →
      Rtmp.Session.Awaits checks next.chunkDecoder (next.readBuf ++ after) rest →
      (Rtmp.Session.machine checks).step next.chunkDecoder next.readBuf = .starved →
      Receives shortRead rest everything (runReady checks shortRead next turns)) :
    Receives shortRead chunks everything
      (afterRound checks shortRead flush turns
        (parseChunks checks shortRead answers session)) := by
  obtain ⟨first, rest, decoder, left, parsed, rfl, awaitsRest, starved⟩ := awaits.parseChunks
  have handles : Handles shortRead first ⟨decoder, left, session.skipRead⟩
      (parseChunks checks shortRead answers session) :=
    parseChunksLoop_handles answers _ 0 session (Nat.lt_succ_self _) parsed
  obtain ⟨goesOn, ended, _⟩ := parseChunks_follows checks shortRead answers session
  cases round : parseChunks checks shortRead answers session with
  | mk transcript reached result =>
      rw [round] at handles ended
      have brought : (first ++ rest).filterMap (contentOf shortRead) =
          first.filterMap (contentOf shortRead) ++ rest.filterMap (contentOf shortRead) :=
        List.filterMap_append
      cases handles with
      | stopped before failed cause =>
          rename_i error
          cases failed
          obtain ⟨rfl, notClosed⟩ := ended
          rw [afterRound, if_neg (Bool.eq_false_iff.mp notClosed)]
          refine ⟨?_, fun other same => ?_, fun _ unfailed => absurd rfl (unfailed error)⟩
          · rw [brought]
            exact before.trans (List.prefix_append _ _)
          · cases same
            exact cause
      | whole same done reached_eq =>
          cases done
          have kept := flush_reading reached flush
          rw [afterRound]
          cases flushed : reached.flush flush with
          | mk next written =>
              rw [flushed] at kept
              cases written with
              | error error =>
                  refine ⟨?_, fun other same => ?_, fun _ unfailed => absurd rfl (unfailed error)⟩
                  · rw [brought, ← same]
                    exact List.prefix_append _ _
                  · cases same
                    exact flush_cause flushed
              | ok done =>
                  have reading : next.reading = ⟨decoder, left, session.skipRead⟩ :=
                    kept.trans reached_eq
                  have sameDecoder : next.chunkDecoder = decoder :=
                    congrArg Reading.chunkDecoder reading
                  have sameBuf : next.readBuf = left := congrArg Reading.readBuf reading
                  have sameSkip : next.skipRead = session.skipRead :=
                    congrArg Reading.skipRead reading
                  rw [← sameDecoder, ← sameBuf] at awaitsRest starved
                  exact (later next rest (sameSkip.trans reads) awaitsRest starved).append same

/-- A session that awaits chunks receives them. -/
theorem runReady_receives (checks : OverflowChecks) (shortRead : ShortRead) (after : Bytes)
    (turns : List Turn) : ∀ (session : Session) (chunks : List Chunk),
      Rtmp.Session.Awaits checks session.chunkDecoder
        (session.readBuf ++ (arrived session.skipRead turns ++ after)) chunks →
      (session.skipRead = false →
        (Rtmp.Session.machine checks).step session.chunkDecoder session.readBuf = .starved) →
      Receives shortRead chunks (after = [] ∧ (session.skipRead = true → turns ≠ []))
        (runReady checks shortRead session turns) := by
  induction turns with
  | nil =>
      intro session chunks awaits starved
      refine .nothing (by rintro _ ⟨⟩) ?_
      rintro ⟨rfl, some⟩
      have reads : session.skipRead = false :=
        Bool.eq_false_iff.mpr fun skips => some skips rfl
      rw [reads] at awaits
      exact Rtmp.Session.Awaits.eq_nil (by simpa [arrived] using awaits) (starved reads)
  | cons turn turns ih =>
      intro session chunks awaits starved
      have later : ∀ (next : Session) (rest : List Chunk), next.skipRead = false →
          Rtmp.Session.Awaits checks next.chunkDecoder
            (next.readBuf ++ (arrived false turns ++ after)) rest →
          (Rtmp.Session.machine checks).step next.chunkDecoder next.readBuf = .starved →
          Receives shortRead rest (after = [] ∧ (session.skipRead = true → turn :: turns ≠ []))
            (runReady checks shortRead next turns) := by
        intro next rest reads awaitsRest waiting
        rw [← reads] at awaitsRest
        refine (ih next rest awaitsRest fun _ => waiting).weaken ?_
        rintro ⟨all, _⟩
        exact ⟨all, fun skips => absurd (reads.symm.trans skips) Bool.false_ne_true⟩
      cases skips : session.skipRead with
      | true =>
          rw [skips] at awaits later
          rw [runReady_skip skips]
          exact @afterRound_receives checks shortRead { session with skipRead := false } turns
            chunks _ _ turn.answers turn.flush rfl awaits later
      | false =>
          rw [skips] at awaits later
          have waiting := starved skips
          have nothing (closed : arrived false (turn :: turns) = []) :
              after = [] ∧ (false = true → turn :: turns ≠ []) → chunks = [] := by
            rintro ⟨rfl, _⟩
            rw [closed, List.append_nil, List.append_nil] at awaits
            exact awaits.eq_nil waiting
          cases read : turn.read with
          | error failure =>
              have closed : arrived false (turn :: turns) = [] := by rw [arrived, read]
              obtain ⟨result, same, cause⟩ := runReady_failed skips read
              rw [same]
              refine .nothing (fun error failed => ?_) (nothing closed)
              rw [cause error (Option.some.inj failed)]
              exact failure_ofChunks failure
          | ok bytes =>
              cases empty : bytes.isEmpty with
              | true =>
                  have closed : arrived false (turn :: turns) = [] := by
                    rw [arrived, read]
                    exact if_pos empty
                  rw [runReady_closed skips read empty]
                  exact .nothing (by rintro _ ⟨⟩) (nothing closed)
              | false =>
                  have more : arrived false (turn :: turns) = bytes ++ arrived false turns := by
                    rw [arrived, read]
                    exact if_neg (Bool.eq_false_iff.mp empty)
                  rw [more, List.append_assoc, ← List.append_assoc] at awaits
                  rw [runReady_read skips read empty]
                  exact @afterRound_receives checks shortRead
                    { session with readBuf := session.readBuf ++ bytes } turns chunks
                    _ _ turn.answers turn.flush skips awaits later

end Runs

/-! ## From the handshake on -/

section Handshake

variable {surroundings : Handshake.Surroundings} {limit : Nat}

theorem fill_size {bytesRead : Nat} {readBuf filled : Bytes} {pieces rest : List Bytes}
    (done : fill limit bytesRead readBuf pieces = some (filled, rest))
    (counted : bytesRead ≤ readBuf.length) : readSize ≤ filled.length := by
  induction limit generalizing bytesRead readBuf pieces with
  | zero =>
      rw [fill] at done
      split at done
      · cases done
      · cases done
        omega
  | succ limit ih =>
      rw [fill] at done
      split at done
      · refine ih done ?_
        rw [List.length_append]
        omega
      · cases done
        omega

theorem sendSetChunkSize_of_ok {session reached : Session}
    (done : session.sendSetChunkSize = (reached, .ok ())) :
    ∃ announcement, ProtocolControlMessagesWriter.writeSetChunkSize session.chunkEncoder
        (UInt32.ofNat chunkSize) = .ok announcement ∧
      reached = { session with
        writeBuf := session.writeBuf ++ announcement
        chunkEncoder := session.chunkEncoder.setChunkSize chunkSize } := by
  unfold sendSetChunkSize write at done
  dsimp only at done
  cases written : ProtocolControlMessagesWriter.writeSetChunkSize session.chunkEncoder
      (UInt32.ofNat chunkSize) with
  | error fault =>
      rw [written] at done
      cases done
  | ok announcement =>
      rw [written] at done
      cases done
      exact ⟨announcement, rfl, rfl⟩

/-- A round that waits for C2 goes on with what it has read too far, or it fails. -/
theorem shakeHands_waiting {handshaker : Handshake.HandshakeServer}
    (waits : handshaker.state = .readC2) (readBuf filled : Bytes) (pieces : List Bytes) :
    ∃ finished, shakeHands surroundings { new with readBuf := readBuf } handshaker filled pieces =
      match ({ new with
          readBuf := filled.drop Handshake.rtmpHandshakeSize
          skipRead := !(filled.drop Handshake.rtmpHandshakeSize).isEmpty } :
          Session).sendSetChunkSize with
      | (session, .ok ()) => ⟨session, finished, pieces, .ok true⟩
      | (session, .error error) => ⟨session, finished, pieces, .error error⟩ := by
  obtain ⟨finished, passed, isFinished⟩ :=
    @Handshake.HandshakeServer.handshake_second surroundings handshaker waits filled
  refine ⟨finished, ?_⟩
  rw [shakeHands, passed]
  dsimp only
  rw [if_pos isFinished]
  cases filled.drop Handshake.rtmpHandshakeSize <;> rfl

theorem handshakeLoop_ready {handshaker : Handshake.HandshakeServer} {readBuf : Bytes}
    {pieces : List Bytes} {rounds : Nat} {flushes : Nat → Except IoFailure Unit}
    {reached : Session} (waits : handshaker.state = .readC2)
    (done : handshakeLoop surroundings limit rounds flushes { new with readBuf := readBuf }
      handshaker pieces = some (.ok reached)) :
    ∃ overRead announcement,
      ProtocolControlMessagesWriter.writeSetChunkSize ChunkEncoder.default
        (UInt32.ofNat chunkSize) = .ok announcement ∧
      reached = ready overRead announcement (!overRead.isEmpty) := by
  cases rounds with
  | zero => cases done
  | succ rounds =>
      rw [handshakeLoop, doHandshake] at done
      cases read : fill limit 0 readBuf pieces with
      | none =>
          rw [read] at done
          cases done
      | some found =>
          obtain ⟨filled, rest⟩ := found
          rw [read] at done
          dsimp only [bind, Option.bind, pure] at done
          obtain ⟨finished, same⟩ :=
            @shakeHands_waiting surroundings handshaker waits readBuf filled rest
          rw [same] at done
          cases sent : ({ new with
              readBuf := filled.drop Handshake.rtmpHandshakeSize
              skipRead := !(filled.drop Handshake.rtmpHandshakeSize).isEmpty } :
              Session).sendSetChunkSize with
          | mk session result =>
              rw [sent] at done
              cases result with
              | error error => cases done
              | ok sentAll =>
                  cases done
                  obtain ⟨announcement, written, rfl⟩ := sendSetChunkSize_of_ok sent
                  exact ⟨filled.drop Handshake.rtmpHandshakeSize, announcement, written, rfl⟩

/-- The handshake leaves a session that is ready, with the announcement of its
chunk size in its output. -/
theorem runHandshake_ready {pieces : List Bytes} {flushes : Nat → Except IoFailure Unit}
    {reached : Session}
    (done : runHandshake surroundings limit flushes pieces = some (.ok reached)) :
    ∃ overRead announcement,
      ProtocolControlMessagesWriter.writeSetChunkSize ChunkEncoder.default
        (UInt32.ofNat chunkSize) = .ok announcement ∧
      reached = ready overRead announcement (!overRead.isEmpty) := by
  cases limit with
  | zero => cases done
  | succ rounds =>
      rw [runHandshake, handshakeLoop, doHandshake] at done
      cases read : fill (rounds + 1) 0 new.readBuf pieces with
      | none =>
          rw [read] at done
          cases done
      | some found =>
          obtain ⟨filled, rest⟩ := found
          rw [read] at done
          dsimp only [bind, Option.bind, pure] at done
          obtain ⟨server, s1, s2, answered, waits, _⟩ :=
            @Handshake.HandshakeServer.handshake_first surroundings filled
              (fill_size read (Nat.zero_le _))
          have notFinished : ¬ server.state = .finish := by simp [waits]
          rw [shakeHands, answered] at done
          dsimp only at done
          rw [if_neg notFinished] at done
          dsimp only at done
          cases written : flushes 0 with
          | error failure =>
              rw [written, flush_of_error (List.cons_ne_nil _ _)] at done
              cases done
          | ok flushed =>
              rw [written] at done
              exact handshakeLoop_ready waits done

end Handshake

/-! ## End to end -/

theorem contentOf_congr {chunk other : Chunk} (same : chunk.message = other.message) :
    contentOf shortRead chunk = contentOf shortRead other := by
  have type : chunk.messageHeader.msgTypeId = other.messageHeader.msgTypeId :=
    congrArg Message.msgTypeId same
  have streamId : chunk.messageHeader.msgStreamId = other.messageHeader.msgStreamId :=
    congrArg Message.msgStreamId same
  have timestamp : chunk.messageHeader.timestamp = other.messageHeader.timestamp :=
    congrArg Message.timestamp same
  have payload : chunk.payload = other.payload := congrArg Message.payload same
  unfold contentOf MessageParser.parse
  rw [type, streamId, timestamp, payload]

theorem filterMap_contentOf_congr {returned chunks : List Chunk}
    (same : returned.map Chunk.message = chunks.map Chunk.message) :
    returned.filterMap (contentOf shortRead) = chunks.filterMap (contentOf shortRead) := by
  induction returned generalizing chunks with
  | nil =>
      cases chunks with
      | nil => rfl
      | cons chunk chunks => cases same
  | cons first rest ih =>
      cases chunks with
      | nil => cases same
      | cons chunk chunks =>
          obtain ⟨head, tail⟩ := List.cons.inj same
          rw [List.filterMap_cons, List.filterMap_cons, contentOf_congr head, ih tail]

/-- A client finishes the handshake and sends a stream of messages.  However the
network cuts the stream, and whatever the consumers answer, the session handles
the messages in order and the consumer gets what the ledger says; the chunk layer
never ends the session; and when everything has come and nothing has failed, every
message has been handled. -/
theorem run_receives (checks : OverflowChecks) (shortRead : ShortRead)
    {surroundings : Handshake.Surroundings} {limit : Nat}
    {flushes : Nat → Except IoFailure Unit} {pieces : List Bytes} {session : Session}
    {chunks : List Chunk} {bytes after : Bytes} {turns : List Turn}
    (legal : ∀ chunk ∈ chunks, chunk.Legal)
    (few : (chunks.map (·.basicHeader.chunkStreamId)).dedup.length ≤ 100)
    (written : ChunkEncoder.default.writeStream chunks = .ok bytes)
    (handshook : runHandshake surroundings limit flushes pieces = some (.ok session))
    (delivered : session.readBuf ++ (arrived session.skipRead turns ++ after) = bytes) :
    let run := runReady checks shortRead session turns
    contents run.transcript <+: chunks.filterMap (contentOf shortRead) ∧
    run.session.sent = Ledger.start.delivered (messages run.transcript) ∧
    (∀ error, run.result = some (.error error) → error.OfChunks = false) ∧
    (after = [] → turns ≠ [] → (∀ error, run.result ≠ some (.error error)) →
      contents run.transcript = chunks.filterMap (contentOf shortRead)) := by
  intro run
  obtain ⟨stream, same, returned, awaits, messages⟩ := awaits_writeStream checks legal few
  cases written.symm.trans same
  obtain ⟨overRead, announcement, _, rfl⟩ := runHandshake_ready handshook
  rw [← delivered] at awaits
  have receives := runReady_receives checks shortRead after turns
    (ready overRead announcement (!overRead.isEmpty)) returned awaits (by
      intro reads
      have empty : overRead = [] := by simpa [ready] using reads
      subst empty
      rfl)
  obtain ⟨goesOn, follows, _⟩ := (runReady_spec checks shortRead
    (ready overRead announcement (!overRead.isEmpty)) turns).follows
  obtain ⟨sent, _, _⟩ := follows.final (ready_refines _ _ _) (ready_identified _ _ _)
  refine ⟨?_, sent, receives.cause, fun all some unfailed => ?_⟩
  · rw [← filterMap_contentOf_congr messages]
    exact receives.inOrder
  · rw [← filterMap_contentOf_congr messages]
    exact receives.complete ⟨all, fun _ => some⟩ unfailed

/-- The client changes its chunk size, connects, publishes and sends one frame. -/
def publisherChunks : List Chunk :=
  [Chunk.new 2 0 .setChunkSize 0 [0, 0, 0, 200],
    Chunk.new 3 0 .commandAMF0 0 ([0x02, 0, 7, 0x63, 0x6f, 0x6e, 0x6e, 0x65, 0x63, 0x74] ++
      transactionZero ++ [0x03, 0, 3, 0x61, 0x70, 0x70, 0x02, 0, 1, 0x61, 0, 0, 9]),
    Chunk.new 3 0 .commandAMF0 1 ([0x02, 0, 7, 0x70, 0x75, 0x62, 0x6c, 0x69, 0x73, 0x68] ++
      transactionZero ++ [0x05, 0x02, 0, 1, 0x78]),
    Chunk.new 4 40 .video 1 (List.replicate 300 7)]

def publisherBytes : Bytes :=
  (ChunkEncoder.default.writeStream publisherChunks).toOption.getD []

/-- The handshake and the first byte of the stream, each round in one read. -/
def publisherPieces : List Bytes :=
  [3 :: List.replicate 1536 0, List.replicate 1536 0 ++ publisherBytes.take 1]

/-- The rest of the stream in two reads, the first of them in the second round. -/
def publisherTurns : List Turn :=
  [⟨.ok [], fun _ => ⟨some 7, true⟩, .ok ()⟩,
    ⟨.ok ((publisherBytes.drop 1).take 100), fun _ => ⟨some 7, true⟩, .ok ()⟩,
    ⟨.ok ((publisherBytes.drop 1).drop 100), fun _ => ⟨some 7, true⟩, .ok ()⟩]

theorem publisherChunks_legal : ∀ chunk ∈ publisherChunks, chunk.Legal := by
  have announces : readSetChunkSize [0, 0, 0, 200] = .ok 200 := by decide +kernel
  have frame : (List.replicate 300 (7 : UInt8)).length ≤ 10485760 := by
    rw [List.length_replicate]
    decide
  simp only [publisherChunks, List.forall_mem_cons, List.not_mem_nil, false_implies,
    implies_true, and_true]
  exact ⟨Chunk.legal_announcement (by decide) (by decide) (by decide) announces (by decide),
    Chunk.legal_new (by decide) (by decide) (by decide) (by decide),
    Chunk.legal_new (by decide) (by decide) (by decide) (by decide),
    Chunk.legal_new (by decide) (by decide) frame (by decide)⟩

def readyReadBuf : Option (Except SessionError Session) → Option Bytes
  | some (.ok session) => some session.readBuf
  | _ => none

/-- The session that the handshake leaves. -/
def publisherSession : Session := ready (publisherBytes.take 1) setChunkSizeMessage true

/-- The handshake succeeds and leaves the first byte of the stream. -/
theorem publisher_handshook :
    runHandshake Handshake.quiet 3 (fun _ => .ok ()) publisherPieces =
      some (.ok publisherSession) := by
  have left : readyReadBuf (runHandshake Handshake.quiet 3 (fun _ => .ok ()) publisherPieces) =
      some (publisherBytes.take 1) := by decide +kernel
  cases handshake : runHandshake Handshake.quiet 3 (fun _ => .ok ()) publisherPieces with
  | none =>
      rw [handshake] at left
      cases left
  | some ended =>
      cases ended with
      | error error =>
          rw [handshake] at left
          cases left
      | ok session =>
          rw [handshake] at left
          obtain ⟨overRead, announcement, written, rfl⟩ := runHandshake_ready handshake
          have same : overRead = publisherBytes.take 1 := Option.some.inj left
          cases written.symm.trans writeSetChunkSize_default
          have present : (!(publisherBytes.take 1).isEmpty) = true := by decide +kernel
          rw [same, present]
          rfl

/-- Nothing fails while the rest of the stream comes, and the frame reaches the consumer. -/
theorem publisher_served :
    (runReady .on .stays publisherSession publisherTurns).result.isNone = true ∧
      (runReady .on .stays publisherSession publisherTurns).session.sent =
        [.video 40 (List.replicate 300 7)] := by
  constructor
  · decide +kernel
  · decide +kernel

/-- All four messages of the publisher are handled, and the consumer gets the frame. -/
theorem run_receives_publisher :
    runHandshake Handshake.quiet 3 (fun _ => .ok ()) publisherPieces =
        some (.ok publisherSession) ∧
      (publisherChunks.filterMap (contentOf .stays)).length = 4 ∧
      contents (runReady .on .stays publisherSession publisherTurns).transcript =
        publisherChunks.filterMap (contentOf .stays) ∧
      Ledger.start.delivered
          (messages (runReady .on .stays publisherSession publisherTurns).transcript) =
        [.video 40 (List.replicate 300 7)] := by
  have written : ChunkEncoder.default.writeStream publisherChunks = .ok publisherBytes := by
    decide +kernel
  have delivered : publisherSession.readBuf ++
      (arrived publisherSession.skipRead publisherTurns ++ []) = publisherBytes := by
    decide +kernel
  have four : (publisherChunks.filterMap (contentOf .stays)).length = 4 := by decide +kernel
  obtain ⟨goesOn, served⟩ := publisher_served
  obtain ⟨_, sent, _, complete⟩ := run_receives .on .stays publisherChunks_legal (by decide) written
    publisher_handshook delivered
  refine ⟨publisher_handshook, four, complete rfl (List.cons_ne_nil _ _) ?_, sent.symm.trans served⟩
  intro error failed
  rw [failed] at goesOn
  cases goesOn

end Session

end ScuffleVideo.Rtmp.Server
