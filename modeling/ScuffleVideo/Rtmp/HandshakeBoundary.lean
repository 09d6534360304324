import ScuffleVideo.Rtmp.HandshakePhase

/-!
# Between the handshake and the chunks

A client may send C2 and its first chunks right behind C1, and the network cuts the
stream as it likes.  A round of the handshake reserves room for C0 and C1 and drops
what it has not used, so no byte is lost only because no read goes beyond that room:
the first round takes C0 and C1, and the second takes C2 and one byte more.  That
byte stays in the buffer, and the chunk decoder is given it before the next read.
-/

namespace ScuffleVideo.Rtmp.Server

open Wire Handshake Amf0

/-- How the handshake leaves the connection: the session, the server, the pieces that
have not been read, and what has been written to the client. -/
structure HandshakeEnd where
  session : Session
  handshaker : HandshakeServer
  pieces : List Bytes
  written : Bytes

/-- The pieces are reads of at least one byte into the room that the buffer has: `spare`
bytes in this round of the handshake, and `readSize` in each of the others.  The reads
behind the handshake may be of any size. -/
def WithinSpare : Nat → Nat → List Bytes → Prop
  | 0, _, pieces => ∀ piece ∈ pieces, piece ≠ []
  | _ + 1, _, [] => True
  | rounds + 1, spare, piece :: pieces =>
      piece ≠ [] ∧ piece.length ≤ spare ∧
        if piece.length = spare then WithinSpare rounds readSize pieces
        else WithinSpare (rounds + 1) (spare - piece.length) pieces

instance decidableWithinSpare :
    (rounds spare : Nat) → (pieces : List Bytes) → Decidable (WithinSpare rounds spare pieces)
  | 0, _, pieces => decidable_of_iff (∀ piece ∈ pieces, piece ≠ []) (by rw [WithinSpare])
  | _ + 1, _, [] => .isTrue trivial
  | rounds + 1, spare, piece :: pieces =>
      have := decidableWithinSpare rounds readSize pieces
      have := decidableWithinSpare (rounds + 1) (spare - piece.length) pieces
      decidable_of_iff (piece ≠ [] ∧ piece.length ≤ spare ∧
        if piece.length = spare then WithinSpare rounds readSize pieces
        else WithinSpare (rounds + 1) (spare - piece.length) pieces) (by rw [WithinSpare])

namespace Session

variable (surroundings : Surroundings)

/-- The handshake loop of `run` with all that it leaves. -/
def completeHandshake (limit : Nat) :
    Nat → (Nat → Except IoFailure Unit) → Session → HandshakeServer → List Bytes → Bytes →
      Option (Except SessionError HandshakeEnd)
  | 0, _, _, _, _, _ => none
  | rounds + 1, flushes, session, handshaker, pieces, written =>
      match session.doHandshake surroundings limit handshaker pieces with
      | none => none
      | some ⟨_, _, _, .error error⟩ => some (.error error)
      | some ⟨session, handshaker, pieces, .ok true⟩ =>
          some (.ok ⟨session, handshaker, pieces, written⟩)
      | some ⟨session, handshaker, pieces, .ok false⟩ =>
          match session.flush (flushes 0) with
          | (_, .error error) => some (.error error)
          | (flushed, .ok ()) =>
              completeHandshake limit rounds (fun index => flushes (index + 1)) flushed handshaker
                pieces (written ++ session.writeBuf)

theorem handshakeLoop_eq_completeHandshake (limit rounds : Nat)
    (flushes : Nat → Except IoFailure Unit) (session : Session) (handshaker : HandshakeServer)
    (pieces : List Bytes) (written : Bytes) :
    handshakeLoop surroundings limit rounds flushes session handshaker pieces =
      (completeHandshake surroundings limit rounds flushes session handshaker pieces written).map
        (Except.map HandshakeEnd.session) := by
  induction rounds generalizing flushes session handshaker pieces written with
  | zero => rfl
  | succ rounds ih =>
      unfold handshakeLoop completeHandshake
      cases session.doHandshake surroundings limit handshaker pieces with
      | none => rfl
      | some round =>
          obtain ⟨next, server, rest, result⟩ := round
          cases result with
          | error error => rfl
          | ok finished =>
              cases finished with
              | true => rfl
              | false =>
                  dsimp only
                  cases next.flush (flushes 0) with
                  | mk flushed done =>
                      cases done with
                      | error error => rfl
                      | ok done => exact ih _ _ _ _ _

/-! ## One round -/

/-- A round whose reads keep to the room takes exactly its bytes. -/
theorem fill_within {rounds spare : Nat} {pieces : List Bytes} (positive : 0 < spare)
    (room : spare ≤ readSize) (within : WithinSpare (rounds + 1) spare pieces)
    (present : spare ≤ pieces.flatten.length) {limit : Nat} (enough : pieces.length ≤ limit)
    (readBuf : Bytes) :
    ∃ taken rest, pieces = taken ++ rest ∧ taken.flatten.length = spare ∧
      WithinSpare rounds readSize rest ∧
      fill limit (readSize - spare) readBuf pieces = some (readBuf ++ taken.flatten, rest) := by
  induction pieces generalizing spare limit readBuf with
  | nil => exact absurd present (Nat.not_le.mpr positive)
  | cons piece pieces ih =>
      obtain ⟨notEmpty, most, others⟩ := within
      have some : 0 < piece.length := List.length_pos_iff.mpr notEmpty
      rw [List.flatten_cons, List.length_append] at present
      rw [List.length_cons] at enough
      obtain ⟨limit, rfl⟩ : ∃ less, limit = less + 1 := ⟨limit - 1, by omega⟩
      rw [fill_whole (show readSize - spare < readSize by omega) (by omega)]
      split at others
      · rename_i full
        refine ⟨[piece], pieces, rfl, by simpa using full, others, ?_⟩
        rw [fill_of_enough (by omega), List.flatten_singleton]
      · obtain ⟨taken, rest, same, size, after, filled⟩ := ih (by omega) (by omega) others
          (by omega) (show pieces.length ≤ limit by omega) (readBuf ++ piece)
        refine ⟨piece :: taken, rest, by rw [same, List.cons_append], ?_, after, ?_⟩
        · rw [List.flatten_cons, List.length_append, size]
          omega
        · rw [show readSize - spare + piece.length = readSize - (spare - piece.length) by omega,
            filled, List.flatten_cons, List.append_assoc]

section Rounds

variable {surroundings : Surroundings} {session : Session} {handshaker : HandshakeServer}
  {pieces : List Bytes} {limit rounds : Nat}

/-- A round on an empty buffer runs the handshake on the next bytes of the stream. -/
theorem doHandshake_within {front back : Bytes} (empty : session.readBuf = [])
    (cut : pieces.flatten = front ++ back) (size : front.length = readSize)
    (within : WithinSpare (rounds + 1) readSize pieces) (enough : pieces.length ≤ limit) :
    ∃ rest, rest.flatten = back ∧ rest.length ≤ pieces.length ∧ WithinSpare rounds readSize rest ∧
      session.doHandshake surroundings limit handshaker pieces =
        some (session.shakeHands surroundings handshaker front rest) := by
  have present : readSize ≤ pieces.flatten.length := by
    rw [cut, List.length_append, size]
    omega
  obtain ⟨taken, rest, same, taking, after, filled⟩ :=
    fill_within (by decide) (Nat.le_refl _) within present enough session.readBuf
  rw [same, List.flatten_append] at cut
  obtain ⟨isFront, isBack⟩ := List.append_inj cut (by rw [taking, size])
  refine ⟨rest, isBack, ?_, after, ?_⟩
  · rw [same, List.length_append]
    omega
  · rw [Nat.sub_self, empty, List.nil_append, isFront] at filled
    rw [doHandshake, empty, filled]
    rfl

/-- The first round consumes C0 and C1 and queues S0, S1 and S2. -/
theorem shakeHands_first {c0 c1 : Bytes} (version : c0.length = 1)
    (size : c1.length = rtmpHandshakeSize) (session : Session) (rest : List Bytes) :
    ∃ server s1 s2, session.shakeHands surroundings HandshakeServer.default (c0 ++ c1) rest =
        ⟨{ session with readBuf := [], writeBuf := session.writeBuf ++ ([3] ++ s1 ++ s2) }, server,
          rest, .ok false⟩ ∧
      server.state = .readC2 ∧ Answers surroundings c1 s1 s2 := by
  obtain ⟨server, s1, s2, answered, waits, answers⟩ :=
    @HandshakeServer.handshake_first surroundings (c0 ++ c1)
      (by rw [List.length_append, version, size, Nat.add_comm])
  have isC1 : ((c0 ++ c1).drop 1).take rtmpHandshakeSize = c1 := by
    rw [List.drop_left' version, ← size, List.take_length]
  rw [isC1] at answers
  refine ⟨server, s1, s2, ?_, waits, answers⟩
  have notFinished : ¬ server.state = .finish := by simp [waits]
  rw [shakeHands, answered]
  dsimp only
  rw [if_neg notFinished]

/-- The message that tells the client the chunk size. -/
def setChunkSizeMessage : Bytes := [2, 0, 0, 0, 0, 0, 4, 1, 0, 0, 0, 0, 0, 0, 0x10, 0]

theorem writeSetChunkSize_default :
    ProtocolControlMessagesWriter.writeSetChunkSize ChunkEncoder.default (UInt32.ofNat chunkSize) =
      .ok setChunkSizeMessage := by
  decide +kernel

/-- The second round consumes C2, keeps what was read behind it for the chunk decoder,
and queues the chunk size. -/
theorem shakeHands_second {c2 behind : Bytes} (waits : handshaker.state = .readC2)
    (size : c2.length = rtmpHandshakeSize) (more : behind ≠ [])
    (encoder : session.chunkEncoder = ChunkEncoder.default) (rest : List Bytes) :
    ∃ finished, session.shakeHands surroundings handshaker (c2 ++ behind) rest =
        ⟨{ session with
          readBuf := behind, skipRead := true, writeBuf := session.writeBuf ++ setChunkSizeMessage,
          chunkEncoder := ChunkEncoder.default.setChunkSize chunkSize }, finished, rest,
          .ok true⟩ ∧
      finished.state = .finish := by
  obtain ⟨finished, passed, isFinished⟩ :=
    @HandshakeServer.handshake_second surroundings handshaker waits (c2 ++ behind)
  refine ⟨finished, ?_, isFinished⟩
  have left : (c2 ++ behind).drop rtmpHandshakeSize = behind := List.drop_left' size
  have notEmpty : ¬ behind.isEmpty = true := fun empty => more (List.isEmpty_iff.mp empty)
  rw [shakeHands, passed]
  dsimp only
  rw [if_pos isFinished, left, if_neg notEmpty, sendSetChunkSize, write]
  dsimp only
  rw [encoder, writeSetChunkSize_default]
  dsimp only [andThen]
  rw [List.append_nil, List.nil_append]

end Rounds

/-! ## The ready phase -/

section Ready

variable (checks : OverflowChecks) (shortRead : ShortRead)

/-- The bytes of a round's read. -/
def delivered (turn : Turn) : Bytes :=
  match turn.read with
  | .ok bytes => bytes
  | .error _ => []

theorem map_delivered {turns : List Turn} {pieces : List Bytes}
    (reads : turns.map Turn.read = pieces.map Except.ok) : turns.map delivered = pieces := by
  induction turns generalizing pieces with
  | nil =>
      cases pieces with
      | nil => rfl
      | cons piece pieces => cases reads
  | cons turn turns ih =>
      cases pieces with
      | nil => cases reads
      | cons piece pieces =>
          simp only [List.map_cons, List.cons.injEq] at reads
          rw [List.map_cons, delivered, reads.1, ih reads.2]

/-- The buffer that a round gives to the chunk decoder. -/
def presented (session : Session) (turn : Turn) : Bytes :=
  if session.skipRead then session.readBuf else session.readBuf ++ delivered turn

/-- The bytes that the chunk decoder takes out of its buffer in rounds that all go on,
and the session behind them. -/
def takenAlong (session : Session) : List Turn → Option (Bytes × Session)
  | [] => some ([], session)
  | turn :: turns =>
      match doReady checks shortRead session turn with
      | ⟨_, parsed, .ok true⟩ =>
          match parsed.flush turn.flush with
          | (next, .ok ()) => do
              let (taken, last) ← takenAlong next turns
              let buffer := session.presented turn
              return (buffer.take (buffer.length - parsed.readBuf.length) ++ taken, last)
          | (_, .error _) => none
      | _ => none

/-- A call of the chunk decoder takes bytes off the front of the buffer. -/
theorem readChunk_drops (decoder : ChunkDecoder) (buffer : Bytes) :
    ∃ count, (decoder.readChunk checks buffer).2.2 = buffer.drop count := by
  induction size : buffer.length using Nat.strongRecOn generalizing decoder buffer with
  | ind length ih =>
      have front : ∃ count, (decoder.iteration checks buffer).buffer = buffer.drop count := by
        rcases decoder.iteration_drops checks buffer with ⟨result, stopped, _⟩ |
          ⟨position, _, _, left⟩
        · exact ⟨0, by rw [stopped]; rfl⟩
        · exact ⟨position, left⟩
      obtain ⟨count, left⟩ := front
      rw [ChunkDecoder.readChunk_eq]
      cases round : decoder.iteration checks buffer with
      | returns result next rest =>
          rw [round] at left
          exact ⟨count, left⟩
      | continues next rest =>
          rw [round] at left
          have shorter := ChunkDecoder.iteration_continues_lt round
          obtain ⟨more, further⟩ := ih rest.length (by omega) next rest rfl
          refine ⟨count + more, ?_⟩
          dsimp only
          rw [further, show rest = buffer.drop count from left, List.drop_drop]

/-- A step that leaves the input alone. -/
def KeepsInput (session : Session) (step : Step) : Prop :=
  step.1.readBuf = session.readBuf ∧ step.1.skipRead = session.skipRead

theorem write_keepsInput {session : Session} {next : Session} (same : KeepsInput session (next, .ok ()))
    (response : ChunkEncoder → Except WriteFault Bytes) : KeepsInput session (next.write response) := by
  unfold write
  split
  · exact same
  · exact same

theorem andThen_keepsInput {session : Session} {first : Step} {next : Session → Step}
    (head : KeepsInput session first)
    (tail : ∀ middle : Session, KeepsInput session (middle, .ok ()) → KeepsInput session (next middle)) :
    KeepsInput session (andThen first next) := by
  obtain ⟨middle, result⟩ := first
  cases result with
  | error error => exact head
  | ok done => exact tail middle head

theorem onData_keepsInput (answer : Answer) (session : Session) (streamId : UInt32)
    (data : ChannelData) : KeepsInput session (onData answer session streamId data) := by
  unfold onData
  split
  · exact ⟨rfl, rfl⟩
  · split
    · exact ⟨rfl, rfl⟩
    · exact ⟨rfl, rfl⟩

theorem onSetChunkSize_keepsInput (session : Session) (size : Nat) :
    KeepsInput session (session.onSetChunkSize size) := by
  unfold onSetChunkSize
  split
  · exact ⟨rfl, rfl⟩
  · exact ⟨rfl, rfl⟩

theorem onAmf0CommandMessage_keepsInput (answer : Answer) (session : Session) (streamId : UInt32)
    (commandName transactionId commandObject : Amf0Value) (others : List Amf0Value) :
    KeepsInput session (onAmf0CommandMessage answer session streamId commandName transactionId
      commandObject others) := by
  unfold onAmf0CommandMessage
  cases commandOf commandName with
  | connect =>
      refine andThen_keepsInput (write_keepsInput ⟨rfl, rfl⟩ _) fun first kept => ?_
      refine andThen_keepsInput (write_keepsInput kept _) fun second same => ?_
      split
      · apply write_keepsInput
        exact ⟨same.1, same.2⟩
      · exact same
  | createStream => exact write_keepsInput ⟨rfl, rfl⟩ _
  | publish =>
      dsimp only
      unfold onCommandPublish
      split
      · split
        · exact ⟨rfl, rfl⟩
        · split
          · exact ⟨rfl, rfl⟩
          · exact andThen_keepsInput (write_keepsInput ⟨rfl, rfl⟩ _) fun _ same =>
              write_keepsInput same _
      · exact ⟨rfl, rfl⟩
  | play => exact ⟨rfl, rfl⟩
  | deleteStream =>
      dsimp only
      unfold onCommandDeleteStream
      apply write_keepsInput
      split
      · exact ⟨rfl, rfl⟩
      · exact ⟨rfl, rfl⟩
  | closeStream => exact ⟨rfl, rfl⟩
  | releaseStream => exact ⟨rfl, rfl⟩
  | unknown name => exact ⟨rfl, rfl⟩

/-- Handling a message leaves the input alone. -/
theorem handle_keepsInput (session : Session) (received : Received) :
    KeepsInput session (session.handle received) := by
  unfold handle processMessages
  cases received.message with
  | amf0Command commandName transactionId commandObject others =>
      exact onAmf0CommandMessage_keepsInput _ _ _ _ _ _ _
  | amfData data => exact onData_keepsInput _ _ _ _
  | setChunkSize size => exact onSetChunkSize_keepsInput _ _
  | audioData data => exact onData_keepsInput _ _ _ _
  | videoData data => exact onData_keepsInput _ _ _ _

/-- Parsing takes bytes off the front of the buffer. -/
theorem parseChunksLoop_drops (answers : Nat → Answer) (fuel index : Nat) (session : Session) :
    (∃ count, (parseChunksLoop checks shortRead answers fuel index session).session.readBuf =
        session.readBuf.drop count) ∧
      (parseChunksLoop checks shortRead answers fuel index session).session.skipRead =
        session.skipRead := by
  induction fuel generalizing index session with
  | zero => exact ⟨⟨0, rfl⟩, rfl⟩
  | succ fuel ih =>
      obtain ⟨count, left⟩ := readChunk_drops checks session.chunkDecoder session.readBuf
      have further {next : Session} (buffer : next.readBuf = session.readBuf.drop count)
          (skip : next.skipRead = session.skipRead) (index : Nat) :
          (∃ count, (parseChunksLoop checks shortRead answers fuel index next).session.readBuf =
              session.readBuf.drop count) ∧
            (parseChunksLoop checks shortRead answers fuel index next).session.skipRead =
              session.skipRead := by
        obtain ⟨⟨more, rest⟩, same⟩ := ih index next
        exact ⟨⟨count + more, by rw [rest, buffer, List.drop_drop]⟩, by rw [same, skip]⟩
      unfold parseChunksLoop
      split
      · rename_i call
        rw [call] at left
        exact ⟨⟨count, left⟩, rfl⟩
      · rename_i call
        rw [call] at left
        exact ⟨⟨count, left⟩, rfl⟩
      · rename_i chunk decoder readBuf call
        rw [call] at left
        dsimp only
        split
        · exact ⟨⟨count, left⟩, rfl⟩
        · exact @further { session with chunkDecoder := decoder, readBuf := readBuf } left rfl index
        · rename_i message _
          have kept := handle_keepsInput { session with chunkDecoder := decoder, readBuf := readBuf }
            ⟨message, chunk.messageHeader.msgStreamId, chunk.messageHeader.timestamp, answers index⟩
          split
          · rename_i next error handled
            rw [handled] at kept
            exact ⟨⟨count, kept.1.trans left⟩, kept.2⟩
          · rename_i next handled
            rw [handled] at kept
            exact further (kept.1.trans left) kept.2 (index + 1)

/-- A round that goes on leaves a rest of the buffer that it has given to the
decoder. -/
theorem doReady_goesOn {session parsed : Session} {turn : Turn}
    {transcript : List (Received × Session)}
    (round : doReady checks shortRead session turn = ⟨transcript, parsed, .ok true⟩) :
    (∃ count, parsed.readBuf = (session.presented turn).drop count) ∧ parsed.skipRead = false := by
  have result {ready : Session} (skip : ready.skipRead = false)
      (parsing : (⟨(parseChunks checks shortRead turn.answers ready).transcript,
        (parseChunks checks shortRead turn.answers ready).session,
        (parseChunks checks shortRead turn.answers ready).result.map fun _ => true⟩ :
          Progress (Except SessionError Bool)) = ⟨transcript, parsed, .ok true⟩) :
      (∃ count, parsed.readBuf = ready.readBuf.drop count) ∧ parsed.skipRead = false := by
    obtain ⟨⟨count, left⟩, same⟩ := parseChunksLoop_drops checks shortRead turn.answers
      (ready.readBuf.length + 1) 0 ready
    have reached : (parseChunks checks shortRead turn.answers ready).session = parsed :=
      congrArg Progress.session parsing
    subst reached
    exact ⟨⟨count, left⟩, same.trans skip⟩
  unfold doReady at round
  unfold presented delivered
  dsimp only at round
  split at round
  · rename_i skip
    rw [if_pos skip]
    exact @result { session with skipRead := false } rfl round
  · rename_i reads
    rw [if_neg reads]
    split at round
    · cases round
    · rename_i bytes read
      rw [read]
      split at round
      · cases round
      · exact @result { session with readBuf := session.readBuf ++ bytes }
          (Bool.eq_false_iff.mpr reads) round

theorem flush_keepsInput {session next : Session} {written : Except IoFailure Unit}
    (flushed : session.flush written = (next, .ok ())) : KeepsInput session (next, .ok ()) := by
  unfold flush at flushed
  split at flushed
  · cases flushed
    exact ⟨rfl, rfl⟩
  · split at flushed
    · cases flushed
      exact ⟨rfl, rfl⟩
    · cases flushed

theorem take_before_rest {buffer rest : Bytes} {count : Nat} (left : rest = buffer.drop count) :
    buffer.take (buffer.length - rest.length) ++ rest = buffer := by
  have same : buffer.length - rest.length = min count buffer.length := by
    rw [left, List.length_drop]
    omega
  rw [same, ← List.take_eq_take_min, left, List.take_append_drop]

/-- One of the rounds that go on. -/
theorem takenAlong_cons {session last : Session} {turn : Turn} {turns : List Turn} {taken : Bytes}
    (run : takenAlong checks shortRead session (turn :: turns) = some (taken, last)) :
    ∃ (parsed next : Session) (more : Bytes), (∃ count, parsed.readBuf = (session.presented turn).drop count) ∧
      next.skipRead = false ∧ next.readBuf = parsed.readBuf ∧
      takenAlong checks shortRead next turns = some (more, last) ∧
      taken = (session.presented turn).take
        ((session.presented turn).length - parsed.readBuf.length) ++ more := by
  unfold takenAlong at run
  split at run
  · rename_i transcript parsed round
    obtain ⟨left, aligned⟩ := doReady_goesOn checks shortRead round
    split at run
    · rename_i next flushed
      have kept := flush_keepsInput flushed
      obtain ⟨⟨more, final⟩, rest, done⟩ := Option.bind_eq_some_iff.mp run
      cases done
      exact ⟨parsed, next, more, left, kept.2.trans aligned, kept.1, rest, rfl⟩
    · cases run
  · cases run

/-- What the decoder has taken and what it has in its buffer are the bytes that the first
round gave it and those of the later reads, in their order. -/
theorem takenAlong_accounts {session last : Session} {turn : Turn} {turns : List Turn}
    {taken : Bytes} (run : takenAlong checks shortRead session (turn :: turns) = some (taken, last)) :
    taken ++ last.readBuf = session.presented turn ++ (turns.map delivered).flatten := by
  induction turns generalizing session turn taken with
  | nil =>
      obtain ⟨parsed, next, more, left, _, kept, rest, same⟩ := takenAlong_cons checks shortRead run
      cases rest
      rw [same, List.append_nil, kept, take_before_rest left.choose_spec, List.map_nil,
        List.flatten_nil, List.append_nil]
  | cons second turns ih =>
      obtain ⟨parsed, next, more, left, reads, kept, rest, same⟩ :=
        takenAlong_cons checks shortRead run
      have buffer : next.presented second = parsed.readBuf ++ delivered second := by
        rw [presented, if_neg (Bool.eq_false_iff.mp reads), kept]
      rw [same, List.append_assoc, ih rest, buffer, List.append_assoc, ← List.append_assoc,
        take_before_rest left.choose_spec, List.map_cons, List.flatten_cons]

/-- A session with bytes left from the handshake is given them first, as if they had just
been read. -/
theorem runReady_leftover {readBuf : Bytes} (more : readBuf ≠ []) (writeBuf : Bytes) (turn : Turn)
    (turns : List Turn) :
    runReady checks shortRead (ready readBuf writeBuf true) (turn :: turns) =
      runReady checks shortRead (ready [] writeBuf false)
        ({ turn with read := .ok readBuf } :: turns) := by
  have notEmpty : ¬ readBuf.isEmpty = true := fun empty => more (List.isEmpty_iff.mp empty)
  have same : doReady checks shortRead (ready readBuf writeBuf true) turn =
      doReady checks shortRead (ready [] writeBuf false) { turn with read := .ok readBuf } := by
    simp only [doReady, ready, if_true, Bool.false_eq_true, if_false, notEmpty, List.nil_append]
  unfold runReady
  rw [same]

end Ready

/-! ## The whole boundary -/

/-- For every stream of C0, C1, C2 and more, however the network cuts it within the room of
the buffer, the handshake finishes with S0, S1 and S2 written, the chunk size queued and
the first byte behind C2 in the buffer.  From there the chunk decoder is given that byte
without a read and then the reads, so that what it has taken, what is in its buffer and
what is still to be read are always the bytes behind C2. -/
theorem handshake_boundary (surroundings : Surroundings) {c0 c1 c2 rest : Bytes}
    (version : c0.length = 1) (firstSize : c1.length = rtmpHandshakeSize)
    (secondSize : c2.length = rtmpHandshakeSize) (more : rest ≠ []) {pieces : List Bytes}
    (cut : pieces.flatten = c0 ++ c1 ++ c2 ++ rest) (within : WithinSpare 2 readSize pieces)
    {flushes : Nat → Except IoFailure Unit} (accepted : flushes 0 = .ok ()) {limit : Nat}
    (enough : pieces.length + 2 ≤ limit) :
    ∃ finished later s1 s2,
      completeHandshake surroundings limit limit flushes new HandshakeServer.default pieces [] =
          some (.ok ⟨ready (rest.take 1) setChunkSizeMessage true, finished, later,
            [3] ++ s1 ++ s2⟩) ∧
        runHandshake surroundings limit flushes pieces =
          some (.ok (ready (rest.take 1) setChunkSizeMessage true)) ∧
        finished.state = .finish ∧ Answers surroundings c1 s1 s2 ∧
        s1.length = rtmpHandshakeSize ∧ s2.length = rtmpHandshakeSize ∧
        rest.take 1 ++ later.flatten = rest ∧
        ∀ (checks : OverflowChecks) (shortRead : ShortRead) (turn : Turn) (turns : List Turn),
          runReady checks shortRead (ready (rest.take 1) setChunkSizeMessage true) (turn :: turns) =
              runReady checks shortRead (ready [] setChunkSizeMessage false)
                ({ turn with read := .ok (rest.take 1) } :: turns) ∧
            ∀ (count : Nat) (taken : Bytes) (last : Session),
              turns.map Turn.read = (later.take count).map Except.ok →
              takenAlong checks shortRead (ready (rest.take 1) setChunkSizeMessage true)
                  (turn :: turns) = some (taken, last) →
                taken ++ last.readBuf ++ (later.drop count).flatten = rest := by
  obtain ⟨first, others⟩ : ∃ first others, rest = first :: others := List.exists_cons_of_ne_nil more
  obtain ⟨others, rfl⟩ := others
  obtain ⟨rounds, rfl⟩ : ∃ rounds, limit = rounds + 2 := ⟨limit - 2, by omega⟩
  rw [List.append_assoc] at cut
  obtain ⟨middle, middleIs, fewer, withinSecond, roundOne⟩ :=
    @doHandshake_within surroundings new HandshakeServer.default pieces (rounds + 2) 1 (c0 ++ c1)
      (c2 ++ first :: others) rfl cut (by rw [List.length_append, version, firstSize]; rfl) within
      (by omega)
  obtain ⟨server, s1, s2, answered, waits, answers⟩ :=
    @shakeHands_first surroundings c0 c1 version firstSize new middle
  rw [answered] at roundOne
  obtain ⟨later, laterIs, _, _, roundTwo⟩ :=
    @doHandshake_within surroundings new server middle (rounds + 2) 0
      (c2 ++ [first]) others rfl (by rw [middleIs, List.append_assoc]; rfl)
      (by rw [List.length_append, secondSize]; rfl) withinSecond (by omega)
  obtain ⟨finished, ended, isFinished⟩ :=
    @shakeHands_second surroundings new server c2 [first] waits secondSize
      (List.cons_ne_nil first []) rfl later
  rw [ended] at roundTwo
  have second (flushes : Nat → Except IoFailure Unit) (written : Bytes) :
      completeHandshake surroundings (rounds + 2) (rounds + 1) flushes new server middle written =
        some (.ok ⟨ready [first] setChunkSizeMessage true, finished, later, written⟩) := by
    rw [completeHandshake, roundTwo]
    rfl
  have complete : completeHandshake surroundings (rounds + 2) (rounds + 2) flushes new
      HandshakeServer.default pieces [] =
        some (.ok ⟨ready [first] setChunkSizeMessage true, finished, later, [3] ++ s1 ++ s2⟩) := by
    rw [completeHandshake, roundOne]
    dsimp only
    rw [accepted]
    dsimp only [flush]
    rw [if_neg (by simp)]
    exact second _ _
  refine ⟨finished, later, s1, s2, complete, ?_, isFinished, answers, (answers.length firstSize).1,
    (answers.length firstSize).2, ?_, ?_⟩
  · rw [runHandshake, handshakeLoop_eq_completeHandshake surroundings _ _ _ _ _ _ [], complete]
    rfl
  · rw [laterIs]
    rfl
  · intro checks shortRead turn turns
    refine ⟨runReady_leftover checks shortRead (List.cons_ne_nil first []) _ _ _, ?_⟩
    intro count taken last reads run
    have accounts := takenAlong_accounts checks shortRead run
    rw [accounts, map_delivered reads, List.append_assoc, ← List.flatten_append,
      List.take_append_drop, laterIs]
    rfl

/-- A client that sends everything at once, cut where the buffer is full. -/
def eagerPieces : List Bytes :=
  [3 :: List.replicate 1536 7, List.replicate 1000 8, List.replicate 536 8 ++ [2], [0, 0, 0, 5]]

theorem eagerPieces_boundary :
    WithinSpare 2 readSize eagerPieces ∧
      ∃ finished later s1 s2,
        completeHandshake ⟨fun _ _ => Vector.replicate 32 0, 0, 0, fun _ => 0, fun _ => 0⟩ 6 6
            (fun _ => .ok ()) new HandshakeServer.default eagerPieces [] =
          some (.ok ⟨ready [2] setChunkSizeMessage true, finished, later, [3] ++ s1 ++ s2⟩) ∧
        [2] ++ later.flatten = [2, 0, 0, 0, 5] := by
  have within : WithinSpare 2 readSize eagerPieces := by
    decide +kernel
  have cut : eagerPieces.flatten = [3] ++ List.replicate 1536 7 ++ List.replicate 1536 8 ++
      [2, 0, 0, 0, 5] := by
    decide +kernel
  obtain ⟨finished, later, s1, s2, complete, _, _, _, _, _, account, _⟩ :=
    @handshake_boundary ⟨fun _ _ => Vector.replicate 32 0, 0, 0, fun _ => 0, fun _ => 0⟩ [3]
      (List.replicate 1536 7) (List.replicate 1536 8) [2, 0, 0, 0, 5] rfl List.length_replicate
      List.length_replicate (List.cons_ne_nil _ _) eagerPieces cut within (fun _ => .ok ()) rfl 6
      (Nat.le_refl 6)
  exact ⟨within, finished, later, s1, s2, complete, account⟩

end Session

end ScuffleVideo.Rtmp.Server
