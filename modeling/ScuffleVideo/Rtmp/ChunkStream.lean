import ScuffleVideo.Rtmp.Fragmentation
import ScuffleVideo.Rtmp.RoundTrip

/-!
# Streams of messages

A sender may change its chunk size between messages.  It announces the new size
in the old one and uses it from the next message on.  The reading loop of a
session follows it, so the messages come out as they were sent, and no byte is
left over.
-/

namespace ScuffleVideo.Rtmp

open Wire

namespace ChunkEncoder

/-- The encoder after a message: a chunk size that the message announces is used
from then on. -/
def afterSending (encoder : ChunkEncoder) (chunk : Chunk) : ChunkEncoder :=
  match chunk.messageHeader.msgTypeId with
  | .setChunkSize =>
      match readSetChunkSize chunk.payload with
      | .ok chunkSize => encoder.setChunkSize chunkSize.toNat
      | .error _ => encoder
  | _ => encoder

/-- Successive messages, each in the chunk size that was announced last. -/
def writeStream (encoder : ChunkEncoder) : List Chunk → Except EncodeFault Bytes
  | [] => .ok []
  | chunk :: chunks => do
      let bytes ← encoder.writeChunk chunk
      let rest ← (encoder.afterSending chunk).writeStream chunks
      return bytes ++ rest

end ChunkEncoder

/-- A message within the limits of the wire format that announces no chunk size
but those a receiver accepts. -/
structure Chunk.Legal (chunk : Chunk) : Prop where
  sendable : chunk.Sendable
  announced : chunk.messageHeader.msgTypeId = .setChunkSize →
    ∃ chunkSize, readSetChunkSize chunk.payload = .ok chunkSize ∧
      128 ≤ chunkSize.toNat ∧ chunkSize.toNat ≤ 65536

/-- A message that announces nothing. -/
theorem Chunk.legal_new {csid timestamp msgStreamId : UInt32} {msgTypeId : MessageTypeID}
    {payload : Bytes} (least : 2 ≤ csid.toNat) (most : csid.toNat ≤ 65599)
    (small : payload.length ≤ 10485760) (other : msgTypeId ≠ .setChunkSize) :
    (Chunk.new csid timestamp msgTypeId msgStreamId payload).Legal where
  sendable := ⟨csid, timestamp, msgTypeId, msgStreamId, payload, rfl, least, most, small⟩
  announced := fun announces => absurd announces other

/-- An announcement of an accepted chunk size. -/
theorem Chunk.legal_announcement {csid timestamp msgStreamId chunkSize : UInt32}
    {payload : Bytes} (least : 2 ≤ csid.toNat) (most : csid.toNat ≤ 65599)
    (small : payload.length ≤ 10485760) (found : readSetChunkSize payload = .ok chunkSize)
    (accepted : 128 ≤ chunkSize.toNat ∧ chunkSize.toNat ≤ 65536) :
    (Chunk.new csid timestamp .setChunkSize msgStreamId payload).Legal where
  sendable := ⟨csid, timestamp, .setChunkSize, msgStreamId, payload, rfl, least, most, small⟩
  announced := fun _ => ⟨chunkSize, found, accepted⟩

section Announcing

variable {chunkSize : Nat} {chunk output : Chunk}

theorem ChunkEncoder.afterSending_of_announced {encoder : ChunkEncoder} {announced : UInt32}
    (announces : chunk.messageHeader.msgTypeId = .setChunkSize)
    (found : readSetChunkSize chunk.payload = .ok announced) :
    encoder.afterSending chunk = ⟨announced.toNat⟩ := by
  rw [afterSending, announces]
  dsimp only
  rw [found]
  rfl

theorem ChunkEncoder.afterSending_of_other {encoder : ChunkEncoder}
    (other : chunk.messageHeader.msgTypeId ≠ .setChunkSize) :
    encoder.afterSending chunk = encoder := by
  unfold afterSending
  split
  · rename_i announces
    exact absurd announces other
  · rfl

theorem Chunk.Legal.afterSending_positive (legal : chunk.Legal) (positive : 0 < chunkSize) :
    0 < (ChunkEncoder.afterSending ⟨chunkSize⟩ chunk).chunkSize := by
  by_cases announces : chunk.messageHeader.msgTypeId = .setChunkSize
  · obtain ⟨announced, found, least, _⟩ := legal.announced announces
    rw [ChunkEncoder.afterSending_of_announced announces found]
    exact Nat.lt_of_lt_of_le (by decide : 0 < 128) least
  · rw [ChunkEncoder.afterSending_of_other announces]
    exact positive

/-- The chunk size is not part of what the streams remember. -/
theorem Represents.resize {decoder : ChunkDecoder} {streams : Assembler} {other : Nat}
    (represents : Represents chunkSize decoder streams) (positive : 0 < other) :
    Represents other { decoder with maxChunkSize := other } streams where
  positive := positive
  size := rfl
  headers := represents.headers
  partials := represents.partials
  sound := represents.sound

/-- A receiver that has been given a message is ready for the chunk size of the
next one. -/
theorem Represents.processChunk {decoder : ChunkDecoder} {streams : Assembler}
    (represents : Represents chunkSize decoder streams) (legal : chunk.Legal)
    (same : output.message = chunk.message) :
    ∃ next, Session.processChunk decoder output = .ok next ∧
      Represents (ChunkEncoder.afterSending ⟨chunkSize⟩ chunk).chunkSize next streams := by
  have type : output.messageHeader.msgTypeId = chunk.messageHeader.msgTypeId :=
    congrArg Message.msgTypeId same
  have payload : output.payload = chunk.payload := congrArg Message.payload same
  by_cases announces : chunk.messageHeader.msgTypeId = .setChunkSize
  · obtain ⟨announced, found, least, most⟩ := legal.announced announces
    rw [ChunkEncoder.afterSending_of_announced announces found]
    have positive : 0 < announced.toNat := Nat.lt_of_lt_of_le (by decide : 0 < 128) least
    refine ⟨_, ?_, represents.resize positive⟩
    rw [Session.processChunk, type, announces]
    dsimp only
    rw [payload, found]
    change Session.onSetChunkSize decoder announced.toNat = _
    rw [Session.onSetChunkSize, ChunkDecoder.updateMaxChunkSize, if_pos ⟨least, most⟩]
  · rw [ChunkEncoder.afterSending_of_other announces]
    refine ⟨decoder, ?_, represents⟩
    unfold Session.processChunk
    split
    · rename_i announced
      exact absurd (type.symm.trans announced) announces
    · rfl

end Announcing

/-! ## One message -/

namespace Assembler.Run

variable {chunkSize : Nat} {streams last : Assembler} {chunks : List WireChunk}

/-- A run that delivers nothing and leaves no message open has no chunks. -/
theorem eq_nil_of_silent {outputs : List Chunk} (run : Run chunkSize streams chunks last outputs)
    (positive : 0 < chunkSize) (sound : ∀ csid, (streams csid).Sound) (silent : outputs = [])
    (idle : ∀ csid, (last csid).received = []) : chunks = [] ∧ last = streams := by
  induction run with
  | done streams => exact ⟨rfl, rfl⟩
  | @step streams last chunk chunks header outputs fits admitted room rest ih =>
      exfalso
      obtain ⟨undelivered, nothing⟩ := List.append_eq_nil_iff.mp silent
      have soundAfter : ∀ csid, (streams.absorb chunk header csid).Sound := by
        intro csid
        by_cases same : csid = chunk.csid
        · rw [same, Assembler.absorb, Function.update_self]
          exact (sound _).absorb admitted
        · rw [Assembler.absorb, Function.update_of_ne same]
          exact sound csid
      obtain ⟨_, rfl⟩ := ih soundAfter nothing idle
      have held := admitted.received_le (sound _)
      have size := admitted.size
      have closed := idle chunk.csid
      rw [Assembler.absorb, Function.update_self] at closed
      unfold StreamState.delivered StreamState.absorb at undelivered
      unfold StreamState.absorb at closed
      split at undelivered
      · cases undelivered
      · rename_i unfinished
        rw [if_neg unfinished] at closed
        have lengths := congrArg List.length closed
        rw [List.length_append] at unfinished
        rw [List.length_append, List.length_nil] at lengths
        omega

end Assembler.Run

/-- The decoder returns the message of a run that delivers one and leaves none
open, and reads no further. -/
theorem Represents.readChunk_run {chunkSize : Nat} {decoder : ChunkDecoder}
    {streams last : Assembler} {wire : List WireChunk} {outputs : List Chunk} {output : Chunk}
    (represents : Represents chunkSize decoder streams)
    (run : Assembler.Run chunkSize streams wire last outputs) (single : outputs = [output])
    (idle : ∀ csid, (last csid).received = []) (checks : OverflowChecks) (rest : Bytes) :
    ∃ next, Represents chunkSize next last ∧
      decoder.readChunk checks (wire.flatMap WireChunk.bytes ++ rest) =
        (.ok (some output), next, rest) := by
  induction run generalizing decoder with
  | done streams => cases single
  | @step streams last chunk chunks header outputs fits admitted room run ih =>
      rw [List.flatMap_cons, List.append_assoc]
      by_cases whole :
          ((streams chunk.csid).received ++ chunk.payload).length = header.msgLength.toNat
      · have state : (streams chunk.csid).absorb header chunk.payload =
            (⟨some header, []⟩, some (header, (streams chunk.csid).received ++ chunk.payload)) :=
          if_pos whole
        rw [Assembler.absorb, state] at room run
        rw [StreamState.delivered, state] at single
        obtain ⟨same, silent⟩ := List.cons.inj single
        obtain ⟨next, stored, round⟩ := represents.step_completes fits admitted whole room checks
          (chunks.flatMap WireChunk.bytes ++ rest)
        obtain ⟨rfl, rfl⟩ := run.eq_nil_of_silent represents.positive stored.sound silent idle
        refine ⟨next, stored, ?_⟩
        rw [ChunkDecoder.readChunk_of_returns round, ← same]
        rfl
      · have state : (streams chunk.csid).absorb header chunk.payload =
            (⟨some header, (streams chunk.csid).received ++ chunk.payload⟩, none) :=
          if_neg whole
        rw [Assembler.absorb, state] at room ih
        rw [StreamState.delivered, state] at single
        obtain ⟨next, stored, round⟩ := represents.step_grows fits admitted whole room checks
          (chunks.flatMap WireChunk.bytes ++ rest)
        obtain ⟨final, finished, call⟩ := ih stored single idle
        exact ⟨final, finished, (ChunkDecoder.readChunk_of_continues round).trans call⟩

/-! ## A stream -/

section Streams

variable {known : List UInt32} {chunks : List Chunk}

theorem writeStream_cons {encoder : ChunkEncoder} {chunk : Chunk} {first rest : Bytes}
    (written : encoder.writeChunk chunk = .ok first)
    (more : (encoder.afterSending chunk).writeStream chunks = .ok rest) :
    encoder.writeStream (chunk :: chunks) = .ok (first ++ rest) := by
  rw [ChunkEncoder.writeStream, written]
  dsimp only [bind, Except.bind]
  rw [more]
  rfl

/-- Every stream of legal messages can be written. -/
theorem writeStream_ok {chunkSize : Nat} (positive : 0 < chunkSize)
    (legal : ∀ chunk ∈ chunks, chunk.Legal) :
    ∃ bytes, ChunkEncoder.writeStream ⟨chunkSize⟩ chunks = .ok bytes := by
  induction chunks generalizing chunkSize with
  | nil => exact ⟨[], rfl⟩
  | cons chunk chunks ih =>
      have first := legal chunk List.mem_cons_self
      obtain ⟨opening, rest, written, _⟩ :=
        writeChunk_chunks positive first.sendable.fits first.sendable.small
      obtain ⟨more, writtenMore⟩ := ih (first.afterSending_positive positive)
        fun later member => legal later (List.mem_cons_of_mem _ member)
      exact ⟨_, writeStream_cons written writtenMore⟩

/-- The reading loop returns the messages of a stream and ends with nothing
unread. -/
theorem parseChunks_writeStream (checks : OverflowChecks)
    (few : known.length ≤ Limits.maxPreviousChunkHeaders) {chunkSize : Nat}
    {decoder : ChunkDecoder} {streams : Assembler}
    (represents : Represents chunkSize decoder streams) (quiet : Quiet known streams)
    (legal : ∀ chunk ∈ chunks, chunk.Legal)
    (inside : ∀ chunk ∈ chunks, chunk.basicHeader.chunkStreamId ∈ known) {bytes : Bytes}
    (written : ChunkEncoder.writeStream ⟨chunkSize⟩ chunks = .ok bytes) :
    ∃ returned last, Session.parseChunks checks decoder bytes = (returned, .ok (last, [])) ∧
      returned.map Chunk.message = chunks.map Chunk.message := by
  induction chunks generalizing chunkSize decoder streams bytes with
  | nil =>
      cases written
      exact ⟨[], decoder, rfl, rfl⟩
  | cons chunk chunks ih =>
      have first := legal chunk List.mem_cons_self
      have later : ∀ other ∈ chunks, other.Legal :=
        fun other member => legal other (List.mem_cons_of_mem _ member)
      obtain ⟨wire, last, outputs, writtenFirst, run, quietAfter, messages⟩ :=
        run_writeChunk represents.positive few first.sendable
          (inside chunk List.mem_cons_self) quiet
      obtain ⟨output, rfl, same⟩ := List.map_eq_singleton_iff.mp messages
      obtain ⟨rest, writtenRest⟩ :=
        writeStream_ok (first.afterSending_positive represents.positive) later
      rw [writeStream_cons writtenFirst writtenRest] at written
      cases written
      obtain ⟨next, stored, call⟩ :=
        represents.readChunk_run run rfl quietAfter.idle checks rest
      obtain ⟨resized, processed, ready⟩ := stored.processChunk first same
      obtain ⟨returned, final, parsed, others⟩ := ih ready quietAfter later
        (fun other member => inside other (List.mem_cons_of_mem _ member)) writtenRest
      refine ⟨output :: returned, final, ?_, ?_⟩
      · rw [Session.parseChunks_eq, call]
        dsimp only
        rw [processed]
        dsimp only
        rw [parsed]
        rfl
      · rw [List.map_cons, List.map_cons, same, others]

end Streams

/-! ## What is still to come -/

namespace Session

/-- The reading loop takes these chunks out of the bytes and nothing is left. -/
def Awaits (checks : OverflowChecks) (decoder : ChunkDecoder) (bytes : Bytes)
    (chunks : List Chunk) : Prop :=
  ∃ last, (machine checks).drain decoder bytes = (chunks, .waiting last [])

variable {checks : OverflowChecks} {decoder : ChunkDecoder} {bytes buffer after : Bytes}
  {chunks : List Chunk}

theorem awaits_of_parseChunks {last : ChunkDecoder}
    (parsed : parseChunks checks decoder bytes = (chunks, .ok (last, []))) :
    Awaits checks decoder bytes chunks := by
  refine ⟨last, ?_⟩
  rw [parseChunks_eq_drain] at parsed
  cases drained : (machine checks).drain decoder bytes with
  | mk output status =>
      rw [drained] at parsed
      cases status with
      | halted error => cases parsed
      | waiting next unread =>
          cases parsed
          rfl

/-- A buffer that the loop has to wait on holds no chunk. -/
theorem Awaits.eq_nil (awaits : Awaits checks decoder buffer chunks)
    (starved : (machine checks).step decoder buffer = .starved) : chunks = [] := by
  obtain ⟨last, drained⟩ := awaits
  rw [Machine.drain_starved starved] at drained
  exact (congrArg Prod.fst drained).symm

theorem awaits_nil (checks : OverflowChecks) (decoder : ChunkDecoder) :
    Awaits checks decoder [] [] :=
  ⟨decoder, Machine.drain_starved ((machine checks).waits decoder)⟩

/-- However the bytes are cut. -/
theorem Awaits.receive {pieces : List Bytes}
    (awaits : Awaits checks decoder pieces.flatten chunks) :
    ∃ last, receive checks decoder [] pieces = (chunks, .ok (last, [])) := by
  obtain ⟨last, drained⟩ := awaits
  refine ⟨last, ?_⟩
  rw [receive_eq_feed, Machine.feed_nil_eq_drain, drained]
  rfl

/-- The loop is run when the first bytes have come.  It takes the first chunks and
waits for the others. -/
theorem Awaits.parseChunks (awaits : Awaits checks decoder (buffer ++ after) chunks) :
    ∃ first rest next left, parseChunks checks decoder buffer = (first, .ok (next, left)) ∧
      chunks = first ++ rest ∧ Awaits checks next (left ++ after) rest ∧
      (machine checks).step next left = .starved := by
  obtain ⟨last, drained⟩ := awaits
  rw [Machine.drain_append] at drained
  rw [parseChunks_eq_drain]
  cases split : (machine checks).drain decoder buffer with
  | mk first status =>
      rw [split] at drained
      cases status with
      | halted error => cases drained
      | waiting next left =>
          obtain ⟨same, ended⟩ := Prod.mk.inj drained
          exact ⟨first, _, next, left, rfl, same.symm, ⟨last, Prod.ext rfl ended⟩,
            Machine.step_of_drain_waiting (congrArg Prod.snd split)⟩

/-- Only the first bytes come, however they are cut.  They bring the first chunks. -/
theorem Awaits.receive_front {pieces : List Bytes}
    (awaits : Awaits checks decoder (pieces.flatten ++ after) chunks) :
    ∃ first next left, Session.receive checks decoder [] pieces = (first, .ok (next, left)) ∧
      first <+: chunks := by
  obtain ⟨first, rest, next, left, parsed, same, _, _⟩ := awaits.parseChunks
  refine ⟨first, next, left, ?_, ⟨rest, same.symm⟩⟩
  rw [receive_eq_feed, Machine.feed_nil_eq_drain, ← parseChunks_eq_drain, parsed]

/-- The chunks that some bytes complete are the first that come when more bytes follow. -/
theorem Awaits.first_received {pieces : List Bytes} {first : List Chunk} {next : ChunkDecoder}
    {left : Bytes} (awaits : Awaits checks decoder bytes chunks)
    (cut : pieces.flatten = bytes ++ after)
    (received : Session.receive checks decoder [] pieces = (first, .ok (next, left))) :
    chunks <+: first := by
  obtain ⟨last, drained⟩ := awaits
  rw [receive_eq_feed, Machine.feed_nil_eq_drain, cut, Machine.drain_append, drained] at received
  dsimp only at received
  rw [outcome_append] at received
  exact ⟨_, congrArg Prod.fst received⟩

end Session

/-- A new receiver awaits the messages of a stream. -/
theorem awaits_writeStream (checks : OverflowChecks) {chunks : List Chunk}
    (legal : ∀ chunk ∈ chunks, chunk.Legal)
    (few : (chunks.map (·.basicHeader.chunkStreamId)).dedup.length ≤ 100) :
    ∃ bytes, ChunkEncoder.default.writeStream chunks = .ok bytes ∧
      ∃ returned, Session.Awaits checks ChunkDecoder.default bytes returned ∧
        returned.map Chunk.message = chunks.map Chunk.message := by
  have positive : 0 < Limits.initChunkSize := by decide
  obtain ⟨bytes, written⟩ := writeStream_ok positive legal
  obtain ⟨returned, last, parsed, same⟩ := parseChunks_writeStream checks few
    (Represents.initial positive) ⟨fun _ _ => rfl, fun _ => rfl⟩ legal
    (fun chunk member => List.mem_dedup.mpr (List.mem_map_of_mem member)) written
  exact ⟨bytes, written, returned, Session.awaits_of_parseChunks parsed, same⟩

end ScuffleVideo.Rtmp
