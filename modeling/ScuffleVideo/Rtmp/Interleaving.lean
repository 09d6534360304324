import ScuffleVideo.Rtmp.MessageChunks

/-!
# Interleaved chunk streams

Up to four chunk streams may be mixed chunk by chunk.  The decoder returns every
message when its last chunk arrives, provided every chunk but the last of a
message is full: the decoder has no other way to tell how much of the payload a
chunk carries.
-/

namespace ScuffleVideo.Rtmp

open Wire

namespace Message

def header (message : Message) : ChunkMessageHeader :=
  ⟨message.timestamp, message.msgLength, message.msgTypeId, message.msgStreamId, false⟩

/-- A Type0 chunk followed by Type3 chunks, with the extended timestamp in each
of them when there is one, on the stream of the message and with its payload. -/
structure ChunkedAs (message : Message) (chunks : List WireChunk) : Prop where
  length : message.msgLength.toNat = message.payload.length
  small : message.payload.length ≤ 10485760
  headers : chunks.map WireChunk.header = message.header.opening ::
    List.replicate (chunks.length - 1) message.header.continuation
  streams : ∀ chunk ∈ chunks,
    chunk.csid = message.chunkStreamId ∧ chunk.form.Fits message.chunkStreamId
  content : chunks.flatMap WireChunk.payload = message.payload

/-- A stream between two messages takes the next one and delivers it. -/
theorem ChunkedAs.follows {message : Message} {chunks : List WireChunk} {chunkSize : Nat}
    (chunked : message.ChunkedAs chunks)
    (cut : FullyCut chunkSize (chunks.map WireChunk.payload)) {state : StreamState}
    (idle : state.received = []) :
    StreamState.Follows chunkSize state (markLast message chunks)
      ⟨some message.header.stored, []⟩ := by
  have headers := chunked.headers
  cases chunks with
  | nil => cases headers
  | cons first rest =>
      rw [List.map_cons, List.cons.injEq] at headers
      obtain ⟨firstStream, firstFits⟩ := chunked.streams first List.mem_cons_self
      have small : message.header.msgLength.toNat ≤ Limits.maxPartialChunkSize := by
        rw [header, chunked.length]
        exact chunked.small
      have length : message.header.stored.msgLength.toNat = message.payload.length :=
        chunked.length
      refine StreamState.follows_message length firstStream firstFits ?_ (.inl idle) ?_ ?_ cut
      · rw [headers.1]
        exact resolve_opening small _
      · intro chunk member
        obtain ⟨stream, fits⟩ := chunked.streams chunk (List.mem_cons_of_mem _ member)
        have continuation : chunk.header = message.header.continuation := by
          have inside := List.mem_map_of_mem (f := WireChunk.header) member
          rw [headers.2] at inside
          exact List.eq_of_mem_replicate inside
        refine ⟨stream, fits, _, continuation, ?_⟩
        cases extended : message.header.isExtendedTimestamp with
        | true => exact extended.symm
        | false => exact extended.symm
      · rw [idle, List.nil_append]
        exact chunked.content

end Message

theorem follows_messages {chunkSize : Nat} {sent : List (Message × List WireChunk)} :
    ∀ {state : StreamState},
      (∀ pair ∈ sent, pair.1.ChunkedAs pair.2 ∧
        FullyCut chunkSize (pair.2.map WireChunk.payload)) →
      state.received = [] →
      ∃ last, StreamState.Follows chunkSize state
        (sent.flatMap fun pair => markLast pair.1 pair.2) last ∧ last.received = [] := by
  induction sent with
  | nil =>
      intro state _ idle
      exact ⟨state, .done state, idle⟩
  | cons pair sent ih =>
      intro state chunked idle
      obtain ⟨parts, cut⟩ := chunked pair List.mem_cons_self
      obtain ⟨last, follows, quiet⟩ := ih
        (fun other member => chunked other (List.mem_cons_of_mem _ member))
        (rfl : StreamState.received ⟨some pair.1.header.stored, []⟩ = [])
      rw [List.flatMap_cons]
      exact ⟨last, (parts.follows cut idle).append follows, quiet⟩

/-- For any messages on at most four streams, each fully cut, and any order of
all the chunks that keeps the order inside each stream, the decoder returns
every message exactly once, in the order of the last chunks, and holds no part
of a message in the end. -/
theorem interleaved_messages_reassembled (checks : OverflowChecks) {chunkSize : Nat}
    (least : 128 ≤ chunkSize) (most : chunkSize ≤ 65536)
    (csids : List UInt32) (few : csids.length ≤ 4)
    (sent : UInt32 → List (Message × List WireChunk))
    (chunked : ∀ csid ∈ csids, ∀ pair ∈ sent csid, pair.1.chunkStreamId = csid ∧
      pair.1.ChunkedAs pair.2 ∧ FullyCut chunkSize (pair.2.map WireChunk.payload))
    (interleaved : List (WireChunk × Option Message))
    (inside : ∀ entry ∈ interleaved, entry.1.csid ∈ csids)
    (order : ∀ csid ∈ csids, (interleaved.filter fun entry => entry.1.csid = csid) =
      (sent csid).flatMap fun pair => markLast pair.1 pair.2) :
    ∃ returned last, ChunkDecoder.Delivers checks
        (ChunkDecoder.default.updateMaxChunkSize chunkSize).2
        (interleaved.flatMap fun entry => entry.1.bytes) returned last [] ∧
      returned.map Chunk.message = interleaved.filterMap Prod.snd ∧
      last.partialChunks = ∅ := by
  have streams : ∀ csid, ∃ last, StreamState.Follows chunkSize (Assembler.initial csid)
      (interleaved.filter fun entry => entry.1.csid = csid) last ∧ last.received = [] := by
    intro csid
    by_cases member : csid ∈ csids
    · rw [order csid member]
      exact follows_messages (fun pair sending => (chunked csid member pair sending).2) rfl
    · have absent : (interleaved.filter fun entry => entry.1.csid = csid) = [] := by
        refine List.filter_eq_nil_iff.mpr fun entry present => ?_
        rw [decide_eq_true_eq]
        rintro rfl
        exact member (inside entry present)
      rw [absent]
      exact ⟨_, .done _, rfl⟩
  choose final follows idle using streams
  obtain ⟨outputs, run, messages⟩ := Assembler.Run.of_follows
    (Nat.le_trans few (by decide)) few (fun _ _ => rfl) (fun _ _ => rfl)
    (fun entry member => ⟨inside entry member, inside entry member⟩) follows
  obtain ⟨last, represents, delivers⟩ := run.delivers least most checks
  rw [List.flatMap_map] at delivers
  refine ⟨outputs, last, delivers, messages, ?_⟩
  refine FiniteMap.eq_empty_of_lookup fun key => ?_
  rw [represents.partials key.1 key.2]
  exact if_neg fun busy => busy.1 (idle key.1)

/-! ## Two streams -/

def longMessage : Message := ⟨3, 0xFFFFFF, 130, .video, 1, List.replicate 128 7 ++ [8, 9]⟩

def longChunks : List WireChunk :=
  [⟨.one, 3, longMessage.header.opening, List.replicate 128 7⟩,
    ⟨.one, 3, longMessage.header.continuation, [8, 9]⟩]

def shortMessage : Message := ⟨64, 5, 2, .audio, 1, [1, 2]⟩

def shortChunks : List WireChunk := [⟨.two, 64, shortMessage.header.opening, [1, 2]⟩]

theorem longMessage_chunked : longMessage.ChunkedAs longChunks where
  length := by decide +kernel
  small := by decide +kernel
  headers := rfl
  streams := by
    intro chunk member
    rcases List.mem_cons.mp member with rfl | member
    · exact ⟨rfl, by decide⟩
    · obtain rfl := List.mem_singleton.mp member
      exact ⟨rfl, by decide⟩
  content := by decide +kernel

theorem shortMessage_chunked : shortMessage.ChunkedAs shortChunks where
  length := by decide
  small := by decide
  headers := rfl
  streams := by
    intro chunk member
    obtain rfl := List.mem_singleton.mp member
    exact ⟨rfl, by decide⟩
  content := rfl

/-- The short message arrives in the middle of the long one. -/
def mixedChunks : List (WireChunk × Option Message) :=
  [(⟨.one, 3, longMessage.header.opening, List.replicate 128 7⟩, none),
    (⟨.two, 64, shortMessage.header.opening, [1, 2]⟩, some shortMessage),
    (⟨.one, 3, longMessage.header.continuation, [8, 9]⟩, some longMessage)]

theorem mixedChunks_reassembled :
    ∃ returned last, ChunkDecoder.Delivers .on
        (ChunkDecoder.default.updateMaxChunkSize 128).2
        (mixedChunks.flatMap fun entry => entry.1.bytes) returned last [] ∧
      returned.map Chunk.message = [shortMessage, longMessage] ∧ last.partialChunks = ∅ := by
  refine interleaved_messages_reassembled .on (Nat.le_refl 128) (by decide) [3, 64] (by decide)
    (fun csid => if csid = 3 then [(longMessage, longChunks)] else [(shortMessage, shortChunks)])
    ?_ mixedChunks ?_ ?_
  · intro csid member pair sending
    rcases List.mem_cons.mp member with rfl | member
    · obtain rfl := List.mem_singleton.mp sending
      refine ⟨rfl, longMessage_chunked, List.length_replicate, by decide, ?_⟩
      exact (by decide : [(8 : UInt8), 9].length ≤ 128)
    · obtain rfl := List.mem_singleton.mp member
      obtain rfl := List.mem_singleton.mp sending
      exact ⟨rfl, shortMessage_chunked, (by decide : [(1 : UInt8), 2].length ≤ 128)⟩
  · intro entry member
    rcases List.mem_cons.mp member with rfl | member
    · exact List.mem_cons_self
    · rcases List.mem_cons.mp member with rfl | member
      · exact List.mem_cons_of_mem _ List.mem_cons_self
      · obtain rfl := List.mem_singleton.mp member
        exact List.mem_cons_self
  · intro csid member
    rcases List.mem_cons.mp member with rfl | member
    · rfl
    · obtain rfl := List.mem_singleton.mp member
      rfl

/-! ## Chunks that are not full -/

/-- Two bytes in two chunks, each far below the chunk size. -/
def pairMessage : Message := ⟨3, 0, 2, .video, 1, [1, 2]⟩

def pairChunks : List WireChunk :=
  [⟨.one, 3, pairMessage.header.opening, [1]⟩, ⟨.one, 3, pairMessage.header.continuation, [2]⟩]

/-- The decoder takes the header of the second chunk for the second byte. -/
theorem short_chunks_misread :
    pairMessage.ChunkedAs pairChunks ∧ (∀ chunk ∈ pairChunks, chunk.payload.length ≤ 128) ∧
    ∀ returned last left, ChunkDecoder.Delivers .on
      (ChunkDecoder.default.updateMaxChunkSize 128).2 (pairChunks.flatMap WireChunk.bytes)
      returned last left → returned.map Chunk.message ≠ [pairMessage] := by
  have members : ∀ chunk ∈ pairChunks, chunk.csid = 3 ∧ chunk.form = .one ∧
      chunk.payload.length ≤ 128 := by
    intro chunk member
    rcases List.mem_cons.mp member with rfl | member
    · exact ⟨rfl, rfl, by decide⟩
    · obtain rfl := List.mem_singleton.mp member
      exact ⟨rfl, rfl, by decide⟩
  refine ⟨⟨rfl, by decide, rfl, fun chunk member => ?_, rfl⟩,
    fun chunk member => (members chunk member).2.2, ?_⟩
  · obtain ⟨stream, form, _⟩ := members chunk member
    exact ⟨stream, by rw [form]; decide⟩
  · intro returned last left delivers
    have wrong : ((ChunkDecoder.default.updateMaxChunkSize 128).2.readChunk .on
        (pairChunks.flatMap WireChunk.bytes)).1 =
          .ok (some ⟨⟨.type0, 3⟩, ⟨0, 2, .video, 1, false⟩, [1, 0xC3]⟩) := by decide +kernel
    cases delivers with
    | finished call =>
        rw [call] at wrong
        cases wrong
    | message call calls =>
        rw [call] at wrong
        cases wrong
        intro same
        exact absurd (List.cons.inj same).1 (by decide)

end ScuffleVideo.Rtmp
