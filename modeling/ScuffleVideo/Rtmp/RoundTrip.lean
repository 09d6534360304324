import Mathlib.Data.List.Dedup
import ScuffleVideo.Rtmp.Encoder
import ScuffleVideo.Rtmp.MessageChunks

/-!
# The encoder and the decoder

The encoder writes every message as fully cut chunks, so the decoder returns
what was encoded, message by message.
-/

namespace ScuffleVideo.Rtmp

open Wire

/-- The form in which the encoder writes a chunk stream id. -/
def BasicForm.ofCsid (csid : UInt32) : BasicForm :=
  if 64 + 255 ≤ csid then .three else if 64 ≤ csid then .two else .one

theorem BasicForm.ofCsid_fits {csid : UInt32} (least : 2 ≤ csid.toNat)
    (most : csid.toNat ≤ 65599) : (BasicForm.ofCsid csid).Fits csid := by
  unfold BasicForm.ofCsid
  split
  · rename_i large
    have bound : 319 ≤ csid.toNat := UInt32.le_iff_toNat_le.mp large
    exact ⟨by omega, by omega⟩
  · rename_i large
    have below : csid.toNat < 319 := UInt32.lt_iff_toNat_lt.mp (UInt32.not_le.mp large)
    split
    · rename_i medium
      have bound : 64 ≤ csid.toNat := UInt32.le_iff_toNat_le.mp medium
      exact ⟨bound, by omega⟩
    · rename_i medium
      exact ⟨least, UInt32.lt_iff_toNat_lt.mp (UInt32.not_le.mp medium)⟩

theorem writeBasicHeader_eq (format : ChunkType) (csid : UInt32) :
    ChunkEncoder.writeBasicHeader format csid = (BasicForm.ofCsid csid).bytes format csid := by
  unfold ChunkEncoder.writeBasicHeader BasicForm.ofCsid
  dsimp only
  split
  · rfl
  · split <;> rfl

/-! ## Headers -/

theorem writeU24_eq {number : UInt32} (small : number.toNat < 2 ^ 24) :
    (writeU24 number : Except EncodeFault Bytes) = .ok (toBytesBE 3 number.toNat) :=
  if_pos small

theorem marker_ofValue (timestamp : UInt32) :
    (if 0xFFFFFF ≤ timestamp then 0xFFFFFF else timestamp) =
      (TimeField.ofValue timestamp).marker := by
  unfold TimeField.ofValue
  by_cases below : timestamp.toNat < 0xFFFFFF
  · have short : ¬ 0xFFFFFF ≤ timestamp := fun above =>
      Nat.not_le_of_lt below (UInt32.le_iff_toNat_le.mp above)
    rw [dif_pos below, if_neg short]
    rfl
  · rw [dif_neg below, if_pos (UInt32.le_iff_toNat_le.mpr (Nat.le_of_not_lt below))]
    rfl

theorem extension_ofValue (header : ChunkMessageHeader) :
    (if header.isExtendedTimestamp then
      ChunkEncoder.writeExtenedTimestamp header.timestamp else []) =
      (TimeField.ofValue header.timestamp).extension := by
  rw [← TimeField.isExtended_ofValue]
  unfold TimeField.ofValue
  split <;> rfl

theorem writeMessageHeader_eq {header : ChunkMessageHeader}
    (small : header.msgLength.toNat ≤ Limits.maxPartialChunkSize) :
    ChunkEncoder.writeMessageHeader header = .ok header.opening.bytes := by
  have marker : (TimeField.ofValue header.timestamp).marker.toNat < 2 ^ 24 := by
    unfold TimeField.ofValue
    split
    · rename_i below
      exact Nat.lt_trans below (by decide)
    · exact (by decide : (0xFFFFFF : UInt32).toNat < 2 ^ 24)
  rw [ChunkEncoder.writeMessageHeader]
  dsimp only
  rw [marker_ofValue, extension_ofValue, writeU24_eq marker,
    writeU24_eq (Nat.lt_of_le_of_lt small (by decide))]
  simp only [ChunkMessageHeader.opening, WireHeader.bytes, TimeField.field, List.append_assoc]
  rfl

theorem writeContinuation_eq (chunk : Chunk) :
    ChunkEncoder.writeContinuation chunk =
      (BasicForm.ofCsid chunk.basicHeader.chunkStreamId).bytes .type3
        chunk.basicHeader.chunkStreamId ++ chunk.messageHeader.continuation.bytes := by
  rw [ChunkEncoder.writeContinuation, writeBasicHeader_eq, ChunkMessageHeader.continuation]
  cases chunk.messageHeader.isExtendedTimestamp <;> rfl

/-! ## The splitting loop -/

theorem continues_stored {chunk : Chunk} {payload : Bytes}
    (fits : (BasicForm.ofCsid chunk.basicHeader.chunkStreamId).Fits
      chunk.basicHeader.chunkStreamId) :
    WireChunk.Continues ⟨.ofCsid chunk.basicHeader.chunkStreamId,
        chunk.basicHeader.chunkStreamId, chunk.messageHeader.continuation, payload⟩
      chunk.basicHeader.chunkStreamId chunk.messageHeader.stored := by
  refine ⟨rfl, fits, _, rfl, ?_⟩
  cases extended : chunk.messageHeader.isExtendedTimestamp with
  | true => exact extended.symm
  | false => exact extended.symm

/-- One round takes up to the chunk size off the payload. -/
theorem writePayload_succ (chunkSize : Nat) (chunk : Chunk) (fuel : Nat) {payload : Bytes}
    (nonempty : payload ≠ []) :
    ChunkEncoder.writePayload ⟨chunkSize⟩ chunk (fuel + 1) payload = do
      let written ← ChunkEncoder.writePayload ⟨chunkSize⟩ chunk fuel (payload.drop chunkSize)
      return payload.take chunkSize ++
        (if (payload.drop chunkSize).isEmpty then [] else
          ChunkEncoder.writeContinuation chunk) ++ written := by
  rw [ChunkEncoder.writePayload]
  · dsimp only
    split
    · rfl
    · rename_i large
      have short := Nat.le_of_not_lt large
      rw [List.take_of_length_le (Nat.le_refl _), List.take_of_length_le short,
        List.drop_of_length_le (Nat.le_refl _), List.drop_of_length_le short]
  · exact nonempty

/-- The loop ends, and has then written the payload of the chunk at hand
followed by fully cut continuations. -/
theorem writePayload_chunks {chunkSize : Nat} (positive : 0 < chunkSize) {chunk : Chunk}
    (fits : (BasicForm.ofCsid chunk.basicHeader.chunkStreamId).Fits
      chunk.basicHeader.chunkStreamId) (fuel : Nat) :
    ∀ payload : Bytes, payload.length ≤ fuel → ∃ (piece : Bytes) (rest : List WireChunk),
      ChunkEncoder.writePayload ⟨chunkSize⟩ chunk fuel payload =
        .ok (piece ++ rest.flatMap WireChunk.bytes) ∧
      piece ++ rest.flatMap WireChunk.payload = payload ∧
      (payload ≠ [] → piece ≠ []) ∧
      (∀ continuation ∈ rest, continuation.Continues chunk.basicHeader.chunkStreamId
        chunk.messageHeader.stored) ∧
      FullyCut chunkSize (piece :: rest.map WireChunk.payload) := by
  have nothing (fuel : Nat) :
      ChunkEncoder.writePayload ⟨chunkSize⟩ chunk fuel [] = .ok [] := by cases fuel <;> rfl
  induction fuel with
  | zero =>
      intro payload enough
      obtain rfl := List.eq_nil_of_length_eq_zero (Nat.le_zero.mp enough)
      exact ⟨[], [], rfl, rfl, fun nonempty => nonempty, by simp, Nat.zero_le _⟩
  | succ fuel ih =>
      intro payload enough
      by_cases nonempty : payload = []
      · subst nonempty
        exact ⟨[], [], rfl, rfl, fun nonempty => nonempty, by simp, Nat.zero_le _⟩
      rw [writePayload_succ _ _ _ nonempty]
      have some_taken : payload.take chunkSize ≠ [] := by
        refine List.ne_nil_of_length_pos ?_
        have payload_positive := List.length_pos_of_ne_nil nonempty
        rw [List.length_take]
        omega
      cases left : payload.drop chunkSize with
      | nil =>
          have all : payload.length ≤ chunkSize := List.drop_eq_nil_iff.mp left
          refine ⟨payload.take chunkSize, [], ?_, ?_, fun _ => some_taken, by simp, ?_⟩
          · rw [nothing]
            simp [bind, Except.bind, pure, Except.pure]
          · rw [List.flatMap_nil, List.append_nil, List.take_of_length_le all]
          · change (payload.take chunkSize).length ≤ chunkSize
            rw [List.length_take]
            exact Nat.min_le_left _ _
      | cons byte bytes =>
          have longer : chunkSize < payload.length := by
            refine Nat.lt_of_not_le fun short => ?_
            rw [List.drop_of_length_le short] at left
            cases left
          obtain ⟨piece, rest, written, content, started, continues, cut⟩ := ih (byte :: bytes) (by
            rw [← left, List.length_drop]
            omega)
          refine ⟨payload.take chunkSize,
            ⟨.ofCsid chunk.basicHeader.chunkStreamId, chunk.basicHeader.chunkStreamId,
              chunk.messageHeader.continuation, piece⟩ :: rest, ?_, ?_, fun _ => some_taken, ?_, ?_⟩
          · rw [written, writeContinuation_eq]
            simp [bind, Except.bind, pure, Except.pure, WireChunk.bytes,
              ChunkMessageHeader.continuation, WireHeader.format]
          · rw [List.flatMap_cons, content, ← left, List.take_append_drop]
          · intro continuation member
            rcases List.mem_cons.mp member with rfl | later
            · exact continues_stored fits
            · exact continues continuation later
          · refine ⟨?_, started (List.cons_ne_nil _ _), cut⟩
            rw [List.length_take]
            omega

/-- A message is written as the chunks of a full cut. -/
theorem writeChunk_chunks {chunkSize : Nat} (positive : 0 < chunkSize) {chunk : Chunk}
    (fits : (BasicForm.ofCsid chunk.basicHeader.chunkStreamId).Fits
      chunk.basicHeader.chunkStreamId)
    (small : chunk.messageHeader.msgLength.toNat ≤ Limits.maxPartialChunkSize) :
    ∃ (first : WireChunk) (rest : List WireChunk),
      ChunkEncoder.writeChunk ⟨chunkSize⟩ chunk =
        .ok ((first :: rest).flatMap WireChunk.bytes) ∧
      first.csid = chunk.basicHeader.chunkStreamId ∧
      first.form.Fits chunk.basicHeader.chunkStreamId ∧
      first.header = chunk.messageHeader.opening ∧
      (first :: rest).flatMap WireChunk.payload = chunk.payload ∧
      (∀ continuation ∈ rest, continuation.Continues chunk.basicHeader.chunkStreamId
        chunk.messageHeader.stored) ∧
      FullyCut chunkSize ((first :: rest).map WireChunk.payload) := by
  obtain ⟨piece, rest, written, content, _, continues, cut⟩ :=
    writePayload_chunks positive fits chunk.payload.length chunk.payload (Nat.le_refl _)
  refine ⟨⟨.ofCsid chunk.basicHeader.chunkStreamId, chunk.basicHeader.chunkStreamId,
    chunk.messageHeader.opening, piece⟩, rest, ?_, rfl, fits, rfl, content, continues, cut⟩
  rw [ChunkEncoder.writeChunk, writeMessageHeader_eq small, written, writeBasicHeader_eq]
  simp [bind, Except.bind, pure, Except.pure, WireChunk.bytes, ChunkMessageHeader.opening,
    WireHeader.format]

/-! ## Sequences of messages -/

/-- A message built by `Chunk.new` within the limits of the wire format. -/
def Chunk.Sendable (chunk : Chunk) : Prop :=
  ∃ csid timestamp msgTypeId msgStreamId payload,
    chunk = Chunk.new csid timestamp msgTypeId msgStreamId payload ∧
    2 ≤ csid.toNat ∧ csid.toNat ≤ 65599 ∧ payload.length ≤ 10485760

namespace Chunk.Sendable

variable {chunk : Chunk}

theorem fits (sendable : chunk.Sendable) :
    (BasicForm.ofCsid chunk.basicHeader.chunkStreamId).Fits
      chunk.basicHeader.chunkStreamId := by
  obtain ⟨csid, timestamp, msgTypeId, msgStreamId, payload, rfl, least, most, _⟩ := sendable
  exact BasicForm.ofCsid_fits least most

theorem length (sendable : chunk.Sendable) :
    chunk.messageHeader.msgLength.toNat = chunk.payload.length := by
  obtain ⟨csid, timestamp, msgTypeId, msgStreamId, payload, rfl, _, _, small⟩ := sendable
  exact UInt32.toNat_ofNat_of_lt' (Nat.lt_of_le_of_lt small (by decide))

theorem small (sendable : chunk.Sendable) :
    chunk.messageHeader.msgLength.toNat ≤ Limits.maxPartialChunkSize := by
  rw [sendable.length]
  obtain ⟨csid, timestamp, msgTypeId, msgStreamId, payload, rfl, _, _, small⟩ := sendable
  exact small

end Chunk.Sendable

/-- Between messages no stream holds a part of one. -/
structure Quiet (known : List UInt32) (streams : Assembler) : Prop where
  silent : ∀ csid, csid ∉ known → (streams csid).header = none
  idle : ∀ csid, (streams csid).received = []

/-- What the encoder writes for one message takes the streams from one quiet
state to another and delivers the message. -/
theorem run_writeChunk {chunkSize : Nat} (positive : 0 < chunkSize) {known : List UInt32}
    (few : known.length ≤ Limits.maxPreviousChunkHeaders) {chunk : Chunk}
    (sendable : chunk.Sendable) (isKnown : chunk.basicHeader.chunkStreamId ∈ known)
    {streams : Assembler} (quiet : Quiet known streams) :
    ∃ wire last outputs, ChunkEncoder.writeChunk ⟨chunkSize⟩ chunk =
        .ok (wire.flatMap WireChunk.bytes) ∧
      Assembler.Run chunkSize streams wire last outputs ∧ Quiet known last ∧
      outputs.map Chunk.message = [chunk.message] := by
  obtain ⟨first, rest, written, stream, fits, opening, content, continues, cut⟩ :=
    writeChunk_chunks positive sendable.fits sendable.small
  have follows : StreamState.Follows chunkSize (streams chunk.basicHeader.chunkStreamId)
      (markLast chunk.message (first :: rest)) ⟨some chunk.messageHeader.stored, []⟩ := by
    have length : chunk.messageHeader.stored.msgLength.toNat = chunk.payload.length :=
      sendable.length
    refine StreamState.follows_message length stream fits ?_ (.inl (quiet.idle _)) continues ?_ cut
    · rw [opening]
      exact resolve_opening sendable.small _
    · rw [quiet.idle, List.nil_append, content]
  have own : ∀ wire ∈ first :: rest, wire.csid = chunk.basicHeader.chunkStreamId := by
    intro wire member
    rcases List.mem_cons.mp member with rfl | later
    · exact stream
    · exact (continues wire later).1
  obtain ⟨outputs, run, messages⟩ := Assembler.Run.of_stream few quiet.silent quiet.idle isKnown
    (markLast_csid own) follows
  rw [map_fst_markLast] at run
  rw [filterMap_snd_markLast _ (List.cons_ne_nil _ _)] at messages
  refine ⟨first :: rest, _, outputs, written, run, ⟨fun csid unknown => ?_, fun csid => ?_⟩,
    messages⟩
  · rw [Function.update_of_ne (by rintro rfl; exact unknown isKnown)]
    exact quiet.silent csid unknown
  · by_cases same : csid = chunk.basicHeader.chunkStreamId
    · rw [same, Function.update_self]
    · rw [Function.update_of_ne same]
      exact quiet.idle csid

theorem run_writeChunks {chunkSize : Nat} (positive : 0 < chunkSize) {known : List UInt32}
    (few : known.length ≤ Limits.maxPreviousChunkHeaders) {chunks : List Chunk} :
    ∀ {streams : Assembler}, (∀ chunk ∈ chunks, chunk.Sendable) →
      (∀ chunk ∈ chunks, chunk.basicHeader.chunkStreamId ∈ known) → Quiet known streams →
      ∃ wire last outputs, ChunkEncoder.writeChunks ⟨chunkSize⟩ chunks =
          .ok (wire.flatMap WireChunk.bytes) ∧
        Assembler.Run chunkSize streams wire last outputs ∧
        outputs.map Chunk.message = chunks.map Chunk.message := by
  induction chunks with
  | nil =>
      intro streams _ _ _
      exact ⟨[], streams, [], rfl, .done _, rfl⟩
  | cons chunk chunks ih =>
      intro streams sendable inside quiet
      obtain ⟨wire, middle, outputs, written, run, quietAfter, messages⟩ :=
        run_writeChunk positive few (sendable chunk List.mem_cons_self)
          (inside chunk List.mem_cons_self) quiet
      obtain ⟨more, last, further, writtenMore, runMore, messagesMore⟩ := ih
        (fun chunk member => sendable chunk (List.mem_cons_of_mem _ member))
        (fun chunk member => inside chunk (List.mem_cons_of_mem _ member)) quietAfter
      refine ⟨wire ++ more, last, outputs ++ further, ?_, run.append runMore, ?_⟩
      · rw [ChunkEncoder.writeChunks, written, writtenMore, List.flatMap_append]
        rfl
      · rw [List.map_append, messages, messagesMore]
        rfl

/-- Whatever messages are encoded with a chunk size that the decoder accepts,
successive calls on a fresh decoder with that chunk size return them in order,
and then nothing, with the buffer empty. -/
theorem readChunk_writeChunks (checks : OverflowChecks) {chunkSize : Nat}
    (least : 128 ≤ chunkSize) (most : chunkSize ≤ 65536) {chunks : List Chunk}
    (sendable : ∀ chunk ∈ chunks, chunk.Sendable)
    (few : (chunks.map (·.basicHeader.chunkStreamId)).dedup.length ≤ 100) :
    ∃ bytes, ChunkEncoder.writeChunks (ChunkEncoder.default.setChunkSize chunkSize) chunks =
        .ok bytes ∧
      ∃ returned last, ChunkDecoder.Delivers checks
          (ChunkDecoder.default.updateMaxChunkSize chunkSize).2 bytes returned last [] ∧
        returned.map Chunk.message = chunks.map Chunk.message := by
  have positive : 0 < chunkSize := by omega
  obtain ⟨wire, final, outputs, written, run, messages⟩ := run_writeChunks positive few sendable
    (fun chunk member => List.mem_dedup.mpr (List.mem_map_of_mem member))
    (⟨fun _ _ => rfl, fun _ => rfl⟩ : Quiet _ Assembler.initial)
  obtain ⟨last, _, delivers⟩ := run.delivers least most checks
  exact ⟨_, written, outputs, last, delivers, messages⟩

/-- Two messages of different streams, one of them with an extended timestamp
and several chunks. -/
theorem readChunk_writeChunks_pair :
    ∃ bytes, ChunkEncoder.writeChunks (ChunkEncoder.default.setChunkSize 128)
        [Chunk.new 3 0xFFFFFF .video 1 (List.replicate 300 7), Chunk.new 319 0 .audio 1 [1, 2]] =
          .ok bytes ∧
      ∃ returned last, ChunkDecoder.Delivers .on
          (ChunkDecoder.default.updateMaxChunkSize 128).2 bytes returned last [] ∧
        returned.map Chunk.message =
          [Chunk.new 3 0xFFFFFF .video 1 (List.replicate 300 7),
            Chunk.new 319 0 .audio 1 [1, 2]].map Chunk.message := by
  refine readChunk_writeChunks .on (by decide) (by decide) ?_ (by decide)
  intro chunk member
  rcases List.mem_cons.mp member with rfl | member
  · exact ⟨3, 0xFFFFFF, .video, 1, List.replicate 300 7, rfl, by decide, by decide, by
      rw [List.length_replicate]; decide⟩
  · obtain rfl := List.mem_singleton.mp member
    exact ⟨319, 0, .audio, 1, [1, 2], rfl, by decide, by decide, by decide⟩

end ScuffleVideo.Rtmp
