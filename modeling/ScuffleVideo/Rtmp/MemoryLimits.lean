import ScuffleVideo.Rtmp.DecoderSteps

/-!
# Memory limits of the chunk decoder

Whatever a client sends, and whatever sizes it negotiates, the two maps of the
decoder stay small.  The bounds survive every error, because each of them is
tested before the insertion that could break it.
-/

namespace ScuffleVideo.Rtmp

open Wire

namespace ChunkDecoder

/-- The bounds on everything a client can make the decoder remember. -/
structure WithinLimits (decoder : ChunkDecoder) : Prop where
  headers : decoder.previousChunkHeaders.keys.length ≤ 100
  partials : decoder.partialChunks.keys.length ≤ 4
  payloads : ∀ key partialChunk, decoder.partialChunks.lookup key = some partialChunk →
    partialChunk.length ≤ 10485760
  smallest : 128 ≤ decoder.maxChunkSize
  largest : decoder.maxChunkSize ≤ 65536

namespace WithinLimits

theorem default : WithinLimits ChunkDecoder.default where
  headers := Nat.zero_le _
  partials := Nat.zero_le _
  payloads := by
    intro key partialChunk found
    rw [ChunkDecoder.default, AList.lookup_empty] at found
    cases found
  smallest := Nat.le_refl 128
  largest := by decide

variable {decoder : ChunkDecoder}

theorem updateMaxChunkSize (limits : WithinLimits decoder) (chunkSize : Nat) :
    WithinLimits (decoder.updateMaxChunkSize chunkSize).2 := by
  unfold ChunkDecoder.updateMaxChunkSize
  split
  · rename_i allowed
    exact ⟨limits.headers, limits.partials, limits.payloads, allowed.1, allowed.2⟩
  · exact limits

theorem insertHeader (limits : WithinLimits decoder) {chunkStreamId : UInt32}
    (messageHeader : ChunkMessageHeader)
    (room : decoder.headerCount chunkStreamId ≤ Limits.maxPreviousChunkHeaders) :
    WithinLimits (decoder.insertHeader chunkStreamId messageHeader) where
  headers := by
    rw [length_keys_insertHeader]
    exact room
  partials := limits.partials
  payloads := limits.payloads
  smallest := limits.smallest
  largest := limits.largest

/-- Opening a slot keeps the limits; the slot is then present, and it holds the
payload that is returned. -/
theorem openPartial (limits : WithinLimits decoder) {key : UInt32 × UInt32}
    {opened : ChunkDecoder} {partialChunk : Bytes}
    (found : decoder.openPartial key = some (opened, partialChunk)) :
    WithinLimits opened ∧ opened.partialChunks.lookup key = some partialChunk := by
  unfold ChunkDecoder.openPartial at found
  split at found
  · rename_i held
    cases found
    exact ⟨limits, held⟩
  · rename_i absent
    split at found
    · cases found
    · rename_i room
      cases found
      refine ⟨⟨limits.headers, ?_, ?_, limits.smallest, limits.largest⟩, AList.lookup_insert _⟩
      · have grown := FiniteMap.length_keys_insert_of_notMem ([] : Bytes)
          (AList.lookup_eq_none.mp absent)
        rw [insertPartial, grown]
        exact Nat.lt_of_not_le room
      · intro other stored lookup
        by_cases same : other = key
        · subst same
          rw [insertPartial, AList.lookup_insert] at lookup
          cases lookup
          exact Nat.zero_le _
        · rw [insertPartial, AList.lookup_insert_ne same] at lookup
          exact limits.payloads other stored lookup

theorem removePartial (limits : WithinLimits decoder) (key : UInt32 × UInt32) :
    WithinLimits (decoder.removePartial key) where
  headers := limits.headers
  partials := Nat.le_trans (FiniteMap.length_keys_erase_le _ _) limits.partials
  payloads := by
    intro other stored lookup
    exact limits.payloads other stored (FiniteMap.lookup_erase_eq_some lookup).2
  smallest := limits.smallest
  largest := limits.largest

theorem insertPartial (limits : WithinLimits decoder) {key : UInt32 × UInt32}
    {partialChunk extended : Bytes}
    (held : decoder.partialChunks.lookup key = some partialChunk)
    (small : extended.length ≤ Limits.maxPartialChunkSize) :
    WithinLimits (decoder.insertPartial key extended) where
  headers := limits.headers
  partials := by
    have member : key ∈ decoder.partialChunks := AList.lookup_isSome.mp (by rw [held]; rfl)
    rw [ChunkDecoder.insertPartial, FiniteMap.length_keys_insert_of_mem _ member]
    exact limits.partials
  payloads := by
    intro other stored lookup
    by_cases same : other = key
    · subst same
      rw [ChunkDecoder.insertPartial, AList.lookup_insert] at lookup
      cases lookup
      exact small
    · rw [ChunkDecoder.insertPartial, AList.lookup_insert_ne same] at lookup
      exact limits.payloads other stored lookup
  smallest := limits.smallest
  largest := limits.largest

theorem storeChunk (limits : WithinLimits decoder) (header : ChunkBasicHeader)
    (messageHeader : ChunkMessageHeader) (payload buffer : Bytes) :
    WithinLimits (decoder.storeChunk header messageHeader payload buffer).decoder := by
  have outcome := storeChunk_outcome decoder header messageHeader payload buffer
  generalize decoder.storeChunk header messageHeader payload buffer = round at outcome ⊢
  cases outcome with
  | tooManyHeaders full => exact limits
  | whole room size => exact limits.insertHeader messageHeader room
  | tooManyPartials room part full => exact limits.insertHeader messageHeader room
  | tooLarge room part found large =>
      exact ((limits.insertHeader messageHeader room).openPartial found).1
  | completes room part found small size =>
      exact ((limits.insertHeader messageHeader room).openPartial found).1.removePartial _
  | grows room part found small short =>
      obtain ⟨opened, held⟩ := (limits.insertHeader messageHeader room).openPartial found
      exact opened.insertPartial held (by rwa [List.length_append])

theorem iteration (limits : WithinLimits decoder) (checks : OverflowChecks) (buffer : Bytes) :
    WithinLimits (decoder.iteration checks buffer).decoder := by
  rcases iteration_cases checks decoder buffer with ⟨result, stopped, _⟩ |
      ⟨frame, position, _, _, _, stored⟩
  · rw [stopped]
    exact limits
  · rw [stored]
    exact limits.storeChunk _ _ _ _

theorem readChunk (limits : WithinLimits decoder) (checks : OverflowChecks) (buffer : Bytes) :
    WithinLimits (decoder.readChunk checks buffer).2.1 :=
  readChunk_preserves (fun _ _ limits => limits.iteration checks _) decoder buffer limits

end WithinLimits

/-! ## Whole runs -/

/-- A call on the decoder, with the buffer or the size it is given. -/
inductive Call where
  | readChunk (buffer : Bytes)
  | updateMaxChunkSize (chunkSize : Nat)

/-- The decoder after a call, whatever the call returned. -/
def call (checks : OverflowChecks) (decoder : ChunkDecoder) : Call → ChunkDecoder
  | .readChunk buffer => (decoder.readChunk checks buffer).2.1
  | .updateMaxChunkSize chunkSize => (decoder.updateMaxChunkSize chunkSize).2

theorem WithinLimits.call {decoder : ChunkDecoder} (limits : WithinLimits decoder)
    (checks : OverflowChecks) (request : Call) :
    WithinLimits (decoder.call checks request) := by
  cases request with
  | readChunk buffer => exact limits.readChunk checks buffer
  | updateMaxChunkSize chunkSize => exact limits.updateMaxChunkSize chunkSize

/-- No sequence of calls, continued after any error, exceeds a limit; trapping
and wrapping arithmetic make no difference. -/
theorem withinLimits_of_calls (checks : OverflowChecks) (calls : List Call) :
    WithinLimits (calls.foldl (call checks) ChunkDecoder.default) := by
  induction calls using List.reverseRecOn with
  | nil => exact WithinLimits.default
  | append_singleton calls request ih =>
      rw [List.foldl_append]
      exact ih.call checks request

end ChunkDecoder

end ScuffleVideo.Rtmp
