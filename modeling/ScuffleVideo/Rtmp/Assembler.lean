import ScuffleVideo.Rtmp.WireFormat

/-!
# Reassembly of chunk streams

What the decoder is for, without its maps: every chunk stream remembers its
latest header and the part of a message received so far, and a chunk touches
only its own stream.  Senders that finish a message before they start the next
one on the same stream are followed step by step, as long as at most one
hundred streams have a header and at most four are in the middle of a message.
The decoder is shown to refine this model.
-/

namespace ScuffleVideo.Rtmp

open Wire

/-! ## One chunk stream -/

/-- The received part is empty between messages. -/
structure StreamState where
  header : Option ChunkMessageHeader
  received : Bytes

namespace StreamState

def initial : StreamState := ⟨none, []⟩

/-- What is held for the message stream `msid`. -/
def partialOf (state : StreamState) (msid : UInt32) : Option Bytes :=
  if state.received ≠ [] ∧ state.header.map (·.msgStreamId) = some msid then
    some state.received
  else none

/-- Only an announced message is ever in progress, and never beyond the length
that was announced. -/
structure Sound (state : StreamState) : Prop where
  announced : state.received ≠ [] → state.header ≠ none
  length : ∀ header, state.header = some header →
    state.received.length ≤ header.msgLength.toNat ∧
      header.msgLength.toNat ≤ Limits.maxPartialChunkSize

/-- A chunk carries what is left of its message, up to the chunk size, and only
a Type3 chunk continues a message. -/
structure Admits (chunkSize : Nat) (state : StreamState) (wire : WireHeader) (payload : Bytes)
    (header : ChunkMessageHeader) : Prop where
  resolved : wire.resolve state.header = some header
  turn : state.received = [] ∨ wire.format = .type3
  size : payload.length = min (header.msgLength.toNat - state.received.length) chunkSize

/-- The stream after a chunk, and the message the chunk completes. -/
def absorb (state : StreamState) (header : ChunkMessageHeader) (payload : Bytes) :
    StreamState × Option (ChunkMessageHeader × Bytes) :=
  if (state.received ++ payload).length = header.msgLength.toNat then
    (⟨some header, []⟩, some (header, state.received ++ payload))
  else
    (⟨some header, state.received ++ payload⟩, none)

/-- What a chunk delivers on its stream. -/
def delivered (state : StreamState) (chunk : WireChunk) (header : ChunkMessageHeader) :
    Option Chunk :=
  (state.absorb header chunk.payload).2.map fun message =>
    ⟨chunk.basicHeader, message.1, message.2⟩

end StreamState

theorem WireHeader.resolve_type3 {extension : Option UInt32}
    {previous : Option ChunkMessageHeader} {header : ChunkMessageHeader}
    (resolved : (WireHeader.type3 extension).resolve previous = some header) :
    previous = some header := by
  cases WireHeader.resolve_cases resolved with
  | type3 previous repeated => rfl

/-- Lengths beyond the limit are refused, and repeated lengths were accepted
before. -/
theorem WireHeader.resolve_length {wire : WireHeader} {previous : Option ChunkMessageHeader}
    {header : ChunkMessageHeader} (resolved : wire.resolve previous = some header)
    (before : ∀ earlier, previous = some earlier →
      earlier.msgLength.toNat ≤ Limits.maxPartialChunkSize) :
    header.msgLength.toNat ≤ Limits.maxPartialChunkSize := by
  cases WireHeader.resolve_cases resolved with
  | type0 time msgTypeId msgStreamId small => exact small
  | type1 previous delta msgTypeId small fits => exact small
  | type2 previous delta fits => exact before previous rfl
  | type3 previous repeated => exact before header rfl

namespace StreamState

variable {chunkSize : Nat} {state : StreamState} {wire : WireHeader} {payload : Bytes}
  {header : ChunkMessageHeader}

theorem Sound.initial : Sound initial where
  announced := fun started => absurd rfl started
  length := by
    intro header found
    cases found

/-- A chunk that continues a message repeats its header. -/
theorem Admits.continues (admitted : Admits chunkSize state wire payload header)
    (started : state.received ≠ []) : state.header = some header := by
  have type3 := admitted.turn.resolve_left started
  have resolved := admitted.resolved
  cases wire with
  | type3 extension => exact WireHeader.resolve_type3 resolved
  | type0 time msgLength msgTypeId msgStreamId => cases type3
  | type1 delta msgLength msgTypeId => cases type3
  | type2 delta => cases type3

theorem Admits.received_le (admitted : Admits chunkSize state wire payload header)
    (sound : Sound state) : state.received.length ≤ header.msgLength.toNat := by
  by_cases started : state.received = []
  · rw [started]
    exact Nat.zero_le _
  · exact (sound.length header (admitted.continues started)).1

theorem Admits.length_le (admitted : Admits chunkSize state wire payload header)
    (sound : Sound state) : header.msgLength.toNat ≤ Limits.maxPartialChunkSize :=
  WireHeader.resolve_length admitted.resolved fun earlier found => (sound.length earlier found).2

theorem Sound.absorb (sound : Sound state)
    (admitted : Admits chunkSize state wire payload header) :
    Sound (state.absorb header payload).1 := by
  have small := admitted.length_le sound
  have held := admitted.received_le sound
  have size := admitted.size
  unfold StreamState.absorb
  split
  · refine ⟨fun started => absurd rfl started, fun found same => ?_⟩
    cases same
    exact ⟨Nat.zero_le _, small⟩
  · refine ⟨fun _ missing => (nomatch missing), fun found same => ?_⟩
    cases same
    refine ⟨?_, small⟩
    rw [List.length_append]
    omega

end StreamState

/-! ## All chunk streams -/

abbrev Assembler := UInt32 → StreamState

namespace Assembler

def initial : Assembler := fun _ => StreamState.initial

/-- Few enough streams have a header, and few enough are in the middle of a
message. -/
structure Room (streams : Assembler) : Prop where
  headers : ∃ known : List UInt32, known.length ≤ Limits.maxPreviousChunkHeaders ∧
    ∀ csid, (streams csid).header ≠ none → csid ∈ known
  partials : ∃ busy : List UInt32, busy.length ≤ Limits.maxPartialChunkCount ∧
    ∀ csid, (streams csid).received ≠ [] → csid ∈ busy

/-- The streams after a chunk with the given resolved header. -/
def absorb (streams : Assembler) (chunk : WireChunk) (header : ChunkMessageHeader) : Assembler :=
  Function.update streams chunk.csid ((streams chunk.csid).absorb header chunk.payload).1

/-- A whole sequence of chunks, each admitted by its stream. -/
inductive Run (chunkSize : Nat) : Assembler → List WireChunk → Assembler → List Chunk → Prop
  | done (streams : Assembler) : Run chunkSize streams [] streams []
  | step {streams last : Assembler} {chunk : WireChunk} {chunks : List WireChunk}
      {header : ChunkMessageHeader} {outputs : List Chunk}
      (fits : chunk.form.Fits chunk.csid)
      (admitted : (streams chunk.csid).Admits chunkSize chunk.header chunk.payload header)
      (room : Room (streams.absorb chunk header))
      (rest : Run chunkSize (streams.absorb chunk header) chunks last outputs) :
      Run chunkSize streams (chunk :: chunks) last
        (((streams chunk.csid).delivered chunk header).toList ++ outputs)

theorem Run.append {chunkSize : Nat} {first middle last : Assembler}
    {chunks more : List WireChunk} {outputs further : List Chunk}
    (run : Run chunkSize first chunks middle outputs)
    (next : Run chunkSize middle more last further) :
    Run chunkSize first (chunks ++ more) last (outputs ++ further) := by
  induction run with
  | done streams => exact next
  | step fits admitted room rest ih =>
      rw [List.append_assoc]
      exact .step fits admitted room (ih next)

end Assembler

/-! ## Refinement -/

/-- The maps of the decoder hold exactly what the streams remember. -/
structure Represents (chunkSize : Nat) (decoder : ChunkDecoder) (streams : Assembler) : Prop where
  positive : 0 < chunkSize
  size : decoder.maxChunkSize = chunkSize
  headers : ∀ csid, decoder.previousChunkHeaders.lookup csid = (streams csid).header
  partials : ∀ csid msid,
    decoder.partialChunks.lookup (csid, msid) = (streams csid).partialOf msid
  sound : ∀ csid, (streams csid).Sound

namespace Represents

variable {chunkSize : Nat} {decoder : ChunkDecoder} {streams : Assembler}

theorem initial (positive : 0 < chunkSize) :
    Represents chunkSize ⟨∅, ∅, chunkSize⟩ Assembler.initial where
  positive := positive
  size := rfl
  headers := fun _ => AList.lookup_empty _
  partials := fun _ _ => AList.lookup_empty _
  sound := fun _ => StreamState.Sound.initial

theorem headers_le (represents : Represents chunkSize decoder streams) (room : streams.Room) :
    decoder.previousChunkHeaders.keys.length ≤ Limits.maxPreviousChunkHeaders := by
  obtain ⟨known, few, all⟩ := room.headers
  refine Nat.le_trans (FiniteMap.length_keys_le _ id known ?_ fun _ _ _ _ same => same) few
  intro csid member
  refine all csid fun missing => ?_
  rw [← represents.headers csid, AList.lookup_eq_none] at missing
  exact missing member

theorem partials_le (represents : Represents chunkSize decoder streams) (room : streams.Room) :
    decoder.partialChunks.keys.length ≤ Limits.maxPartialChunkCount := by
  obtain ⟨busy, few, all⟩ := room.partials
  have holds : ∀ key ∈ decoder.partialChunks, (streams key.1).received ≠ [] ∧
      (streams key.1).header.map (·.msgStreamId) = some key.2 := by
    intro key member
    by_contra idle
    have missing := represents.partials key.1 key.2
    rw [StreamState.partialOf, if_neg idle, AList.lookup_eq_none] at missing
    exact missing member
  refine Nat.le_trans (FiniteMap.length_keys_le _ Prod.fst busy ?_ ?_) few
  · intro key member
    exact all key.1 (holds key member).1
  · intro key member other otherMember same
    have first := (holds key member).2
    have second := (holds other otherMember).2
    rw [same, second] at first
    exact Prod.ext same (Option.some.inj first).symm

/-- Only the stream of the chunk changes. -/
theorem update (represents : Represents chunkSize decoder streams) {csid : UInt32}
    {state : StreamState} {next : ChunkDecoder} {header : ChunkMessageHeader}
    (size : next.maxChunkSize = decoder.maxChunkSize)
    (headers : next.previousChunkHeaders = decoder.previousChunkHeaders.insert csid header)
    (announced : state.header = some header)
    (own : ∀ msid, next.partialChunks.lookup (csid, msid) = state.partialOf msid)
    (others : ∀ key : UInt32 × UInt32, key.1 ≠ csid →
      next.partialChunks.lookup key = decoder.partialChunks.lookup key)
    (sound : state.Sound) :
    Represents chunkSize next (Function.update streams csid state) where
  positive := represents.positive
  size := size.trans represents.size
  headers := by
    intro other
    rw [headers]
    by_cases same : other = csid
    · subst same
      rw [AList.lookup_insert, Function.update_self, announced]
    · rw [AList.lookup_insert_ne same, Function.update_of_ne same]
      exact represents.headers other
  partials := by
    intro other msid
    by_cases same : other = csid
    · subst same
      rw [Function.update_self]
      exact own msid
    · rw [others _ same, Function.update_of_ne same]
      exact represents.partials other msid
  sound := by
    intro other
    by_cases same : other = csid
    · subst same
      rw [Function.update_self]
      exact sound
    · rw [Function.update_of_ne same]
      exact represents.sound other

/-- The bytes held under the key of an admitted chunk are those its stream has
received. -/
theorem receivedLength (represents : Represents chunkSize decoder streams) {chunk : WireChunk}
    {header : ChunkMessageHeader}
    (admitted : (streams chunk.csid).Admits chunkSize chunk.header chunk.payload header) :
    decoder.receivedLength (chunk.csid, header.msgStreamId) =
      (streams chunk.csid).received.length := by
  rw [ChunkDecoder.receivedLength, represents.partials, StreamState.partialOf]
  by_cases started : (streams chunk.csid).received = []
  · rw [if_neg fun busy => busy.1 started, started]
    rfl
  · rw [if_pos ⟨started, by rw [admitted.continues started]; rfl⟩]
    rfl

/-- An admitted chunk is read as one frame and stored. -/
theorem iteration_eq (represents : Represents chunkSize decoder streams) {chunk : WireChunk}
    {header : ChunkMessageHeader} (fits : chunk.form.Fits chunk.csid)
    (admitted : (streams chunk.csid).Admits chunkSize chunk.header chunk.payload header)
    (checks : OverflowChecks) (rest : Bytes) :
    decoder.iteration checks (chunk.bytes ++ rest) =
      decoder.storeChunk chunk.basicHeader header chunk.payload rest := by
  refine ChunkDecoder.iteration_wireChunk fits ?_ (represents.receivedLength admitted)
    (admitted.received_le (represents.sound _)) ?_ rest
  · rw [represents.headers]
    exact admitted.resolved
  · rw [represents.size]
    exact admitted.size

theorem headerCount_le {csid : UInt32} {header : ChunkMessageHeader} {next : ChunkDecoder}
    {after : Assembler} (stored : Represents chunkSize next after) (room : after.Room)
    (headers : next.previousChunkHeaders = decoder.previousChunkHeaders.insert csid header) :
    decoder.headerCount csid ≤ Limits.maxPreviousChunkHeaders := by
  rw [← ChunkDecoder.length_keys_insertHeader decoder csid header]
  have count := stored.headers_le room
  rwa [headers] at count

/-- What has come of a message is stored under its key. -/
theorem lookup_of_started (represents : Represents chunkSize decoder streams) {chunk : WireChunk}
    {header : ChunkMessageHeader}
    (admitted : (streams chunk.csid).Admits chunkSize chunk.header chunk.payload header)
    (started : (streams chunk.csid).received ≠ []) :
    decoder.partialChunks.lookup (chunk.csid, header.msgStreamId) =
      some (streams chunk.csid).received := by
  rw [represents.partials]
  exact if_pos ⟨started, by rw [admitted.continues started]; rfl⟩

/-- The chunk that completes a message hands it out and frees its slot. -/
theorem step_completes (represents : Represents chunkSize decoder streams) {chunk : WireChunk}
    {header : ChunkMessageHeader} (fits : chunk.form.Fits chunk.csid)
    (admitted : (streams chunk.csid).Admits chunkSize chunk.header chunk.payload header)
    (whole : ((streams chunk.csid).received ++ chunk.payload).length = header.msgLength.toNat)
    (room : Assembler.Room (Function.update streams chunk.csid ⟨some header, []⟩))
    (checks : OverflowChecks) (rest : Bytes) :
    ∃ next, Represents chunkSize next (Function.update streams chunk.csid ⟨some header, []⟩) ∧
      decoder.iteration checks (chunk.bytes ++ rest) =
        .returns (.ok (some ⟨chunk.basicHeader, header,
          (streams chunk.csid).received ++ chunk.payload⟩)) next rest := by
  have small := admitted.length_le (represents.sound _)
  have sound : StreamState.Sound ⟨some header, []⟩ :=
    ⟨fun started => absurd rfl started, fun found same => by
      cases same
      exact ⟨Nat.zero_le _, small⟩⟩
  have idle : ∀ msid, StreamState.partialOf ⟨some header, []⟩ msid = none :=
    fun msid => if_neg fun busy => busy.1 rfl
  rw [represents.iteration_eq fits admitted checks rest]
  by_cases started : (streams chunk.csid).received = []
  · have stored : Represents chunkSize (decoder.insertHeader chunk.csid header)
        (Function.update streams chunk.csid ⟨some header, []⟩) := by
      refine represents.update rfl rfl rfl (fun msid => ?_) (fun _ _ => rfl) sound
      rw [idle, ChunkDecoder.insertHeader_partialChunks, represents.partials]
      exact if_neg fun busy => busy.1 started
    rw [started, List.nil_append] at whole ⊢
    exact ⟨_, stored, ChunkDecoder.storeChunk_whole rest (stored.headerCount_le room rfl) whole⟩
  · have continued := admitted.continues started
    have held := represents.lookup_of_started admitted started
    have stored : Represents chunkSize
        ((decoder.insertHeader chunk.csid header).removePartial (chunk.csid, header.msgStreamId))
        (Function.update streams chunk.csid ⟨some header, []⟩) := by
      refine represents.update rfl rfl rfl (fun msid => ?_) (fun key different => ?_) sound
      · rw [idle, ChunkDecoder.removePartial, ChunkDecoder.insertHeader_partialChunks]
        by_cases same : msid = header.msgStreamId
        · rw [same]
          exact AList.lookup_erase _ _
        · rw [AList.lookup_erase_ne fun equal => same (congrArg Prod.snd equal),
            represents.partials]
          refine if_neg fun busy => same ?_
          have stream := busy.2
          rw [continued] at stream
          exact (Option.some.inj stream).symm
      · exact AList.lookup_erase_ne fun equal => different (congrArg Prod.fst equal)
    have nonempty := List.length_pos_of_ne_nil started
    have part : chunk.payload.length ≠ header.msgLength.toNat := by
      rw [List.length_append] at whole
      omega
    refine ⟨_, stored, ?_⟩
    rw [ChunkDecoder.storeChunk_part rest (stored.headerCount_le room rfl) part
      (ChunkDecoder.openPartial_of_held held)]
    exact ChunkDecoder.extendPartial_completes rest (by rw [whole]; exact small) whole

/-- A decoder that stores the part of a message that has come represents the stream with that
part. -/
theorem store_part (represents : Represents chunkSize decoder streams) {chunk : WireChunk}
    {header : ChunkMessageHeader}
    (admitted : (streams chunk.csid).Admits chunkSize chunk.header chunk.payload header)
    (busy : (streams chunk.csid).received ++ chunk.payload ≠ [])
    (sound : StreamState.Sound ⟨some header, (streams chunk.csid).received ++ chunk.payload⟩)
    {next : ChunkDecoder} (sameSize : next.maxChunkSize = decoder.maxChunkSize)
    (headers : next.previousChunkHeaders = decoder.previousChunkHeaders.insert chunk.csid header)
    (own : next.partialChunks.lookup (chunk.csid, header.msgStreamId) =
      some ((streams chunk.csid).received ++ chunk.payload))
    (others : ∀ key, key ≠ (chunk.csid, header.msgStreamId) →
      next.partialChunks.lookup key = decoder.partialChunks.lookup key) :
    Represents chunkSize next (Function.update streams chunk.csid
      ⟨some header, (streams chunk.csid).received ++ chunk.payload⟩) := by
  refine represents.update sameSize headers rfl (fun msid => ?_) (fun key different => ?_) sound
  · by_cases same : msid = header.msgStreamId
    · rw [same, own]
      exact (if_pos ⟨busy, rfl⟩).symm
    · have unused : StreamState.partialOf
          ⟨some header, (streams chunk.csid).received ++ chunk.payload⟩ msid = none :=
        if_neg fun held => same (Option.some.inj held.2).symm
      rw [unused, others _ fun equal => same (congrArg Prod.snd equal), represents.partials]
      refine if_neg fun held => same ?_
      have stream := held.2
      rw [admitted.continues held.1] at stream
      exact (Option.some.inj stream).symm
  · exact others key fun equal => different (congrArg Prod.fst equal)

/-- A chunk that leaves its message unfinished is kept under its key. -/
theorem step_grows (represents : Represents chunkSize decoder streams) {chunk : WireChunk}
    {header : ChunkMessageHeader} (fits : chunk.form.Fits chunk.csid)
    (admitted : (streams chunk.csid).Admits chunkSize chunk.header chunk.payload header)
    (short : ((streams chunk.csid).received ++ chunk.payload).length ≠ header.msgLength.toNat)
    (room : Assembler.Room (Function.update streams chunk.csid
      ⟨some header, (streams chunk.csid).received ++ chunk.payload⟩))
    (checks : OverflowChecks) (rest : Bytes) :
    ∃ next, Represents chunkSize next (Function.update streams chunk.csid
        ⟨some header, (streams chunk.csid).received ++ chunk.payload⟩) ∧
      decoder.iteration checks (chunk.bytes ++ rest) = .continues next rest := by
  have small := admitted.length_le (represents.sound _)
  have held := admitted.received_le (represents.sound _)
  have size := admitted.size
  have positive := represents.positive
  have length : ((streams chunk.csid).received ++ chunk.payload).length =
      (streams chunk.csid).received.length + chunk.payload.length := List.length_append
  have sound : StreamState.Sound
      ⟨some header, (streams chunk.csid).received ++ chunk.payload⟩ :=
    ⟨fun _ missing => (nomatch missing), fun found same => by
      cases same
      exact ⟨by rw [length]; omega, small⟩⟩
  have part : chunk.payload.length ≠ header.msgLength.toNat := by omega
  have busy : (streams chunk.csid).received ++ chunk.payload ≠ [] := by
    refine List.ne_nil_of_length_pos ?_
    omega
  have within : ((streams chunk.csid).received ++ chunk.payload).length ≤
      Limits.maxPartialChunkSize := by omega
  rw [represents.iteration_eq fits admitted checks rest]
  by_cases started : (streams chunk.csid).received = []
  · have absent : decoder.partialChunks.lookup (chunk.csid, header.msgStreamId) = none := by
      rw [represents.partials]
      exact if_neg fun held => held.1 started
    have after : Represents chunkSize
        (((decoder.insertHeader chunk.csid header).insertPartial
          (chunk.csid, header.msgStreamId) []).insertPartial (chunk.csid, header.msgStreamId)
            chunk.payload)
        (Function.update streams chunk.csid
          ⟨some header, (streams chunk.csid).received ++ chunk.payload⟩) := by
      refine represents.store_part admitted busy sound rfl rfl ?_ fun key different =>
        (AList.lookup_insert_ne different).trans (AList.lookup_insert_ne different)
      rw [started, List.nil_append]
      exact AList.lookup_insert _
    rw [started, List.nil_append] at within short after room ⊢
    have few : decoder.partialChunks.keys.length < Limits.maxPartialChunkCount := by
      have opened : (decoder.insertPartial (chunk.csid, header.msgStreamId)
          []).partialChunks.keys.length = decoder.partialChunks.keys.length + 1 :=
        FiniteMap.length_keys_insert_of_notMem _ (AList.lookup_eq_none.mp absent)
      have filled : (((decoder.insertHeader chunk.csid header).insertPartial
          (chunk.csid, header.msgStreamId) []).insertPartial (chunk.csid, header.msgStreamId)
            chunk.payload).partialChunks.keys.length =
          (decoder.insertPartial (chunk.csid, header.msgStreamId) []).partialChunks.keys.length :=
        FiniteMap.length_keys_insert_of_mem _ (AList.mem_insert _ |>.mpr (.inl rfl))
      have count := after.partials_le room
      omega
    refine ⟨_, after, ?_⟩
    rw [ChunkDecoder.storeChunk_part rest (after.headerCount_le room rfl) part
      (ChunkDecoder.openPartial_of_absent absent few)]
    exact ChunkDecoder.extendPartial_grows rest within short
  · have found := represents.lookup_of_started admitted started
    have after : Represents chunkSize
        ((decoder.insertHeader chunk.csid header).insertPartial (chunk.csid, header.msgStreamId)
          ((streams chunk.csid).received ++ chunk.payload))
        (Function.update streams chunk.csid
          ⟨some header, (streams chunk.csid).received ++ chunk.payload⟩) :=
      represents.store_part admitted busy sound rfl rfl (AList.lookup_insert _)
        fun key different => AList.lookup_insert_ne different
    refine ⟨_, after, ?_⟩
    rw [ChunkDecoder.storeChunk_part rest (after.headerCount_le room rfl) part
      (ChunkDecoder.openPartial_of_held found)]
    exact ChunkDecoder.extendPartial_grows rest within short

end Represents

/-! ## Whole runs -/

namespace ChunkDecoder

/-- Rounds of the loop, through any number of calls, with the chunks that the
calls return. -/
inductive Absorbs (checks : OverflowChecks) :
    ChunkDecoder → Bytes → List Chunk → ChunkDecoder → Bytes → Prop
  | done (decoder : ChunkDecoder) (buffer : Bytes) : Absorbs checks decoder buffer [] decoder buffer
  | returned {decoder next last : ChunkDecoder} {buffer rest left : Bytes} {chunk : Chunk}
      {chunks : List Chunk}
      (round : decoder.iteration checks buffer = .returns (.ok (some chunk)) next rest)
      (rounds : Absorbs checks next rest chunks last left) :
      Absorbs checks decoder buffer (chunk :: chunks) last left
  | continued {decoder next last : ChunkDecoder} {buffer rest left : Bytes} {chunks : List Chunk}
      (round : decoder.iteration checks buffer = .continues next rest)
      (rounds : Absorbs checks next rest chunks last left) :
      Absorbs checks decoder buffer chunks last left

/-- Successive calls return exactly these chunks, and the next call returns
none and leaves the given decoder and buffer. -/
inductive Delivers (checks : OverflowChecks) :
    ChunkDecoder → Bytes → List Chunk → ChunkDecoder → Bytes → Prop
  | finished {decoder last : ChunkDecoder} {buffer left : Bytes}
      (call : decoder.readChunk checks buffer = (.ok none, last, left)) :
      Delivers checks decoder buffer [] last left
  | message {decoder next last : ChunkDecoder} {buffer rest left : Bytes} {chunk : Chunk}
      {chunks : List Chunk}
      (call : decoder.readChunk checks buffer = (.ok (some chunk), next, rest))
      (calls : Delivers checks next rest chunks last left) :
      Delivers checks decoder buffer (chunk :: chunks) last left

theorem iteration_nil (checks : OverflowChecks) (decoder : ChunkDecoder) :
    decoder.iteration checks [] = .returns (.ok none) decoder [] := rfl

theorem Delivers.of_continues {checks : OverflowChecks} {decoder next last : ChunkDecoder}
    {buffer rest left : Bytes} {chunks : List Chunk}
    (round : decoder.iteration checks buffer = .continues next rest)
    (delivers : Delivers checks next rest chunks last left) :
    Delivers checks decoder buffer chunks last left := by
  cases delivers with
  | finished call => exact .finished ((readChunk_of_continues round).trans call)
  | message call calls => exact .message ((readChunk_of_continues round).trans call) calls

/-- The calls determine what they return. -/
theorem Delivers.unique {checks : OverflowChecks} {decoder first second : ChunkDecoder}
    {buffer left right : Bytes} {chunks others : List Chunk}
    (delivers : Delivers checks decoder buffer chunks first left)
    (again : Delivers checks decoder buffer others second right) : chunks = others := by
  induction delivers generalizing others with
  | finished call =>
      cases again with
      | finished _ => rfl
      | message other _ =>
          rw [call] at other
          cases other
  | message call calls ih =>
      cases again with
      | finished other =>
          rw [call] at other
          cases other
      | message other rest =>
          rw [call] at other
          cases other
          rw [ih rest]

/-- Rounds that use up the buffer are calls that end with nothing left. -/
theorem Absorbs.delivers {checks : OverflowChecks} {decoder last : ChunkDecoder}
    {buffer left : Bytes} {chunks : List Chunk}
    (absorbs : Absorbs checks decoder buffer chunks last left) (empty : left = []) :
    Delivers checks decoder buffer chunks last [] := by
  induction absorbs with
  | done decoder buffer =>
      subst empty
      exact .finished (readChunk_of_returns (iteration_nil checks decoder))
  | returned round rounds ih => exact .message (readChunk_of_returns round) (ih empty)
  | continued round rounds ih => exact (ih empty).of_continues round

end ChunkDecoder

/-- The decoder follows every run of the streams, on the bytes of its chunks
and whatever stands after them. -/
theorem Represents.run {chunkSize : Nat} {decoder : ChunkDecoder} {streams last : Assembler}
    {chunks : List WireChunk} {outputs : List Chunk}
    (represents : Represents chunkSize decoder streams)
    (run : Assembler.Run chunkSize streams chunks last outputs)
    (checks : OverflowChecks) (rest : Bytes) :
    ∃ next, Represents chunkSize next last ∧
      ChunkDecoder.Absorbs checks decoder (chunks.flatMap WireChunk.bytes ++ rest) outputs
        next rest := by
  induction run generalizing decoder with
  | done streams => exact ⟨decoder, represents, .done decoder rest⟩
  | @step streams last chunk chunks header outputs fits admitted room run ih =>
      rw [List.flatMap_cons, List.append_assoc]
      by_cases whole :
          ((streams chunk.csid).received ++ chunk.payload).length = header.msgLength.toNat
      · have state : (streams chunk.csid).absorb header chunk.payload =
            (⟨some header, []⟩, some (header, (streams chunk.csid).received ++ chunk.payload)) :=
          if_pos whole
        rw [Assembler.absorb, state] at room ih
        rw [StreamState.delivered, state]
        obtain ⟨next, stored, round⟩ := represents.step_completes fits admitted whole room checks
          (chunks.flatMap WireChunk.bytes ++ rest)
        obtain ⟨final, finished, absorbs⟩ := ih stored
        exact ⟨final, finished, .returned round absorbs⟩
      · have state : (streams chunk.csid).absorb header chunk.payload =
            (⟨some header, (streams chunk.csid).received ++ chunk.payload⟩, none) :=
          if_neg whole
        rw [Assembler.absorb, state] at room ih
        rw [StreamState.delivered, state]
        obtain ⟨next, stored, round⟩ := represents.step_grows fits admitted whole room checks
          (chunks.flatMap WireChunk.bytes ++ rest)
        obtain ⟨final, finished, absorbs⟩ := ih stored
        exact ⟨final, finished, .continued round absorbs⟩

/-- A decoder that was just given its chunk size delivers every run of the streams
from the start. -/
theorem Assembler.Run.delivers {chunkSize : Nat} (least : 128 ≤ chunkSize)
    (most : chunkSize ≤ 65536) {chunks : List WireChunk} {streams : Assembler}
    {outputs : List Chunk} (run : Assembler.Run chunkSize Assembler.initial chunks streams outputs)
    (checks : OverflowChecks) :
    ∃ last, Represents chunkSize last streams ∧ ChunkDecoder.Delivers checks
      (ChunkDecoder.default.updateMaxChunkSize chunkSize).2 (chunks.flatMap WireChunk.bytes)
      outputs last [] := by
  have positive : 0 < chunkSize := by omega
  have fresh : (ChunkDecoder.default.updateMaxChunkSize chunkSize).2 = ⟨∅, ∅, chunkSize⟩ := by
    rw [ChunkDecoder.updateMaxChunkSize, if_pos ⟨least, most⟩]
    rfl
  obtain ⟨last, represents, absorbs⟩ := (Represents.initial positive).run run checks []
  rw [List.append_nil] at absorbs
  rw [fresh]
  exact ⟨last, represents, absorbs.delivers rfl⟩

end ScuffleVideo.Rtmp
