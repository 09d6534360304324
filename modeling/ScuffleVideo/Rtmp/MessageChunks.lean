import ScuffleVideo.Rtmp.Assembler

/-!
# Messages cut into chunks

A message travels as one chunk that opens it and Type3 chunks that continue it,
each of them full but the last.  Its stream follows such a sequence and delivers
the message with the last chunk.  Sequences on different streams may be mixed
in any order.
-/

namespace ScuffleVideo.Rtmp

open Wire

/-- Every piece but the last has the full chunk size, and none but the first is
empty. -/
def FullyCut (chunkSize : Nat) : List Bytes → Prop
  | [] => True
  | [last] => last.length ≤ chunkSize
  | piece :: next :: rest =>
      piece.length = chunkSize ∧ next ≠ [] ∧ FullyCut chunkSize (next :: rest)

/-- The chunks with the message marked at the last of them. -/
def markLast (message : Message) : List WireChunk → List (WireChunk × Option Message)
  | [] => []
  | [last] => [(last, some message)]
  | chunk :: next :: rest => (chunk, none) :: markLast message (next :: rest)

@[simp]
theorem map_fst_markLast (message : Message) (chunks : List WireChunk) :
    (markLast message chunks).map Prod.fst = chunks := by
  induction chunks with
  | nil => rfl
  | cons chunk chunks ih =>
      cases chunks with
      | nil => rfl
      | cons next rest => exact congrArg (chunk :: ·) ih

theorem filterMap_snd_markLast (message : Message) {chunks : List WireChunk}
    (nonempty : chunks ≠ []) : (markLast message chunks).filterMap Prod.snd = [message] := by
  induction chunks with
  | nil => exact absurd rfl nonempty
  | cons chunk chunks ih =>
      cases chunks with
      | nil => rfl
      | cons next rest => exact ih (List.cons_ne_nil _ _)

/-- A chunk that continues a message with the given header. -/
def WireChunk.Continues (chunk : WireChunk) (csid : UInt32) (header : ChunkMessageHeader) :
    Prop :=
  chunk.csid = csid ∧ chunk.form.Fits csid ∧
    ∃ extension, chunk.header = .type3 extension ∧
      extension.isSome = header.wasExtendedTimestamp

namespace StreamState

/-- A stream takes the marked chunks one by one and delivers exactly the marks. -/
inductive Follows (chunkSize : Nat) :
    StreamState → List (WireChunk × Option Message) → StreamState → Prop
  | done (state : StreamState) : Follows chunkSize state [] state
  | step {state last : StreamState} {chunk : WireChunk} {mark : Option Message}
      {marked : List (WireChunk × Option Message)} {header : ChunkMessageHeader}
      (fits : chunk.form.Fits chunk.csid)
      (admitted : state.Admits chunkSize chunk.header chunk.payload header)
      (delivers : (state.delivered chunk header).map Chunk.message = mark)
      (rest : Follows chunkSize (state.absorb header chunk.payload).1 marked last) :
      Follows chunkSize state ((chunk, mark) :: marked) last

theorem Follows.eq_of_nil {chunkSize : Nat} {state last : StreamState}
    (follows : Follows chunkSize state [] last) : last = state := by
  cases follows
  rfl

theorem Follows.uncons {chunkSize : Nat} {state last : StreamState} {chunk : WireChunk}
    {mark : Option Message} {marked : List (WireChunk × Option Message)}
    (follows : Follows chunkSize state ((chunk, mark) :: marked) last) :
    ∃ header, chunk.form.Fits chunk.csid ∧
      state.Admits chunkSize chunk.header chunk.payload header ∧
      (state.delivered chunk header).map Chunk.message = mark ∧
      Follows chunkSize (state.absorb header chunk.payload).1 marked last := by
  cases follows with
  | step fits admitted delivers rest => exact ⟨_, fits, admitted, delivers, rest⟩

theorem Follows.append {chunkSize : Nat} {first middle last : StreamState}
    {marked more : List (WireChunk × Option Message)}
    (follows : Follows chunkSize first marked middle)
    (next : Follows chunkSize middle more last) :
    Follows chunkSize first (marked ++ more) last := by
  induction follows with
  | done state => exact next
  | step fits admitted delivers rest ih => exact .step fits admitted delivers (ih next)

/-- A stream follows a message from the chunk that opens it, or from the middle
of it, to its end. -/
theorem follows_message {chunkSize : Nat} {csid : UInt32} {header : ChunkMessageHeader}
    {payload : Bytes}
    (length : header.msgLength.toNat = payload.length) {rest : List WireChunk} :
    ∀ {first : WireChunk} {state : StreamState},
      first.csid = csid → first.form.Fits csid →
      first.header.resolve state.header = some header →
      (state.received = [] ∨ first.header.format = .type3) →
      (∀ chunk ∈ rest, chunk.Continues csid header) →
      state.received ++ (first :: rest).flatMap WireChunk.payload = payload →
      FullyCut chunkSize ((first :: rest).map WireChunk.payload) →
      Follows chunkSize state
        (markLast ⟨csid, header.timestamp, header.msgLength, header.msgTypeId,
          header.msgStreamId, payload⟩ (first :: rest)) ⟨some header, []⟩ := by
  induction rest with
  | nil =>
      intro first state stream fits resolved turn _ content cut
      subst stream
      rw [List.flatMap_cons, List.flatMap_nil, List.append_nil] at content
      have total : state.received.length + first.payload.length = header.msgLength.toNat := by
        rw [length, ← content, List.length_append]
      have short : first.payload.length ≤ chunkSize := cut
      have whole : state.absorb header first.payload =
          (⟨some header, []⟩, some (header, state.received ++ first.payload)) :=
        if_pos (by rw [List.length_append]; exact total)
      refine .step fits ⟨resolved, turn, by omega⟩ ?_ ?_
      · rw [delivered, whole, content]
        rfl
      · rw [whole]
        exact .done _
  | cons next rest ih =>
      intro first state stream fits resolved turn continues content cut
      subst stream
      obtain ⟨full, nonempty, cut⟩ := cut
      obtain ⟨nextStream, nextFits, extension, type3, extended⟩ :=
        continues next List.mem_cons_self
      rw [List.flatMap_cons, ← List.append_assoc] at content
      have nextPositive := List.length_pos_of_ne_nil nonempty
      have total : state.received.length + first.payload.length + next.payload.length ≤
          header.msgLength.toNat := by
        rw [length, ← content, List.flatMap_cons]
        simp only [List.length_append]
        omega
      have part : state.absorb header first.payload =
          (⟨some header, state.received ++ first.payload⟩, none) :=
        if_neg (by rw [List.length_append]; omega)
      refine .step fits ⟨resolved, turn, by omega⟩ ?_ ?_
      · rw [delivered, part]
        rfl
      · rw [part]
        refine ih nextStream nextFits ?_ (.inr ?_)
          (fun chunk member => continues chunk (List.mem_cons_of_mem _ member)) content cut
        · rw [type3]
          exact if_pos extended
        · rw [type3]
          rfl

end StreamState

/-! ## Opening a message -/

theorem ChunkMessageHeader.isExtendedTimestamp_iff (header : ChunkMessageHeader) :
    header.isExtendedTimestamp = true ↔ 0xFFFFFF ≤ header.timestamp.toNat := by
  unfold ChunkMessageHeader.isExtendedTimestamp
  rw [decide_eq_true_iff, UInt32.le_iff_toNat_le]
  rfl

/-- The header the decoder stores for a message of the encoder. -/
def ChunkMessageHeader.stored (header : ChunkMessageHeader) : ChunkMessageHeader :=
  { header with wasExtendedTimestamp := header.isExtendedTimestamp }

/-- The Type0 header the encoder writes. -/
def ChunkMessageHeader.opening (header : ChunkMessageHeader) : WireHeader :=
  .type0 (.ofValue header.timestamp) header.msgLength header.msgTypeId header.msgStreamId

/-- The Type3 header the encoder writes. -/
def ChunkMessageHeader.continuation (header : ChunkMessageHeader) : WireHeader :=
  .type3 (if header.isExtendedTimestamp then some header.timestamp else none)

theorem TimeField.isExtended_ofValue (header : ChunkMessageHeader) :
    (TimeField.ofValue header.timestamp).isExtended = header.isExtendedTimestamp := by
  unfold TimeField.ofValue
  split
  · rename_i below
    have short : ¬ header.isExtendedTimestamp = true := fun extended =>
      Nat.not_le_of_lt below (header.isExtendedTimestamp_iff.mp extended)
    exact (Bool.eq_false_of_not_eq_true short).symm
  · rename_i above
    exact (header.isExtendedTimestamp_iff.mpr (Nat.le_of_not_lt above)).symm

theorem resolve_opening {header : ChunkMessageHeader}
    (small : header.msgLength.toNat ≤ Limits.maxPartialChunkSize)
    (previous : Option ChunkMessageHeader) :
    header.opening.resolve previous = some header.stored := by
  rw [ChunkMessageHeader.opening, WireHeader.resolve, if_pos small, TimeField.value_ofValue,
    TimeField.isExtended_ofValue]
  rfl

/-! ## Mixing streams -/

theorem Assembler.Room.of_lists {streams : Assembler} {known busy : List UInt32}
    (fewKnown : known.length ≤ Limits.maxPreviousChunkHeaders)
    (fewBusy : busy.length ≤ Limits.maxPartialChunkCount)
    (silent : ∀ csid, csid ∉ known → (streams csid).header = none)
    (idle : ∀ csid, csid ∉ busy → (streams csid).received = []) : streams.Room where
  headers := ⟨known, fewKnown, fun csid announced => by
    by_contra unknown
    exact announced (silent csid unknown)⟩
  partials := ⟨busy, fewBusy, fun csid started => by
    by_contra quiet
    exact started (idle csid quiet)⟩

/-- If every stream follows its own marked chunks, then all of them together
follow any order of all the chunks that keeps the order inside each stream, and
the marks are delivered in the order in which they stand. -/
theorem Assembler.Run.of_follows {chunkSize : Nat} {known busy : List UInt32}
    (fewKnown : known.length ≤ Limits.maxPreviousChunkHeaders)
    (fewBusy : busy.length ≤ Limits.maxPartialChunkCount) {last : Assembler}
    {marked : List (WireChunk × Option Message)} :
    ∀ {streams : Assembler},
      (∀ csid, csid ∉ known → (streams csid).header = none) →
      (∀ csid, csid ∉ busy → (streams csid).received = []) →
      (∀ entry ∈ marked, entry.1.csid ∈ known ∧ entry.1.csid ∈ busy) →
      (∀ csid, StreamState.Follows chunkSize (streams csid)
        (marked.filter fun entry => entry.1.csid = csid) (last csid)) →
      ∃ outputs, Assembler.Run chunkSize streams (marked.map Prod.fst) last outputs ∧
        outputs.map Chunk.message = marked.filterMap Prod.snd := by
  induction marked with
  | nil =>
      intro streams _ _ _ follows
      have same : streams = last := funext fun csid => (follows csid).eq_of_nil.symm
      exact ⟨[], same ▸ .done _, rfl⟩
  | cons entry marked ih =>
      obtain ⟨chunk, mark⟩ := entry
      intro streams silent idle inside follows
      obtain ⟨isKnown, isBusy⟩ := inside (chunk, mark) List.mem_cons_self
      have own := follows chunk.csid
      rw [List.filter_cons_of_pos (by simp)] at own
      obtain ⟨header, fits, admitted, delivers, rest⟩ := own.uncons
      have silentAfter : ∀ csid, csid ∉ known →
          (streams.absorb chunk header csid).header = none := by
        intro csid unknown
        rw [Assembler.absorb, Function.update_of_ne (by rintro rfl; exact unknown isKnown)]
        exact silent csid unknown
      have idleAfter : ∀ csid, csid ∉ busy → (streams.absorb chunk header csid).received = [] := by
        intro csid quiet
        rw [Assembler.absorb, Function.update_of_ne (by rintro rfl; exact quiet isBusy)]
        exact idle csid quiet
      have followsAfter : ∀ csid, StreamState.Follows chunkSize (streams.absorb chunk header csid)
          (marked.filter fun entry => entry.1.csid = csid) (last csid) := by
        intro csid
        by_cases same : csid = chunk.csid
        · subst same
          rw [Assembler.absorb, Function.update_self]
          exact rest
        · have other := follows csid
          rw [List.filter_cons_of_neg (by simpa using Ne.symm same)] at other
          rw [Assembler.absorb, Function.update_of_ne same]
          exact other
      obtain ⟨outputs, run, messages⟩ := ih silentAfter idleAfter
        (fun entry member => inside entry (List.mem_cons_of_mem _ member)) followsAfter
      refine ⟨_, .step fits admitted
        (.of_lists fewKnown fewBusy silentAfter idleAfter) run, ?_⟩
      rw [List.map_append, messages, List.filterMap_cons, ← delivers]
      cases (streams chunk.csid).delivered chunk header <;> rfl

/-- One stream follows its marked chunks while no other stream is in the middle
of a message. -/
theorem Assembler.Run.of_stream {chunkSize : Nat} {known : List UInt32}
    (few : known.length ≤ Limits.maxPreviousChunkHeaders) {streams : Assembler}
    (silent : ∀ csid, csid ∉ known → (streams csid).header = none)
    (idle : ∀ csid, (streams csid).received = []) {csid : UInt32} (isKnown : csid ∈ known)
    {marked : List (WireChunk × Option Message)} (own : ∀ entry ∈ marked, entry.1.csid = csid)
    {last : StreamState} (follows : StreamState.Follows chunkSize (streams csid) marked last) :
    ∃ outputs, Assembler.Run chunkSize streams (marked.map Prod.fst)
        (Function.update streams csid last) outputs ∧
      outputs.map Chunk.message = marked.filterMap Prod.snd := by
  have fewBusy : [csid].length ≤ Limits.maxPartialChunkCount := by
    rw [List.length_singleton]
    decide
  refine Assembler.Run.of_follows few fewBusy silent (fun other _ => idle other)
    (fun entry member => ?_) (fun other => ?_)
  · rw [own entry member]
    exact ⟨isKnown, List.mem_singleton_self _⟩
  · by_cases same : other = csid
    · subst same
      rw [List.filter_eq_self.mpr (by simpa using own), Function.update_self]
      exact follows
    · have absent : (marked.filter fun entry => entry.1.csid = other) = [] := by
        refine List.filter_eq_nil_iff.mpr fun entry member => ?_
        rw [own entry member, decide_eq_true_eq]
        exact Ne.symm same
      rw [absent, Function.update_of_ne same]
      exact .done _

/-- The marked chunks of one message stay on its stream. -/
theorem markLast_csid {message : Message} {chunks : List WireChunk} {csid : UInt32}
    (own : ∀ chunk ∈ chunks, chunk.csid = csid) :
    ∀ entry ∈ markLast message chunks, entry.1.csid = csid := by
  intro entry member
  have inside := List.mem_map_of_mem (f := Prod.fst) member
  rw [map_fst_markLast] at inside
  exact own entry.1 inside

end ScuffleVideo.Rtmp
