import ScuffleVideo.Rtmp.MemoryLimits

/-!
# Payload accounting of the chunk decoder

The payload range subtracts the bytes received under a key from the length the
chunk header announces.  A client that announces a shorter length while a
longer message under the same key is half received makes the subtraction
underflow.  Nothing else does: headers that repeat the previous length are
covered by an invariant between the two maps.
-/

namespace ScuffleVideo.Rtmp

open Wire Wire.Reader

namespace ChunkDecoder

/-! ## Accepted headers -/

/-- At the front of the buffer stand a basic header of `middle` bytes and a
message header, and the decoder accepts both. -/
def Accepts (checks : OverflowChecks) (decoder : ChunkDecoder) (buffer : Bytes)
    (header : ChunkBasicHeader) (middle : Nat) (messageHeader : ChunkMessageHeader) : Prop :=
  readHeader buffer 0 = .ok (header, middle) ∧
    ∃ stop, decoder.readMessageHeader checks header buffer middle = .ok (messageHeader, stop)

/-- The bytes already received under the key of an accepted header. -/
def heldLength (decoder : ChunkDecoder) (header : ChunkBasicHeader)
    (messageHeader : ChunkMessageHeader) : Nat :=
  decoder.receivedLength (header.chunkStreamId, messageHeader.msgStreamId)

/-- The subtraction in the payload range stays in range. -/
def NoUnderflow (checks : OverflowChecks) (decoder : ChunkDecoder) (buffer : Bytes) : Prop :=
  ∀ header middle messageHeader, Accepts checks decoder buffer header middle messageHeader →
    decoder.heldLength header messageHeader ≤ messageHeader.msgLength.toNat

/-- The three length bytes of a Type0 or Type1 header, which follow the three
timestamp bytes. -/
def lengthField (buffer : Bytes) (middle : Nat) : Nat :=
  ofBytesBE ((buffer.drop (middle + 3)).take 3)

/-- The next chunk announces a length of its own, below what has already been
received under its key. -/
def ShortensPartial (checks : OverflowChecks) (decoder : ChunkDecoder) (buffer : Bytes) :
    Prop :=
  ∃ header middle messageHeader, Accepts checks decoder buffer header middle messageHeader ∧
    (header.format = .type0 ∨ header.format = .type1) ∧
    lengthField buffer middle < decoder.heldLength header messageHeader

theorem readMsgLength_eq_ok {buffer : Bytes} {position stop : Nat} {msgLength : UInt32}
    (read : readMsgLength buffer position = .ok (msgLength, stop)) :
    msgLength.toNat = ofBytesBE ((buffer.drop position).take 3) := by
  obtain ⟨value, middle, fieldRead, rest⟩ := bind_eq_ok_iff.mp read
  obtain ⟨denotes, _⟩ := readU24_eq_ok fieldRead
  split at rest
  · cases rest
  · cases rest
    exact denotes

/-- Where the length of an accepted header comes from: its own three bytes, or
the previous header of the chunk stream, together with the message stream. -/
theorem Accepts.length_source {checks : OverflowChecks} {decoder : ChunkDecoder}
    {buffer : Bytes} {header : ChunkBasicHeader} {middle : Nat}
    {messageHeader : ChunkMessageHeader}
    (accepted : Accepts checks decoder buffer header middle messageHeader) :
    ((header.format = .type0 ∨ header.format = .type1) ∧
      messageHeader.msgLength.toNat = lengthField buffer middle) ∨
    ¬ (header.format = .type0 ∨ header.format = .type1) ∧
    ∃ previous, decoder.previousChunkHeaders.lookup header.chunkStreamId = some previous ∧
      messageHeader.msgLength = previous.msgLength ∧
      messageHeader.msgStreamId = previous.msgStreamId := by
  obtain ⟨_, stop, read⟩ := accepted
  unfold readMessageHeader at read
  cases format : header.format with
  | type0 =>
      rw [format] at read
      obtain ⟨timestamp, afterTime, timeRead, read⟩ := bind_eq_ok_iff.mp read
      obtain ⟨msgLength, afterLength, lengthRead, read⟩ := bind_eq_ok_iff.mp read
      obtain ⟨_, _, _, read⟩ := bind_eq_ok_iff.mp read
      obtain ⟨_, _, _, read⟩ := bind_eq_ok_iff.mp read
      obtain ⟨_, _, _, read⟩ := bind_eq_ok_iff.mp read
      cases read
      obtain ⟨_, rfl⟩ := readU24_eq_ok timeRead
      exact .inl ⟨.inl rfl, readMsgLength_eq_ok lengthRead⟩
  | type1 =>
      rw [format] at read
      obtain ⟨timestamp, afterTime, timeRead, read⟩ := bind_eq_ok_iff.mp read
      obtain ⟨msgLength, afterLength, lengthRead, read⟩ := bind_eq_ok_iff.mp read
      obtain ⟨_, _, _, read⟩ := bind_eq_ok_iff.mp read
      obtain ⟨_, _, _, read⟩ := bind_eq_ok_iff.mp read
      obtain ⟨_, _, _, read⟩ := bind_eq_ok_iff.mp read
      cases read
      obtain ⟨_, rfl⟩ := readU24_eq_ok timeRead
      exact .inl ⟨.inr rfl, readMsgLength_eq_ok lengthRead⟩
  | type2 =>
      rw [format] at read
      obtain ⟨_, _, _, read⟩ := bind_eq_ok_iff.mp read
      obtain ⟨_, _, _, read⟩ := bind_eq_ok_iff.mp read
      obtain ⟨previous, _, previousRead, read⟩ := bind_eq_ok_iff.mp read
      obtain ⟨_, _, _, read⟩ := bind_eq_ok_iff.mp read
      cases read
      exact .inr ⟨by simp, previous, previousHeader_eq_ok previousRead, rfl, rfl⟩
  | type3 =>
      rw [format] at read
      obtain ⟨previous, _, previousRead, read⟩ := bind_eq_ok_iff.mp read
      have found := previousHeader_eq_ok previousRead
      split at read
      · obtain ⟨_, _, _, read⟩ := bind_eq_ok_iff.mp read
        cases read
        exact .inr ⟨by simp, _, found, rfl, rfl⟩
      · cases read
        exact .inr ⟨by simp, _, found, rfl, rfl⟩

/-! ## The invariant between the two maps -/

/-- No more bytes are held for the latest message of a chunk stream than its
header announced. -/
def Accounted (decoder : ChunkDecoder) : Prop :=
  ∀ chunkStreamId previous, decoder.previousChunkHeaders.lookup chunkStreamId = some previous →
    decoder.receivedLength (chunkStreamId, previous.msgStreamId) ≤ previous.msgLength.toNat

theorem noUnderflow_of_accounted {checks : OverflowChecks} {decoder : ChunkDecoder}
    {buffer : Bytes} (accounted : Accounted decoder)
    (kept : ¬ ShortensPartial checks decoder buffer) : NoUnderflow checks decoder buffer := by
  intro header middle messageHeader accepted
  rcases accepted.length_source with ⟨ownLength, denotes⟩ | ⟨_, previous, found, length, stream⟩
  · rw [denotes]
    exact Nat.le_of_not_lt fun shorter =>
      kept ⟨header, middle, messageHeader, accepted, ownLength, shorter⟩
  · rw [heldLength, length, stream]
    exact accounted _ _ found

theorem not_shortensPartial {checks : OverflowChecks} {decoder : ChunkDecoder} {buffer : Bytes}
    (safe : NoUnderflow checks decoder buffer) : ¬ ShortensPartial checks decoder buffer := by
  rintro ⟨header, middle, messageHeader, accepted, ownLength, shorter⟩
  have enough := safe header middle messageHeader accepted
  rcases accepted.length_source with ⟨_, denotes⟩ | ⟨repeats, _⟩
  · omega
  · exact repeats ownLength

namespace Accounted

variable {decoder : ChunkDecoder}

theorem default : Accounted ChunkDecoder.default := by
  intro chunkStreamId previous found
  rw [ChunkDecoder.default, AList.lookup_empty] at found
  cases found

theorem updateMaxChunkSize (accounted : Accounted decoder) (chunkSize : Nat) :
    Accounted (decoder.updateMaxChunkSize chunkSize).2 := by
  unfold ChunkDecoder.updateMaxChunkSize
  split
  · exact accounted
  · exact accounted

/-- After a header is stored, its own key is the only one whose account can
have changed. -/
theorem of_insertHeader (accounted : Accounted decoder) {header : ChunkBasicHeader}
    {messageHeader : ChunkMessageHeader} {next : ChunkDecoder}
    (headers : next.previousChunkHeaders =
      (decoder.insertHeader header.chunkStreamId messageHeader).previousChunkHeaders)
    (others : ∀ key, key ≠ (header.chunkStreamId, messageHeader.msgStreamId) →
      next.receivedLength key = decoder.receivedLength key)
    (own : next.heldLength header messageHeader ≤ messageHeader.msgLength.toNat) :
    Accounted next := by
  intro chunkStreamId previous found
  rw [headers] at found
  by_cases same : chunkStreamId = header.chunkStreamId
  · subst same
    rw [lookup_insertHeader] at found
    cases found
    exact own
  · rw [lookup_insertHeader_ne _ _ _ same] at found
    rw [others _ (fun equal => same (congrArg Prod.fst equal))]
    exact accounted _ _ found

/-- A chunk no longer than the rest of its message keeps the account. -/
theorem storeChunk (accounted : Accounted decoder) {header : ChunkBasicHeader}
    {messageHeader : ChunkMessageHeader} {payload : Bytes}
    (fits : decoder.heldLength header messageHeader + payload.length ≤
      messageHeader.msgLength.toNat) (buffer : Bytes) :
    Accounted (decoder.storeChunk header messageHeader payload buffer).decoder := by
  have outcome := storeChunk_outcome decoder header messageHeader payload buffer
  generalize decoder.storeChunk header messageHeader payload buffer = round at outcome ⊢
  have stored : Accounted (decoder.insertHeader header.chunkStreamId messageHeader) :=
    accounted.of_insertHeader rfl (fun _ _ => rfl) (Nat.le_trans (Nat.le_add_right _ _) fits)
  cases outcome with
  | tooManyHeaders full => exact accounted
  | whole room size => exact stored
  | tooManyPartials room part full => exact stored
  | tooLarge room part found large =>
      obtain ⟨headers, _, same⟩ := openPartial_eq_some found
      refine accounted.of_insertHeader headers (fun key _ => same key) ?_
      rw [heldLength, Iteration.decoder, same]
      exact Nat.le_trans (Nat.le_add_right _ _) fits
  | completes room part found small size =>
      obtain ⟨headers, _, same⟩ := openPartial_eq_some found
      refine accounted.of_insertHeader headers (fun key different => ?_) ?_
      · exact (receivedLength_removePartial_ne _ _ different).trans (same key)
      · exact Nat.le_trans (Nat.le_of_eq (receivedLength_removePartial _ _)) (Nat.zero_le _)
  | grows room part found small short =>
      obtain ⟨headers, length, same⟩ := openPartial_eq_some found
      refine accounted.of_insertHeader headers (fun key different => ?_) ?_
      · exact (receivedLength_insertPartial_ne _ _ _ different).trans (same key)
      · rw [receivedLength_insertHeader] at length
        rw [heldLength] at fits ⊢
        rw [Iteration.decoder, receivedLength_insertPartial, List.length_append, length]
        exact fits

/-- The payload cut out of the buffer is no longer than the rest of its
message. -/
theorem iteration (accounted : Accounted decoder) {checks : OverflowChecks} {buffer : Bytes}
    (safe : NoUnderflow checks decoder buffer) :
    Accounted (decoder.iteration checks buffer).decoder := by
  rcases iteration_cases checks decoder buffer with ⟨result, stopped, _⟩ |
      ⟨frame, position, frameRead, _, _, stored⟩
  · rw [stopped]
    exact accounted
  · obtain ⟨middle, stop, remaining, headerRead, messageRead, remainingRead, start, finish,
      moved⟩ := readFrame_eq_ok frameRead
    have enough := safe frame.header middle frame.messageHeader ⟨headerRead, stop, messageRead⟩
    have word : frame.messageHeader.msgLength.toNat < 2 ^ 64 :=
      Nat.lt_trans frame.messageHeader.msgLength.toNat_lt (by decide)
    rw [heldLength] at enough
    rw [remainingLength_of_le enough word] at remainingRead
    cases remainingRead
    rw [stored]
    refine accounted.storeChunk ?_ _
    have short : (((buffer.take position).take frame.payloadEnd).drop
        frame.payloadStart).length ≤ position - stop := by
      rw [List.length_drop, List.length_take, start, finish]
      omega
    rw [heldLength]
    omega

end Accounted

/-! ## Whole runs -/

/-- The states in which a call starts a round of its loop, from the state and
the buffer it is given. -/
inductive Rounds (checks : OverflowChecks) : ChunkDecoder → Bytes → ChunkDecoder → Bytes → Prop
  | first (decoder : ChunkDecoder) (buffer : Bytes) : Rounds checks decoder buffer decoder buffer
  | later {decoder next last : ChunkDecoder} {buffer rest left : Bytes}
      (round : decoder.iteration checks buffer = .continues next rest)
      (rounds : Rounds checks next rest last left) : Rounds checks decoder buffer last left

/-- A run of calls on a fresh decoder starts a round in this state. -/
def Visited (checks : OverflowChecks) (calls : List Call) (decoder : ChunkDecoder)
    (buffer : Bytes) : Prop :=
  ∃ done given rest, calls = done ++ .readChunk given :: rest ∧
    Rounds checks (done.foldl (call checks) ChunkDecoder.default) given decoder buffer

theorem Visited.append {checks : OverflowChecks} {calls : List Call} {decoder : ChunkDecoder}
    {buffer : Bytes} (visited : Visited checks calls decoder buffer) (request : Call) :
    Visited checks (calls ++ [request]) decoder buffer := by
  obtain ⟨done, given, rest, rfl, rounds⟩ := visited
  exact ⟨done, given, rest ++ [request], by simp, rounds⟩

/-- A call that shortens no partial payload keeps the account in every round
and at its end. -/
theorem accounted_of_rounds {checks : OverflowChecks} {decoder : ChunkDecoder} {buffer : Bytes}
    (accounted : Accounted decoder)
    (kept : ∀ last left, Rounds checks decoder buffer last left →
      ¬ ShortensPartial checks last left) :
    (∀ last left, Rounds checks decoder buffer last left → Accounted last) ∧
      Accounted (decoder.readChunk checks buffer).2.1 := by
  induction size : buffer.length using Nat.strongRecOn generalizing decoder buffer with
  | ind length ih =>
      have safe := noUnderflow_of_accounted accounted (kept _ _ (.first _ _))
      have after := accounted.iteration safe
      cases step : decoder.iteration checks buffer with
      | returns result next rest =>
          rw [step] at after
          rw [readChunk_of_returns step]
          refine ⟨fun last left rounds => ?_, after⟩
          cases rounds with
          | first => exact accounted
          | later round rounds =>
              rw [step] at round
              cases round
      | continues next rest =>
          rw [step] at after
          have shorter := iteration_continues_lt step
          obtain ⟨inside, finish⟩ := ih rest.length (by omega) after
            (fun last left rounds => kept last left (.later step rounds)) rfl
          rw [readChunk_of_continues step]
          refine ⟨fun last left rounds => ?_, finish⟩
          cases rounds with
          | first => exact accounted
          | later round rounds =>
              rw [step] at round
              cases round
              exact inside last left rounds

/-- A run that shortens no partial payload keeps the account to its end. -/
theorem accounted_of_calls {checks : OverflowChecks} {calls : List Call}
    (kept : ∀ decoder buffer, Visited checks calls decoder buffer →
      ¬ ShortensPartial checks decoder buffer) :
    Accounted (calls.foldl (call checks) ChunkDecoder.default) := by
  induction calls using List.reverseRecOn with
  | nil => exact Accounted.default
  | append_singleton calls request ih =>
      have before := ih fun decoder buffer visited =>
        kept decoder buffer (visited.append request)
      rw [List.foldl_append]
      cases request with
      | readChunk given =>
          exact (accounted_of_rounds before fun last left rounds =>
            kept last left ⟨calls, given, [], rfl, rounds⟩).2
      | updateMaxChunkSize chunkSize => exact before.updateMaxChunkSize chunkSize

/-- In every run, the subtraction stays in range in every round exactly when no
Type0 or Type1 header of the run announces a length below the bytes already
received under its key. -/
theorem noUnderflow_iff_keeps_partials (checks : OverflowChecks) (calls : List Call) :
    (∀ decoder buffer, Visited checks calls decoder buffer →
      NoUnderflow checks decoder buffer) ↔
    ∀ decoder buffer, Visited checks calls decoder buffer →
      ¬ ShortensPartial checks decoder buffer := by
  constructor
  · intro safe decoder buffer visited
    exact not_shortensPartial (safe decoder buffer visited)
  · intro kept decoder buffer visited
    refine noUnderflow_of_accounted ?_ (kept decoder buffer visited)
    obtain ⟨done, given, rest, rfl, rounds⟩ := visited
    have before : Accounted (done.foldl (call checks) ChunkDecoder.default) :=
      accounted_of_calls fun _ _ earlier =>
        kept _ _ (by
          obtain ⟨start, piece, middle, rfl, inner⟩ := earlier
          exact ⟨start, piece, middle ++ .readChunk given :: rest, by simp, inner⟩)
    exact (accounted_of_rounds before fun last left inner =>
      kept last left ⟨done, given, rest, rfl, inner⟩).1 decoder buffer rounds

/-- The first chunk of a message of 256 bytes. -/
def openingChunk : Bytes :=
  [3, 0, 0, 0, 0, 1, 0, 9, 1, 0, 0, 0] ++ List.replicate 128 0

/-- A second Type0 header for the same key, which announces ten bytes. -/
def shorterHeader : Bytes := [3, 0, 0, 0, 0, 0, 10, 9, 1, 0, 0, 0]

/-- The subtraction of 128 from 10: it traps in one build, and in the other it
wraps, so that the decoder waits for a whole chunk. -/
theorem underflows_after_shorter_header :
    (∃ decoder buffer, Visited .on [.readChunk (openingChunk ++ shorterHeader)] decoder buffer ∧
      ¬ NoUnderflow .on decoder buffer) ∧
    (default.readChunk .on (openingChunk ++ shorterHeader)).1 =
      .error (.overflow .payloadRange) ∧
    (default.readChunk .off (openingChunk ++ shorterHeader)).1 = .ok none := by
  refine ⟨⟨_, _, ⟨[], _, [], rfl, .later (Iteration.eq_continues ?_) (.first _ _)⟩,
    fun safe => ?_⟩, ?_, ?_⟩
  · decide +kernel
  · have enough := safe ⟨.type0, 3⟩ 1 ⟨0, 10, .video, 1, false⟩
      ⟨by decide +kernel, 12, by decide +kernel⟩
    revert enough
    decide +kernel
  · decide +kernel
  · decide +kernel

end ChunkDecoder

end ScuffleVideo.Rtmp
