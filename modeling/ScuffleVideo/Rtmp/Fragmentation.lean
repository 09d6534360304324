import ScuffleVideo.Rtmp.Session
import ScuffleVideo.Wire.Incremental

/-!
# Network fragmentation

The header readers look at bytes through a cursor, and a round that finds too
few of them leaves the decoder as it was.  Bytes that arrive later therefore
change no decision already made, and the reading loop is an incremental machine:
the pieces in which its input arrives are unobservable.
-/

namespace ScuffleVideo.Rtmp

open Wire Wire.Reader

namespace ChunkDecoder

/-! ## Stability of the header readers -/

theorem readChunkStreamId_stable (csid : UInt32) : Stable (readChunkStreamId csid) := by
  unfold readChunkStreamId
  refine Stable.ite ?_ (Stable.ite ?_ (Stable.pure _))
  · exact Stable.readU8.bind fun _ => Stable.pure _
  · exact Stable.readU8.bind fun _ => Stable.readU8.bind fun _ => Stable.pure _

theorem readHeader_stable : Stable readHeader :=
  Stable.readU8.bind fun _ => (Stable.orFail _ _).bind fun _ =>
    (readChunkStreamId_stable _).bind fun _ => Stable.pure _

theorem readMsgLength_stable : Stable readMsgLength :=
  Stable.readU24.bind fun _ => Stable.ite (Stable.fail _) (Stable.pure _)

theorem readMsgTypeId_stable : Stable readMsgTypeId :=
  Stable.readU8.bind fun _ => Stable.orFail _ _

theorem readExtended_stable (field : UInt32) : Stable (readExtended field) :=
  Stable.ite (Stable.readU32.bind fun _ => Stable.pure _) (Stable.pure _)

theorem addTimestamp_stable (checks : OverflowChecks) (previous delta : UInt32) :
    Stable (addTimestamp checks previous delta) := by
  cases checks with
  | off => exact Stable.pure _
  | on => exact Stable.ite (Stable.pure _) (Stable.fail _)

theorem readMessageHeader_stable (checks : OverflowChecks) (decoder : ChunkDecoder)
    (header : ChunkBasicHeader) : Stable (decoder.readMessageHeader checks header) := by
  unfold readMessageHeader
  cases header.format with
  | type0 =>
      exact Stable.readU24.bind fun _ => readMsgLength_stable.bind fun _ =>
        readMsgTypeId_stable.bind fun _ => Stable.readU32LE.bind fun _ =>
          (readExtended_stable _).bind fun _ => Stable.pure _
  | type1 =>
      exact Stable.readU24.bind fun _ => readMsgLength_stable.bind fun _ =>
        readMsgTypeId_stable.bind fun _ => (readExtended_stable _).bind fun _ =>
          (Stable.orFail _ _).bind fun _ => Stable.pure _
  | type2 =>
      exact Stable.readU24.bind fun _ => (readExtended_stable _).bind fun _ =>
        (Stable.orFail _ _).bind fun _ => (addTimestamp_stable _ _ _).bind fun _ =>
          Stable.pure _
  | type3 =>
      exact (Stable.orFail _ _).bind fun _ =>
        Stable.ite (Stable.readU32.bind fun _ => Stable.pure _) (Stable.pure _)

theorem remainingLength_stable (checks : OverflowChecks) (msgLength received : Nat) :
    Stable (remainingLength checks msgLength received) := by
  cases checks with
  | off => exact Stable.pure _
  | on => exact Stable.ite (Stable.pure _) (Stable.fail _)

theorem getPayloadRange_stable (checks : OverflowChecks) (decoder : ChunkDecoder)
    (header : ChunkBasicHeader) (messageHeader : ChunkMessageHeader) :
    Stable (decoder.getPayloadRange checks header messageHeader) :=
  (remainingLength_stable _ _ _).bind fun _ => Stable.tell.bind fun _ =>
    (Stable.seek _).bind fun _ => Stable.pure _

theorem readFrame_stable (checks : OverflowChecks) (decoder : ChunkDecoder) :
    Stable (decoder.readFrame checks) :=
  readHeader_stable.bind fun _ => (readMessageHeader_stable _ _ _).bind fun _ =>
    (getPayloadRange_stable _ _ _ _).bind fun _ => Stable.pure _

/-! ## Stability of a round -/

end ChunkDecoder

/-- A round with more bytes after its buffer. -/
def Iteration.append (after : Bytes) : Iteration → Iteration
  | .returns result decoder buffer => .returns result decoder (buffer ++ after)
  | .continues decoder buffer => .continues decoder (buffer ++ after)

namespace ChunkDecoder

theorem extendPartial_append (decoder : ChunkDecoder) (header : ChunkBasicHeader)
    (messageHeader : ChunkMessageHeader) (key : UInt32 × UInt32)
    (partialChunk payload buffer after : Bytes) :
    decoder.extendPartial header messageHeader key partialChunk payload (buffer ++ after) =
      (decoder.extendPartial header messageHeader key partialChunk payload buffer).append
        after := by
  unfold extendPartial
  by_cases large : Limits.maxPartialChunkSize < partialChunk.length + payload.length
  · rw [if_pos large, if_pos large]
    rfl
  · rw [if_neg large, if_neg large]
    dsimp only
    by_cases whole : (partialChunk ++ payload).length = messageHeader.msgLength.toNat
    · rw [if_pos whole, if_pos whole]
      rfl
    · rw [if_neg whole, if_neg whole]
      rfl

theorem storeChunk_append (decoder : ChunkDecoder) (header : ChunkBasicHeader)
    (messageHeader : ChunkMessageHeader) (payload buffer after : Bytes) :
    decoder.storeChunk header messageHeader payload (buffer ++ after) =
      (decoder.storeChunk header messageHeader payload buffer).append after := by
  unfold storeChunk
  by_cases full : Limits.maxPreviousChunkHeaders < decoder.headerCount header.chunkStreamId
  · rw [if_pos full, if_pos full]
    rfl
  · rw [if_neg full, if_neg full]
    dsimp only
    by_cases size : payload.length = messageHeader.msgLength.toNat
    · rw [if_pos size, if_pos size]
      rfl
    · rw [if_neg size, if_neg size]
      cases (decoder.insertHeader header.chunkStreamId messageHeader).openPartial
          (header.chunkStreamId, messageHeader.msgStreamId) with
      | none => rfl
      | some slot => exact extendPartial_append _ _ _ _ _ _ _ _

/-- A round that does not wait for more bytes is the same with more bytes. -/
theorem iteration_stable (checks : OverflowChecks) (decoder : ChunkDecoder)
    (buffer after : Bytes) :
    decoder.iteration checks buffer = .returns (.ok none) decoder buffer ∨
      decoder.iteration checks (buffer ++ after) =
        (decoder.iteration checks buffer).append after := by
  rcases readFrame_stable checks decoder buffer after 0 with starved | same
  · left
    rw [iteration, starved]
    rfl
  · unfold iteration
    rw [same]
    cases decoder.readFrame checks buffer 0 with
    | error fault =>
        cases fault with
        | none => exact .inl rfl
        | some fault => exact .inr rfl
    | ok pair =>
        obtain ⟨frame, position⟩ := pair
        dsimp only
        by_cases beyond : position > buffer.length
        · rw [if_pos beyond]
          exact .inl rfl
        · right
          have within : position ≤ buffer.length := Nat.le_of_not_lt beyond
          have still : ¬ position > (buffer ++ after).length := by
            rw [List.length_append]
            omega
          rw [if_neg beyond, if_neg still, List.take_append_of_le_length within,
            List.drop_append_of_le_length within, storeChunk_append]

end ChunkDecoder

/-! ## The session as an incremental machine -/

namespace Session

/-- What a round means to the session: the rest of its buffer is left unread. -/
def progress (buffer : Bytes) : Iteration → Progress ChunkDecoder Chunk SessionError
  | .returns (.ok none) _ _ => .starved
  | .returns (.error fault) _ _ => .fault [] (.chunkDecode fault)
  | .returns (.ok (some chunk)) decoder rest =>
      match processChunk decoder chunk with
      | .error error => .fault [chunk] error
      | .ok decoder => .advance decoder (buffer.length - rest.length) [chunk]
  | .continues decoder rest => .advance decoder (buffer.length - rest.length) []

/-- Only a returned chunk and an unfinished message let the session go on. -/
theorem progress_eq_advance {buffer : Bytes} {round : Iteration} {next : ChunkDecoder}
    {count : Nat} {output : List Chunk}
    (step : progress buffer round = .advance next count output) :
    count = buffer.length - round.buffer.length ∧
      ((∃ chunk decoder rest, round = .returns (.ok (some chunk)) decoder rest) ∨
        ∃ decoder rest, round = .continues decoder rest) := by
  cases round with
  | continues decoder rest =>
      cases step
      exact ⟨rfl, .inr ⟨_, _, rfl⟩⟩
  | returns result decoder rest =>
      cases result with
      | error fault => cases step
      | ok found =>
          cases found with
          | none => cases step
          | some chunk =>
              dsimp only [progress] at step
              cases processed : processChunk decoder chunk with
              | error error =>
                  rw [processed] at step
                  cases step
              | ok after =>
                  rw [processed] at step
                  cases step
                  exact ⟨rfl, .inl ⟨_, _, _, rfl⟩⟩

theorem progress_drops {checks : OverflowChecks} {decoder next : ChunkDecoder} {buffer : Bytes}
    {count : Nat} {output : List Chunk}
    (step : progress buffer (decoder.iteration checks buffer) = .advance next count output) :
    0 < count ∧ count ≤ buffer.length ∧
      (decoder.iteration checks buffer).buffer = buffer.drop count := by
  obtain ⟨counted, goesOn⟩ := progress_eq_advance step
  rcases ChunkDecoder.iteration_drops checks decoder buffer with ⟨result, stopped, other⟩ |
      ⟨position, positive, within, left⟩
  · exfalso
    rcases goesOn with ⟨chunk, after, rest, returned⟩ | ⟨after, rest, continued⟩
    · rw [stopped] at returned
      cases returned
      exact other chunk rfl
    · rw [stopped] at continued
      cases continued
  · rw [left, List.length_drop] at counted
    obtain rfl : count = position := by omega
    exact ⟨positive, within, left⟩

theorem progress_append (buffer after : Bytes) (round : Iteration) :
    progress (buffer ++ after) (round.append after) = progress buffer round := by
  have sizes (rest : Bytes) : (buffer ++ after).length - (rest ++ after).length =
      buffer.length - rest.length := by
    rw [List.length_append, List.length_append]
    exact Nat.add_sub_add_right _ _ _
  cases round with
  | continues decoder rest =>
      simp only [Iteration.append, progress, sizes]
  | returns result decoder rest =>
      cases result with
      | error fault => rfl
      | ok found =>
          cases found with
          | none => rfl
          | some chunk => simp only [Iteration.append, progress, sizes]

/-- The reading loop as a machine. -/
def machine (checks : OverflowChecks) : Machine ChunkDecoder UInt8 Chunk SessionError where
  step decoder buffer := progress buffer (decoder.iteration checks buffer)
  positive step := (progress_drops step).1
  present step := (progress_drops step).2.1
  waits _ := rfl
  stable decoder buffer after := by
    rcases ChunkDecoder.iteration_stable checks decoder buffer after with waiting | same
    · left
      rw [waiting]
      rfl
    · right
      rw [same, progress_append]

/-- A machine's status as the outcome of a parse. -/
def outcome (status : List Chunk × Status ChunkDecoder UInt8 SessionError) : Outcome :=
  match status with
  | (chunks, .waiting decoder unread) => (chunks, .ok (decoder, unread))
  | (chunks, .halted error) => (chunks, .error error)

theorem outcome_append (chunks : List Chunk)
    (status : List Chunk × Status ChunkDecoder UInt8 SessionError) :
    outcome (chunks ++ status.1, status.2) =
      (chunks ++ (outcome status).1, (outcome status).2) := by
  obtain ⟨further, status⟩ := status
  cases status <;> rfl

/-- Parsing the buffer is draining the machine. -/
theorem parseChunks_eq_drain (checks : OverflowChecks) (decoder : ChunkDecoder)
    (buffer : Bytes) :
    parseChunks checks decoder buffer = outcome ((machine checks).drain decoder buffer) := by
  induction size : buffer.length using Nat.strongRecOn generalizing decoder buffer with
  | ind length ih =>
      cases round : decoder.iteration checks buffer with
      | continues next rest =>
          have step : (machine checks).step decoder buffer =
              .advance next (buffer.length - rest.length) [] := by
            change progress buffer (decoder.iteration checks buffer) = _
            rw [round]
            rfl
          have left := (progress_drops step).2.2
          rw [round] at left
          have shorter := ChunkDecoder.iteration_continues_lt round
          rw [parseChunks_of_continues round, Machine.drain_advance step, ← left,
            ih rest.length (by omega) next rest rfl]
          rfl
      | returns result next rest =>
          rw [parseChunks_eq, ChunkDecoder.readChunk_of_returns round]
          cases result with
          | error fault =>
              have step : (machine checks).step decoder buffer =
                  .fault [] (.chunkDecode fault) := by
                change progress buffer (decoder.iteration checks buffer) = _
                rw [round]
                rfl
              rw [Machine.drain_fault step]
              rfl
          | ok found =>
              cases found with
              | none =>
                  have step : (machine checks).step decoder buffer = .starved := by
                    change progress buffer (decoder.iteration checks buffer) = _
                    rw [round]
                    rfl
                  obtain ⟨rfl, rfl⟩ := ChunkDecoder.iteration_waits round
                  rw [Machine.drain_starved step]
                  rfl
              | some chunk =>
                  dsimp only
                  cases processed : processChunk next chunk with
                  | error error =>
                      have step : (machine checks).step decoder buffer = .fault [chunk] error := by
                        change progress buffer (decoder.iteration checks buffer) = _
                        rw [round]
                        simp only [progress, processed]
                      rw [Machine.drain_fault step]
                      rfl
                  | ok after =>
                      have step : (machine checks).step decoder buffer =
                          .advance after (buffer.length - rest.length) [chunk] := by
                        change progress buffer (decoder.iteration checks buffer) = _
                        rw [round]
                        simp only [progress, processed]
                      have left := (progress_drops step).2.2
                      rw [round] at left
                      have shorter := ChunkDecoder.iteration_returns_lt round
                      rw [Machine.drain_advance step, ← left]
                      dsimp only
                      rw [ih rest.length (by omega) after rest rfl]
                      exact (outcome_append [chunk] _).symm

/-- Receiving pieces is feeding the machine. -/
theorem receive_eq_feed (checks : OverflowChecks) (pieces : List Bytes) :
    ∀ (decoder : ChunkDecoder) (readBuf : Bytes),
      receive checks decoder readBuf pieces =
        outcome ((machine checks).feed decoder readBuf pieces) := by
  induction pieces with
  | nil =>
      intro decoder readBuf
      rfl
  | cons piece pieces ih =>
      intro decoder readBuf
      rw [receive, Machine.feed, parseChunks_eq_drain]
      cases (machine checks).drain decoder (readBuf ++ piece) with
      | mk chunks status =>
          cases status with
          | halted error => rfl
          | waiting next left =>
              change (chunks ++ (receive checks next left pieces).1,
                (receive checks next left pieces).2) = _
              rw [ih next left]
              exact (outcome_append chunks _).symm

/-- However a byte string is cut into pieces, a new session returns the same
chunks and ends with the same error, or without one in the same decoder state
and with the same bytes unread. -/
theorem receive_pieces_eq_whole (checks : OverflowChecks) (pieces : List Bytes) :
    receive checks ChunkDecoder.default [] pieces =
      receive checks ChunkDecoder.default [] [pieces.flatten] := by
  rw [receive_eq_feed, receive_eq_feed, Machine.feed_nil_eq_drain, Machine.feed_nil_eq_drain,
    List.flatten_singleton]

end Session

end ScuffleVideo.Rtmp
