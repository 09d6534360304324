import ScuffleVideo.Rtmp.DecoderSteps

/-!
# The session's reading loop

After every read from the network the session takes chunks out of its buffer
until the decoder has no more.  A message that sets the chunk size takes effect
before the next chunk is read.
-/

namespace ScuffleVideo.Rtmp

open Wire Wire.Reader

/-- An error that ends the session. -/
inductive SessionError where
  | chunkDecode (fault : DecodeFault)
  | protocolControlMessage
  | invalidChunkSize (chunkSize : Nat)
  deriving DecidableEq, Repr

instance : Starving SessionError := ⟨.protocolControlMessage⟩

/-- The first four bytes of the payload; the rest is ignored. -/
def readSetChunkSize (data : Bytes) : Except SessionError UInt32 :=
  match (readU32 : Reader SessionError UInt32) data 0 with
  | .error error => .error error
  | .ok (chunkSize, _) => .ok chunkSize

namespace Session

def onSetChunkSize (decoder : ChunkDecoder) (chunkSize : Nat) :
    Except SessionError ChunkDecoder :=
  match decoder.updateMaxChunkSize chunkSize with
  | (true, decoder) => .ok decoder
  | (false, _) => .error (.invalidChunkSize chunkSize)

/-- What a returned chunk does to the decoder. -/
def processChunk (decoder : ChunkDecoder) (chunk : Chunk) : Except SessionError ChunkDecoder :=
  match chunk.messageHeader.msgTypeId with
  | .setChunkSize => do
      let chunkSize ← readSetChunkSize chunk.payload
      onSetChunkSize decoder chunkSize.toNat
  | _ => .ok decoder

/-- The returned chunks, and the error or the decoder and the unread bytes. -/
abbrev Outcome := List Chunk × Except SessionError (ChunkDecoder × Bytes)

def Outcome.prepend (chunk : Chunk) (outcome : Outcome) : Outcome :=
  (chunk :: outcome.1, outcome.2)

def parseChunksLoop (checks : OverflowChecks) : Nat → ChunkDecoder → Bytes → Outcome
  | 0, decoder, readBuf => ([], .ok (decoder, readBuf))
  | fuel + 1, decoder, readBuf =>
      match decoder.readChunk checks readBuf with
      | (.error fault, _, _) => ([], .error (.chunkDecode fault))
      | (.ok none, decoder, readBuf) => ([], .ok (decoder, readBuf))
      | (.ok (some chunk), decoder, readBuf) =>
          match processChunk decoder chunk with
          | .error error => ([chunk], .error error)
          | .ok decoder => .prepend chunk (parseChunksLoop checks fuel decoder readBuf)

/-- Every returned chunk has consumed a header byte. -/
def parseChunks (checks : OverflowChecks) (decoder : ChunkDecoder) (readBuf : Bytes) : Outcome :=
  parseChunksLoop checks (readBuf.length + 1) decoder readBuf

/-- Append the pieces to the read buffer one by one and parse after each of
them, until an error. -/
def receive (checks : OverflowChecks) (decoder : ChunkDecoder) (readBuf : Bytes) :
    List Bytes → Outcome
  | [] => ([], .ok (decoder, readBuf))
  | piece :: pieces =>
      match parseChunks checks decoder (readBuf ++ piece) with
      | (chunks, .error error) => (chunks, .error error)
      | (chunks, .ok (decoder, readBuf)) =>
          let rest := receive checks decoder readBuf pieces
          (chunks ++ rest.1, rest.2)

/-! ## The loop equation -/

theorem readChunk_some_lt {checks : OverflowChecks} {decoder next : ChunkDecoder}
    {buffer rest : Bytes} {chunk : Chunk}
    (call : decoder.readChunk checks buffer = (.ok (some chunk), next, rest)) :
    rest.length < buffer.length := by
  induction size : buffer.length using Nat.strongRecOn generalizing decoder buffer with
  | ind length ih =>
      cases round : decoder.iteration checks buffer with
      | returns result after left =>
          rw [ChunkDecoder.readChunk_of_returns round] at call
          cases call
          rw [← size]
          exact ChunkDecoder.iteration_returns_lt round
      | continues after left =>
          have shorter := ChunkDecoder.iteration_continues_lt round
          rw [ChunkDecoder.readChunk_of_continues round] at call
          have further := ih left.length (by omega) call rfl
          omega

theorem parseChunksLoop_fuel (checks : OverflowChecks) (readBuf : Bytes) :
    ∀ (decoder : ChunkDecoder) (fuel : Nat), readBuf.length < fuel →
      parseChunksLoop checks fuel decoder readBuf = parseChunks checks decoder readBuf := by
  induction size : readBuf.length using Nat.strongRecOn generalizing readBuf with
  | ind length ih =>
      subst size
      intro decoder fuel enough
      obtain ⟨fuel, rfl⟩ := Nat.exists_eq_add_of_lt enough
      unfold parseChunks
      simp only [parseChunksLoop]
      cases call : decoder.readChunk checks readBuf with
      | mk result after =>
          obtain ⟨next, rest⟩ := after
          cases result with
          | error fault => rfl
          | ok found =>
              cases found with
              | none => rfl
              | some chunk =>
                  have shorter := readChunk_some_lt call
                  dsimp only
                  cases processChunk next chunk with
                  | error error => rfl
                  | ok after =>
                      dsimp only
                      rw [ih _ shorter rest rfl after _ (by omega),
                        ih _ shorter rest rfl after _ shorter]

/-- The loop of `parseChunks`, chunk by chunk. -/
theorem parseChunks_eq (checks : OverflowChecks) (decoder : ChunkDecoder) (readBuf : Bytes) :
    parseChunks checks decoder readBuf =
      match decoder.readChunk checks readBuf with
      | (.error fault, _, _) => ([], .error (.chunkDecode fault))
      | (.ok none, next, rest) => ([], .ok (next, rest))
      | (.ok (some chunk), next, rest) =>
          match processChunk next chunk with
          | .error error => ([chunk], .error error)
          | .ok after => .prepend chunk (parseChunks checks after rest) := by
  conv_lhs => rw [parseChunks, parseChunksLoop]
  cases call : decoder.readChunk checks readBuf with
  | mk result after =>
      obtain ⟨next, rest⟩ := after
      cases result with
      | error fault => rfl
      | ok found =>
          cases found with
          | none => rfl
          | some chunk =>
              dsimp only
              cases processChunk next chunk with
              | error error => rfl
              | ok after =>
                  dsimp only
                  rw [parseChunksLoop_fuel checks rest after _ (readChunk_some_lt call)]

theorem parseChunks_of_continues {checks : OverflowChecks} {decoder next : ChunkDecoder}
    {readBuf rest : Bytes} (round : decoder.iteration checks readBuf = .continues next rest) :
    parseChunks checks decoder readBuf = parseChunks checks next rest := by
  rw [parseChunks_eq, ChunkDecoder.readChunk_of_continues round, ← parseChunks_eq]

end Session

end ScuffleVideo.Rtmp
