import ScuffleVideo.Rtmp.ServerSession

/-!
# The handshake phase of a session

Each round of the handshake makes room for C0 and C1, reads until the room is filled,
runs the handshake on everything in the buffer, and drops what the handshake has not
used unless it is finished.  No read goes beyond the room, so a round takes the same
bytes however they arrive.  A read that delivers nothing is counted as nothing and
tried again, so a stream that ends inside a round is read forever.
-/

namespace ScuffleVideo.Rtmp.Server

open Wire Handshake

/-- A read into so much room, from a peer that has sent the pieces and then closed the
connection.  What the first piece holds beyond the room stays for the next read. -/
def nextRead (room : Nat) : List Bytes → Bytes × List Bytes
  | [] => ([], [])
  | piece :: pieces =>
      if piece.length ≤ room then (piece, pieces)
      else (piece.take room, piece.drop room :: pieces)

/-- The bytes a round of the handshake makes room for and waits for. -/
def readSize : Nat := rtmpHandshakeSize + 1

/-- A round of the handshake: the session and the server after it, the pieces that
have not been read, and whether the handshake is finished. -/
structure HandshakeRound where
  session : Session
  handshaker : HandshakeServer
  pieces : List Bytes
  result : Except SessionError Bool

namespace Session

/-- The reading loop, for at most `limit` reads.  The room that is left is that for the
bytes which are still missing. -/
def fill : Nat → Nat → Bytes → List Bytes → Option (Bytes × List Bytes)
  | 0, bytesRead, readBuf, pieces =>
      if bytesRead < readSize then none else some (readBuf, pieces)
  | limit + 1, bytesRead, readBuf, pieces =>
      if bytesRead < readSize then
        let read := nextRead (readSize - bytesRead) pieces
        fill limit (bytesRead + read.1.length) (readBuf ++ read.1) read.2
      else some (readBuf, pieces)

variable (surroundings : Surroundings)

/-- What a round does with the bytes it has read. -/
def shakeHands (session : Session) (handshaker : HandshakeServer) (readBuf : Bytes)
    (pieces : List Bytes) : HandshakeRound :=
  let session := { session with readBuf := [] }
  match handshaker.handshake surroundings readBuf 0 with
  | .error fault => ⟨session, handshaker, pieces, .error (.handshake fault)⟩
  | .ok ((handshaker, output), stop) =>
      let session := { session with writeBuf := session.writeBuf ++ output }
      if handshaker.state = .finish then
        let overRead := readBuf.drop stop
        let session :=
          if overRead.isEmpty then session
          else { session with skipRead := true, readBuf := session.readBuf ++ overRead }
        match session.sendSetChunkSize with
        | (session, .ok ()) => ⟨session, handshaker, pieces, .ok true⟩
        | (session, .error error) => ⟨session, handshaker, pieces, .error error⟩
      else ⟨session, handshaker, pieces, .ok false⟩

/-- There is no round while the reading loop has not ended. -/
def doHandshake (limit : Nat) (session : Session) (handshaker : HandshakeServer)
    (pieces : List Bytes) : Option HandshakeRound := do
  let (readBuf, pieces) ← fill limit 0 session.readBuf pieces
  return session.shakeHands surroundings handshaker readBuf pieces

/-- The handshake loop of `run`, for at most `limit` reads in each of its rounds.
It ends with the session for the next phase or with an error. -/
def handshakeLoop (limit : Nat) :
    Nat → (Nat → Except IoFailure Unit) → Session → HandshakeServer → List Bytes →
      Option (Except SessionError Session)
  | 0, _, _, _, _ => none
  | rounds + 1, flushes, session, handshaker, pieces =>
      match session.doHandshake surroundings limit handshaker pieces with
      | none => none
      | some ⟨_, _, _, .error error⟩ => some (.error error)
      | some ⟨session, _, _, .ok true⟩ => some (.ok session)
      | some ⟨session, handshaker, pieces, .ok false⟩ =>
          match session.flush (flushes 0) with
          | (_, .error error) => some (.error error)
          | (session, .ok ()) =>
              handshakeLoop limit rounds (fun index => flushes (index + 1)) session handshaker
                pieces

/-- The handshake phase of a new session, for at most `limit` rounds and reads. -/
def runHandshake (limit : Nat) (flushes : Nat → Except IoFailure Unit) (pieces : List Bytes) :
    Option (Except SessionError Session) :=
  handshakeLoop surroundings limit limit flushes new HandshakeServer.default pieces

/-! ## One round -/

theorem fill_of_enough {bytesRead : Nat} (enough : readSize ≤ bytesRead) (limit : Nat)
    (readBuf : Bytes) (pieces : List Bytes) :
    fill limit bytesRead readBuf pieces = some (readBuf, pieces) := by
  cases limit with
  | zero => exact if_neg (Nat.not_lt.mpr enough)
  | succ limit => exact if_neg (Nat.not_lt.mpr enough)

/-- A read of a piece for which there is room. -/
theorem fill_whole {bytesRead : Nat} (waiting : bytesRead < readSize) {piece : Bytes}
    (room : piece.length ≤ readSize - bytesRead) (limit : Nat) (readBuf : Bytes)
    (pieces : List Bytes) :
    fill (limit + 1) bytesRead readBuf (piece :: pieces) =
      fill limit (bytesRead + piece.length) (readBuf ++ piece) pieces := by
  rw [fill, if_pos waiting, nextRead, if_pos room]

/-- A read of a piece that fills the room and goes beyond it. -/
theorem fill_cut {bytesRead : Nat} (waiting : bytesRead < readSize) {piece : Bytes}
    (beyond : readSize - bytesRead < piece.length) (limit : Nat) (readBuf : Bytes)
    (pieces : List Bytes) :
    fill (limit + 1) bytesRead readBuf (piece :: pieces) =
      some (readBuf ++ piece.take (readSize - bytesRead),
        piece.drop (readSize - bytesRead) :: pieces) := by
  rw [fill, if_pos waiting, nextRead, if_neg (Nat.not_le.mpr beyond)]
  apply fill_of_enough
  rw [List.length_take_of_le (Nat.le_of_lt beyond)]
  omega

/-- The loop takes the bytes it waits for off the front of the stream, unless it has too
few reads. -/
theorem fill_takes {needed bytesRead : Nat} (missing : needed = readSize - bytesRead)
    {pieces : List Bytes} (present : needed ≤ pieces.flatten.length) (limit : Nat)
    (readBuf : Bytes) :
    (fill limit bytesRead readBuf pieces = none ∧ limit < pieces.length) ∨
      ∃ rest, fill limit bytesRead readBuf pieces =
          some (readBuf ++ pieces.flatten.take needed, rest) ∧
        rest.flatten = pieces.flatten.drop needed ∧ rest.length ≤ pieces.length := by
  rcases Nat.eq_zero_or_pos needed with none | some
  · refine .inr ⟨pieces, ?_, ?_, Nat.le_refl _⟩
    · rw [fill_of_enough (by omega), none, List.take_zero, List.append_nil]
    · rw [none, List.drop_zero]
  induction pieces generalizing needed bytesRead limit readBuf with
  | nil => exact absurd present (Nat.not_le.mpr some)
  | cons piece pieces ih =>
      have waiting : bytesRead < readSize := by omega
      rw [List.flatten_cons, List.length_append] at present
      rw [List.flatten_cons]
      cases limit with
      | zero => exact .inl ⟨if_pos waiting, Nat.succ_pos _⟩
      | succ limit =>
          by_cases room : piece.length ≤ needed
          · rw [fill_whole waiting (missing ▸ room)]
            rw [List.take_append, List.drop_append, List.take_of_length_le room,
              List.drop_of_length_le room, ← List.append_assoc, List.nil_append]
            rcases Nat.eq_zero_or_pos (needed - piece.length) with filled | more
            · refine .inr ⟨pieces, ?_, by rw [filled, List.drop_zero], Nat.le_succ _⟩
              rw [fill_of_enough (by omega), filled, List.take_zero, List.append_nil]
            · rcases @ih (needed - piece.length) (bytesRead + piece.length) (by omega) (by omega)
                limit (readBuf ++ piece) more with ⟨unfinished, few⟩ | ⟨rest, done, left, fewer⟩
              · exact .inl ⟨unfinished, Nat.succ_lt_succ few⟩
              · exact .inr ⟨rest, done, left, Nat.le_succ_of_le fewer⟩
          · have beyond := Nat.lt_of_not_le room
            refine .inr ⟨piece.drop needed :: pieces, ?_, ?_, Nat.le_refl _⟩
            · rw [fill_cut waiting (missing ▸ beyond), ← missing,
                List.take_append_of_le_length (Nat.le_of_lt beyond)]
            · rw [List.flatten_cons, List.drop_append_of_le_length (Nat.le_of_lt beyond)]

/-- On a stream of too few bytes the loop does not end. -/
theorem fill_of_short {bytesRead : Nat} {pieces : List Bytes}
    (short : bytesRead + pieces.flatten.length < readSize) (limit : Nat) (readBuf : Bytes) :
    fill limit bytesRead readBuf pieces = none := by
  induction limit generalizing bytesRead readBuf pieces with
  | zero => exact if_pos (by omega)
  | succ limit ih =>
      have waiting : bytesRead < readSize := by omega
      cases pieces with
      | nil =>
          rw [fill, if_pos waiting]
          exact ih short _
      | cons piece pieces =>
          rw [List.flatten_cons, List.length_append] at short
          rw [fill_whole waiting (by omega)]
          exact ih (by omega) _

section Phase

variable {surroundings : Surroundings} {session : Session} {handshaker : HandshakeServer}
  {pieces : List Bytes} {limit rounds : Nat} {flushes : Nat → Except IoFailure Unit}

theorem doHandshake_of_short (short : pieces.flatten.length < readSize) (limit : Nat) :
    session.doHandshake surroundings limit handshaker pieces = none := by
  rw [doHandshake, fill_of_short (by omega)]
  rfl

/-- The first round answers and waits for C2. -/
theorem doHandshake_first (present : readSize ≤ pieces.flatten.length) (limit : Nat) :
    (session.doHandshake surroundings limit HandshakeServer.default pieces = none ∧
        limit < pieces.length) ∨
      ∃ next waiting rest, next.writeBuf ≠ [] ∧ waiting.state = .readC2 ∧
        rest.flatten = pieces.flatten.drop readSize ∧ rest.length ≤ pieces.length ∧
        session.doHandshake surroundings limit HandshakeServer.default pieces =
          some ⟨next, waiting, rest, .ok false⟩ := by
  rcases fill_takes (Nat.sub_zero _).symm present limit session.readBuf with
    ⟨unfinished, few⟩ | ⟨rest, done, left, fewer⟩
  · refine .inl ⟨?_, few⟩
    rw [doHandshake, unfinished]
    rfl
  · have enough : rtmpHandshakeSize + 1 ≤
        (session.readBuf ++ pieces.flatten.take readSize).length := by
      rw [List.length_append, List.length_take_of_le present]
      exact Nat.le_add_left _ _
    obtain ⟨server, s1, s2, answered, waits, _⟩ :=
      @HandshakeServer.handshake_first surroundings _ enough
    refine .inr ⟨{ session with
      readBuf := [], writeBuf := session.writeBuf ++ ([3] ++ s1 ++ s2) }, server, rest, ?_, waits,
      left, fewer, ?_⟩
    · intro empty
      cases (List.append_eq_nil_iff.mp empty).2
    · have notFinished : ¬ server.state = .finish := by simp [waits]
      rw [doHandshake, done]
      change some (session.shakeHands surroundings HandshakeServer.default _ rest) = _
      rw [shakeHands, answered]
      dsimp only
      rw [if_neg notFinished]

/-- The second round finishes, whatever the client has sent. -/
theorem doHandshake_second (waits : handshaker.state = .readC2)
    (present : readSize ≤ pieces.flatten.length) (spare : pieces.length ≤ limit) :
    ∃ next finished rest ended, session.doHandshake surroundings limit handshaker pieces =
      some ⟨next, finished, rest, ended⟩ ∧ ended ≠ .ok false := by
  rcases fill_takes (Nat.sub_zero _).symm present limit session.readBuf with
    ⟨unfinished, few⟩ | ⟨rest, done, _, _⟩
  · omega
  · obtain ⟨finished, passed, isFinished⟩ :=
      @HandshakeServer.handshake_second surroundings handshaker waits
        (session.readBuf ++ pieces.flatten.take readSize)
    have outcome : ∃ next ended, session.shakeHands surroundings handshaker
        (session.readBuf ++ pieces.flatten.take readSize) rest = ⟨next, finished, rest, ended⟩ ∧
          ended ≠ .ok false := by
      rw [shakeHands, passed]
      dsimp only
      rw [if_pos isFinished]
      split
      · exact ⟨_, _, rfl, nofun⟩
      · exact ⟨_, _, rfl, nofun⟩
    obtain ⟨next, ended, same, notOpen⟩ := outcome
    refine ⟨next, finished, rest, ended, ?_, notOpen⟩
    rw [doHandshake, done]
    exact congrArg some same

theorem flush_of_error {failure : IoFailure} (written : session.writeBuf ≠ []) :
    session.flush (.error failure) = (session, .error failure.error) :=
  if_neg fun empty => written (List.isEmpty_iff.mp empty)

theorem flush_of_ok (session : Session) : ∃ flushed, session.flush (.ok ()) = (flushed, .ok ()) := by
  unfold flush
  split
  · exact ⟨_, rfl⟩
  · exact ⟨_, rfl⟩

/-- A phase whose second round has enough bytes ends in it. -/
theorem handshakeLoop_second (waits : handshaker.state = .readC2)
    (present : readSize ≤ pieces.flatten.length) (spare : pieces.length ≤ limit) :
    handshakeLoop surroundings limit (rounds + 1) flushes session handshaker pieces ≠ none := by
  obtain ⟨next, finished, rest, ended, same, notOpen⟩ :=
    @doHandshake_second surroundings session handshaker pieces limit waits present spare
  rw [handshakeLoop, same]
  cases ended with
  | error error => nofun
  | ok done =>
      cases done with
      | true => nofun
      | false => exact absurd rfl notOpen

theorem handshakeLoop_of_short (short : pieces.flatten.length < readSize) (rounds : Nat) :
    handshakeLoop surroundings limit rounds flushes session handshaker pieces = none := by
  cases rounds with
  | zero => rfl
  | succ rounds => rw [handshakeLoop, doHandshake_of_short short]

/-- A phase whose second round has too few bytes does not end. -/
theorem runHandshake_of_short (present : readSize ≤ pieces.flatten.length)
    (written : ¬ ∃ failure, flushes 0 = .error failure)
    (short : pieces.flatten.length < 2 * readSize) (limit : Nat) :
    runHandshake surroundings limit flushes pieces = none := by
  cases limit with
  | zero => rfl
  | succ rounds =>
      rw [runHandshake, handshakeLoop]
      rcases @doHandshake_first surroundings new pieces present (rounds + 1) with
        ⟨unfinished, _⟩ | ⟨next, waiting, rest, _, _, left, _, same⟩
      · rw [unfinished]
      · rw [same]
        dsimp only
        cases flushed : flushes 0 with
        | error failure => exact absurd ⟨failure, flushed⟩ written
        | ok done =>
            obtain ⟨emptied, passed⟩ := flush_of_ok next
            rw [passed]
            have few : rest.flatten.length < readSize := by
              rw [left, List.length_drop]
              omega
            exact handshakeLoop_of_short few rounds

/-- A phase ends when writing its answer fails or its second round has enough bytes. -/
theorem runHandshake_of_enough (present : readSize ≤ pieces.flatten.length)
    (reason : (∃ failure, flushes 0 = .error failure) ∨ 2 * readSize ≤ pieces.flatten.length) :
    runHandshake surroundings (pieces.length + 2) flushes pieces ≠ none := by
  rw [runHandshake, handshakeLoop]
  rcases @doHandshake_first surroundings new pieces present (pieces.length + 2) with
    ⟨_, few⟩ | ⟨next, waiting, rest, answered, waits, left, fewer, same⟩
  · omega
  · rw [same]
    dsimp only
    cases flushed : flushes 0 with
    | error failure =>
        rw [flush_of_error answered]
        nofun
    | ok done =>
        have enough : readSize ≤ rest.flatten.length := by
          rcases reason with ⟨failure, failed⟩ | enough
          · rw [flushed] at failed
            cases failed
          · rw [left, List.length_drop]
            omega
        obtain ⟨emptied, passed⟩ := flush_of_ok next
        rw [passed]
        exact handshakeLoop_second waits enough (by omega)

/-- The handshake phase ends exactly when the client sends the bytes of C0 and C1, and then
writing the answer fails or the client sends as many bytes again.  How they are cut into
pieces does not matter. -/
theorem runHandshake_ends_iff (surroundings : Surroundings)
    (flushes : Nat → Except IoFailure Unit) (pieces : List Bytes) :
    (∃ limit, runHandshake surroundings limit flushes pieces ≠ none) ↔
      readSize ≤ pieces.flatten.length ∧
        ((∃ failure, flushes 0 = .error failure) ∨ 2 * readSize ≤ pieces.flatten.length) := by
  constructor
  · rintro ⟨limit, ended⟩
    have present : readSize ≤ pieces.flatten.length := by
      by_contra short
      exact ended (handshakeLoop_of_short (Nat.lt_of_not_le short) limit)
    refine ⟨present, ?_⟩
    by_contra neither
    obtain ⟨written, short⟩ := not_or.mp neither
    exact ended (runHandshake_of_short present written (Nat.lt_of_not_le short) limit)
  · rintro ⟨present, reason⟩
    exact ⟨_, runHandshake_of_enough present reason⟩

/-- A peer that closes the connection at once leaves the phase reading. -/
theorem runHandshake_closed_unfinished :
    ¬ ∃ limit, runHandshake ⟨fun _ _ => Vector.replicate 32 0, 0, 0, fun _ => 0, fun _ => 0⟩ limit
      (fun _ => .ok ()) [] ≠ none := by
  rintro ⟨limit, ended⟩
  exact ended (handshakeLoop_of_short (by decide) limit)

end Phase

end Session

end ScuffleVideo.Rtmp.Server
