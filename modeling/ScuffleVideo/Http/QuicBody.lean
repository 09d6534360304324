import ScuffleVideo.Wire.ByteOrder

/-!
# The body of a request over QUIC

A request body is polled for frames.  It polls the stream below it for data until the peer
has no more, and then once for the trailers; before the trailers it polls for data again,
because the peer must not send any.  The stream answers as it likes: chunks of any size, the
end of the data, errors and `Pending` in any order.  A script holds the answers that are to
come, and a stream whose script is used up is pending.

`Polled` says what one poll can do: the answers it takes, what it returns and the state it
leaves.  Everything about whole runs follows from its cases.
-/

namespace ScuffleVideo.Http

open Wire (Bytes)

inductive Poll (α : Type) where
  | ready (value : α)
  | pending
  deriving DecidableEq, Repr

/-- What `poll_recv_data` answers. -/
inductive DataAnswer (ε : Type) where
  | chunk (data : Bytes)
  | finished
  | failed (error : ε)
  | pending
  deriving DecidableEq, Repr

/-- What `recv_trailers` answers when it is polled. -/
inductive TrailersAnswer (ε τ : Type) where
  | trailers (fields : τ)
  | absent
  | failed (error : ε)
  | pending
  deriving DecidableEq, Repr

structure RequestStream (ε τ : Type) where
  data : List (DataAnswer ε)
  trailers : List (TrailersAnswer ε τ)
  deriving DecidableEq, Repr

inductive H3Error (ε : Type) where
  | frameUnexpected
  | stream (error : ε)
  deriving DecidableEq, Repr

inductive Frame (τ : Type) where
  | data (bytes : Bytes)
  | trailers (fields : τ)
  deriving DecidableEq, Repr

structure SizeHint where
  lower : Nat
  upper : Option Nat
  deriving DecidableEq, Repr

def SizeHint.withExact (size : Nat) : SizeHint := ⟨size, some size⟩

def SizeHint.default : SizeHint := ⟨0, none⟩

/-- What the body still expects: data, of which a declared number of bytes may be left, the
trailers, or nothing. -/
inductive State where
  | data (remaining : Option Nat)
  | trailers
  | done
  deriving DecidableEq, Repr

variable {ε τ : Type}

abbrev Polling (ε τ : Type) := Poll (Option (Except (H3Error ε) (Frame τ)))

namespace RequestStream

def pollRecvData (stream : RequestStream ε τ) : DataAnswer ε × RequestStream ε τ :=
  match stream.data with
  | [] => (.pending, stream)
  | answer :: answers => (answer, { stream with data := answers })

def recvTrailers (stream : RequestStream ε τ) : TrailersAnswer ε τ × RequestStream ε τ :=
  match stream.trailers with
  | [] => (.pending, stream)
  | answer :: answers => (answer, { stream with trailers := answers })

end RequestStream

structure QuicIncomingBody (ε τ : Type) where
  stream : RequestStream ε τ
  state : State
  deriving DecidableEq, Repr

namespace QuicIncomingBody

def new (stream : RequestStream ε τ) (sizeHint : Option Nat) : QuicIncomingBody ε τ :=
  ⟨stream, .data sizeHint⟩

/-- The part of `poll_frame` behind the data.  The trailers are polled only once, so that
pending ones count as absent. -/
def pollTrailers (stream : RequestStream ε τ) : Polling ε τ × QuicIncomingBody ε τ :=
  match stream.pollRecvData with
  | (.finished, stream) =>
      match stream.recvTrailers with
      | (.trailers fields, stream) => (.ready (some (.ok (.trailers fields))), ⟨stream, .done⟩)
      | (.pending, stream) => (.ready none, ⟨stream, .done⟩)
      | (.absent, stream) => (.ready none, ⟨stream, .done⟩)
      | (.failed error, stream) => (.ready (some (.error (.stream error))), ⟨stream, .done⟩)
  | (.chunk _, stream) => (.ready (some (.error .frameUnexpected)), ⟨stream, .done⟩)
  | (.failed error, stream) => (.ready (some (.error (.stream error))), ⟨stream, .done⟩)
  | (.pending, stream) => (.pending, ⟨stream, .trailers⟩)

/-- The part of `poll_frame` for a chunk. -/
def acceptChunk (stream : RequestStream ε τ) (remaining : Option Nat) (buf : Bytes) :
    Polling ε τ × QuicIncomingBody ε τ :=
  match remaining with
  | some remaining =>
      if buf.length > remaining then (.ready (some (.error .frameUnexpected)), ⟨stream, .done⟩)
      else (.ready (some (.ok (.data buf))), ⟨stream, .data (some (remaining - buf.length))⟩)
  | none => (.ready (some (.ok (.data buf))), ⟨stream, .data none⟩)

def pollFrame (body : QuicIncomingBody ε τ) : Polling ε τ × QuicIncomingBody ε τ :=
  match body.state with
  | .done => (.ready none, body)
  | .trailers => pollTrailers body.stream
  | .data remaining =>
      match body.stream.pollRecvData with
      | (.chunk buf, stream) => acceptChunk stream remaining buf
      | (.finished, stream) => pollTrailers stream
      | (.failed error, stream) => (.ready (some (.error (.stream error))), ⟨stream, .done⟩)
      | (.pending, stream) => (.pending, ⟨stream, .data remaining⟩)

def sizeHint (body : QuicIncomingBody ε τ) : SizeHint :=
  match body.state with
  | .data (some remaining) => .withExact remaining
  | .data none => .default
  | .trailers | .done => .withExact 0

def isEndStream (body : QuicIncomingBody ε τ) : Bool :=
  match body.state with
  | .data (some 0) | .trailers | .done => true
  | .data _ => false

/-- So many polls, one after the other. -/
def polls : Nat → QuicIncomingBody ε τ → List (Polling ε τ) × QuicIncomingBody ε τ
  | 0, body => ([], body)
  | count + 1, body =>
      let (output, next) := body.pollFrame
      let (outputs, last) := polls count next
      (output :: outputs, last)

end QuicIncomingBody

/-! ## What one poll can do -/

/-- The answers that a poll behind the data takes, what it returns and the state it leaves. -/
inductive PolledEnd : List (DataAnswer ε) → List (TrailersAnswer ε τ) → Polling ε τ → State → Prop
  | idle : PolledEnd [] [] .pending .trailers
  | pending : PolledEnd [.pending] [] .pending .trailers
  | late (data : Bytes) : PolledEnd [.chunk data] [] (.ready (some (.error .frameUnexpected))) .done
  | failed (error : ε) :
      PolledEnd [.failed error] [] (.ready (some (.error (.stream error)))) .done
  | trailers (fields : τ) :
      PolledEnd [.finished] [.trailers fields] (.ready (some (.ok (.trailers fields)))) .done
  | trailersFailed (error : ε) :
      PolledEnd [.finished] [.failed error] (.ready (some (.error (.stream error)))) .done
  | ended {answers : List (TrailersAnswer ε τ)}
      (silent : answers = [] ∨ answers = [.pending] ∨ answers = [.absent]) :
      PolledEnd [.finished] answers (.ready none) .done

/-- The same for any poll, with the state it finds. -/
inductive Polled :
    State → List (DataAnswer ε) → List (TrailersAnswer ε τ) → Polling ε τ → State → Prop
  | done : Polled .done [] [] (.ready none) .done
  | idle (remaining : Option Nat) : Polled (.data remaining) [] [] .pending (.data remaining)
  | pending (remaining : Option Nat) :
      Polled (.data remaining) [.pending] [] .pending (.data remaining)
  | chunk {remaining : Option Nat} {data : Bytes}
      (fits : ∀ size ∈ remaining, data.length ≤ size) :
      Polled (.data remaining) [.chunk data] [] (.ready (some (.ok (.data data))))
        (.data (remaining.map (· - data.length)))
  | overrun {size : Nat} {data : Bytes} (large : size < data.length) :
      Polled (.data (some size)) [.chunk data] [] (.ready (some (.error .frameUnexpected))) .done
  | failed (remaining : Option Nat) (error : ε) :
      Polled (.data remaining) [.failed error] [] (.ready (some (.error (.stream error)))) .done
  | finished (remaining : Option Nat) {taken : List (DataAnswer ε)}
      {answers : List (TrailersAnswer ε τ)} {output : Polling ε τ} {next : State}
      (rest : PolledEnd taken answers output next) :
      Polled (.data remaining) (.finished :: taken) answers output next
  | trailers {taken : List (DataAnswer ε)} {answers : List (TrailersAnswer ε τ)}
      {output : Polling ε τ} {next : State} (rest : PolledEnd taken answers output next) :
      Polled .trailers taken answers output next

namespace QuicIncomingBody

theorem pollTrailers_polled (stream : RequestStream ε τ) :
    ∃ taken answers, stream.data = taken ++ (pollTrailers stream).2.stream.data ∧
      stream.trailers = answers ++ (pollTrailers stream).2.stream.trailers ∧
      PolledEnd taken answers (pollTrailers stream).1 (pollTrailers stream).2.state := by
  obtain ⟨data, trailers⟩ := stream
  match data, trailers with
  | [], trailers => exact ⟨[], [], rfl, rfl, .idle⟩
  | .pending :: data, trailers => exact ⟨[.pending], [], rfl, rfl, .pending⟩
  | .chunk bytes :: data, trailers => exact ⟨[.chunk bytes], [], rfl, rfl, .late bytes⟩
  | .failed error :: data, trailers => exact ⟨[.failed error], [], rfl, rfl, .failed error⟩
  | .finished :: data, [] => exact ⟨[.finished], [], rfl, rfl, .ended (.inl rfl)⟩
  | .finished :: data, .pending :: trailers =>
      exact ⟨[.finished], [.pending], rfl, rfl, .ended (.inr (.inl rfl))⟩
  | .finished :: data, .absent :: trailers =>
      exact ⟨[.finished], [.absent], rfl, rfl, .ended (.inr (.inr rfl))⟩
  | .finished :: data, .failed error :: trailers =>
      exact ⟨[.finished], [.failed error], rfl, rfl, .trailersFailed error⟩
  | .finished :: data, .trailers fields :: trailers =>
      exact ⟨[.finished], [.trailers fields], rfl, rfl, .trailers fields⟩

theorem pollFrame_overrun {size : Nat} {bytes : Bytes} (large : size < bytes.length)
    (data : List (DataAnswer ε)) (trailers : List (TrailersAnswer ε τ)) :
    pollFrame ⟨⟨.chunk bytes :: data, trailers⟩, .data (some size)⟩ =
      (.ready (some (.error .frameUnexpected)), ⟨⟨data, trailers⟩, .done⟩) :=
  if_pos large

theorem pollFrame_fitting {size : Nat} {bytes : Bytes} (small : ¬size < bytes.length)
    (data : List (DataAnswer ε)) (trailers : List (TrailersAnswer ε τ)) :
    pollFrame ⟨⟨.chunk bytes :: data, trailers⟩, .data (some size)⟩ =
      (.ready (some (.ok (.data bytes))),
        ⟨⟨data, trailers⟩, .data (some (size - bytes.length))⟩) :=
  if_neg small

theorem pollFrame_polled (body : QuicIncomingBody ε τ) :
    ∃ taken answers, body.stream.data = taken ++ body.pollFrame.2.stream.data ∧
      body.stream.trailers = answers ++ body.pollFrame.2.stream.trailers ∧
      Polled body.state taken answers body.pollFrame.1 body.pollFrame.2.state := by
  obtain ⟨⟨data, trailers⟩, state⟩ := body
  match state, data with
  | .done, data => exact ⟨[], [], rfl, rfl, .done⟩
  | .trailers, data =>
      obtain ⟨taken, answers, dataTaken, trailersTaken, rest⟩ :=
        pollTrailers_polled ⟨data, trailers⟩
      exact ⟨taken, answers, dataTaken, trailersTaken, .trailers rest⟩
  | .data remaining, [] => exact ⟨[], [], rfl, rfl, .idle remaining⟩
  | .data remaining, .pending :: data => exact ⟨[.pending], [], rfl, rfl, .pending remaining⟩
  | .data remaining, .failed error :: data =>
      exact ⟨[.failed error], [], rfl, rfl, .failed remaining error⟩
  | .data remaining, .finished :: data =>
      obtain ⟨taken, answers, dataTaken, trailersTaken, rest⟩ :=
        pollTrailers_polled ⟨data, trailers⟩
      exact ⟨.finished :: taken, answers, congrArg (.finished :: ·) dataTaken, trailersTaken,
        .finished remaining rest⟩
  | .data none, .chunk bytes :: data =>
      exact ⟨[.chunk bytes], [], rfl, rfl, .chunk fun _ none => by cases none⟩
  | .data (some size), .chunk bytes :: data =>
      by_cases large : size < bytes.length
      · rw [pollFrame_overrun large]
        exact ⟨[.chunk bytes], [], rfl, rfl, .overrun large⟩
      · rw [pollFrame_fitting large]
        refine ⟨[.chunk bytes], [], rfl, rfl, .chunk ?_⟩
        rintro _ ⟨⟩
        exact Nat.le_of_not_lt large

end QuicIncomingBody

/-! ## What a run of polls can do -/

/-- The answers that polls take one after the other, what they return and the state they
leave. -/
inductive Polls :
    State → List (DataAnswer ε) → List (TrailersAnswer ε τ) → List (Polling ε τ) → State → Prop
  | start (state : State) : Polls state [] [] [] state
  | next {state middle last : State} {taken later : List (DataAnswer ε)}
      {answers more : List (TrailersAnswer ε τ)} {output : Polling ε τ}
      {outputs : List (Polling ε τ)} (polled : Polled state taken answers output middle)
      (rest : Polls middle later more outputs last) :
      Polls state (taken ++ later) (answers ++ more) (output :: outputs) last

theorem QuicIncomingBody.polls_polls (count : Nat) (body : QuicIncomingBody ε τ) :
    ∃ taken answers, body.stream.data = taken ++ (polls count body).2.stream.data ∧
      body.stream.trailers = answers ++ (polls count body).2.stream.trailers ∧
      Polls body.state taken answers (polls count body).1 (polls count body).2.state := by
  induction count generalizing body with
  | zero => exact ⟨[], [], rfl, rfl, .start body.state⟩
  | succ count ih =>
      obtain ⟨taken, answers, dataTaken, trailersTaken, polled⟩ := body.pollFrame_polled
      obtain ⟨later, more, dataLater, trailersLater, rest⟩ := ih body.pollFrame.2
      refine ⟨taken ++ later, answers ++ more, ?_, ?_, .next polled rest⟩
      · rw [dataTaken, dataLater, List.append_assoc]
        rfl
      · rw [trailersTaken, trailersLater, List.append_assoc]
        rfl

/-! ### Chunks and frames -/

/-- The bytes of a data frame. -/
def dataFrame : Polling ε τ → Option Bytes
  | .ready (some (.ok (.data bytes))) => some bytes
  | _ => none

def dataFrames (outputs : List (Polling ε τ)) : List Bytes := outputs.filterMap dataFrame

/-- The chunks in front of the first end of data, overrun or error. -/
def accepted : Option Nat → List (DataAnswer ε) → List Bytes
  | _, [] => []
  | remaining, .pending :: answers => accepted remaining answers
  | _, .finished :: _ => []
  | _, .failed _ :: _ => []
  | none, .chunk data :: answers => data :: accepted none answers
  | some size, .chunk data :: answers =>
      if size < data.length then [] else data :: accepted (some (size - data.length)) answers

/-- There is a chunk behind the end of the data, with nothing but `Pending` in between. -/
def lateChunk : List (DataAnswer ε) → Bool
  | .pending :: answers => lateChunk answers
  | .chunk _ :: _ => true
  | _ => false

/-- The accepted chunks are followed by one that is too long, or by the end of the data and
another chunk. -/
def refused : Option Nat → List (DataAnswer ε) → Bool
  | _, [] => false
  | remaining, .pending :: answers => refused remaining answers
  | _, .finished :: answers => lateChunk answers
  | _, .failed _ :: _ => false
  | none, .chunk _ :: answers => refused none answers
  | some size, .chunk data :: answers =>
      if size < data.length then true else refused (some (size - data.length)) answers

/-- The frames that are due from a state on. -/
def acceptedFrom : State → List (DataAnswer ε) → List Bytes
  | .data remaining, answers => accepted remaining answers
  | _, _ => []

def refusedFrom : State → List (DataAnswer ε) → Bool
  | .data remaining, answers => refused remaining answers
  | .trailers, answers => lateChunk answers
  | .done, _ => false

theorem accepted_chunk {remaining : Option Nat} {data : Bytes}
    (fits : ∀ size ∈ remaining, data.length ≤ size) (answers : List (DataAnswer ε)) :
    accepted remaining (.chunk data :: answers) =
      data :: accepted (remaining.map (· - data.length)) answers := by
  cases remaining with
  | none => rfl
  | some size => exact if_neg (Nat.not_lt.mpr (fits size rfl))

theorem refused_chunk {remaining : Option Nat} {data : Bytes}
    (fits : ∀ size ∈ remaining, data.length ≤ size) (answers : List (DataAnswer ε)) :
    refused remaining (.chunk data :: answers) =
      refused (remaining.map (· - data.length)) answers := by
  cases remaining with
  | none => rfl
  | some size => exact if_neg (Nat.not_lt.mpr (fits size rfl))

/-- The error of a chunk that should not have come. -/
abbrev unexpected : Polling ε τ := .ready (some (.error .frameUnexpected))

variable {state last : State} {taken : List (DataAnswer ε)} {answers : List (TrailersAnswer ε τ)}
  {output : Polling ε τ} {outputs : List (Polling ε τ)}

theorem PolledEnd.dataFrame_eq (polled : PolledEnd taken answers output last) :
    dataFrame output = none ∧ ∀ later : List (DataAnswer ε), acceptedFrom last later = [] := by
  cases polled <;> exact ⟨rfl, fun _ => rfl⟩

theorem Polled.acceptedFrom_eq (polled : Polled state taken answers output last)
    (later : List (DataAnswer ε)) :
    acceptedFrom state (taken ++ later) =
      (dataFrame output).toList ++ acceptedFrom last later := by
  cases polled with
  | done => rfl
  | idle remaining => rfl
  | pending remaining => rfl
  | chunk fits => exact accepted_chunk fits later
  | overrun large => exact if_pos large
  | failed remaining error => rfl
  | finished remaining rest =>
      rw [rest.dataFrame_eq.1, rest.dataFrame_eq.2]
      rfl
  | trailers rest =>
      rw [rest.dataFrame_eq.1, rest.dataFrame_eq.2]
      rfl

theorem Polls.dataFrames_eq (run : Polls state taken answers outputs last) :
    dataFrames outputs = acceptedFrom state taken := by
  induction run with
  | start state => cases state <;> rfl
  | next polled rest ih =>
      rw [polled.acceptedFrom_eq, ← ih, dataFrames, List.filterMap_cons]
      cases dataFrame _ <;> rfl

theorem PolledEnd.refusedFrom_iff (polled : PolledEnd taken answers output last)
    (later : List (DataAnswer ε)) :
    lateChunk (taken ++ later) = true ↔ output = unexpected ∨ refusedFrom last later = true := by
  cases polled <;> simp [lateChunk, refusedFrom]

theorem Polled.refusedFrom_iff (polled : Polled state taken answers output last)
    (later : List (DataAnswer ε)) :
    refusedFrom state (taken ++ later) = true ↔
      output = unexpected ∨ refusedFrom last later = true := by
  cases polled with
  | done => simp [refusedFrom]
  | idle remaining => simp [refusedFrom]
  | pending remaining => simp [refusedFrom, refused]
  | chunk fits => simp [refusedFrom, refused_chunk fits]
  | overrun large => simp [refusedFrom, refused, large]
  | failed remaining error => simp [refusedFrom, refused]
  | finished remaining rest => exact rest.refusedFrom_iff later
  | trailers rest => exact rest.refusedFrom_iff later

theorem Polls.unexpected_mem_iff (run : Polls state taken answers outputs last) :
    unexpected ∈ outputs ↔ refusedFrom state taken = true := by
  induction run with
  | start state => cases state <;> simp [refusedFrom, refused, lateChunk]
  | next polled rest ih =>
      rw [polled.refusedFrom_iff, ← ih, List.mem_cons, eq_comm]

theorem length_accepted_le (size : Nat) (taken : List (DataAnswer ε)) :
    (accepted (some size) taken).flatten.length ≤ size := by
  induction taken generalizing size with
  | nil => exact Nat.zero_le size
  | cons answer taken ih =>
      cases answer with
      | pending => exact ih size
      | finished => exact Nat.zero_le size
      | failed error => exact Nat.zero_le size
      | chunk data =>
          rw [accepted]
          split
          · exact Nat.zero_le size
          · have rest := ih (size - data.length)
            rw [List.flatten_cons, List.length_append]
            omega

/-! ### What comes last -/

/-- An error, the trailers or the end. -/
def isFinal : Polling ε τ → Bool
  | .pending => false
  | .ready (some (.ok (.data _))) => false
  | .ready _ => true

def isTrailers : Polling ε τ → Bool
  | .ready (some (.ok (.trailers _))) => true
  | _ => false

theorem Polled.done_of_isFinal (polled : Polled state taken answers output last)
    (final : isFinal output = true) : last = .done := by
  cases polled with
  | done => rfl
  | idle remaining => cases final
  | pending remaining => cases final
  | chunk fits => cases final
  | overrun large => rfl
  | failed remaining error => rfl
  | finished remaining rest => cases rest <;> first | rfl | cases final
  | trailers rest => cases rest <;> first | rfl | cases final

theorem Polls.none_of_done (run : Polls .done taken answers outputs last) :
    ∀ output ∈ outputs, output = .ready none := by
  generalize found : State.done = state at run
  induction run with
  | start state => exact List.forall_mem_nil _
  | next polled rest ih =>
      subst found
      cases polled
      exact List.forall_mem_cons.mpr ⟨rfl, ih rfl⟩

/-- After an error, the trailers or the end, nothing but the end is returned. -/
theorem Polls.none_behind_final (run : Polls state taken answers outputs last)
    {before after : List (Polling ε τ)} (split : outputs = before ++ output :: after)
    (final : isFinal output = true) : ∀ later ∈ after, later = .ready none := by
  induction run generalizing before with
  | start state => cases before <;> cases split
  | next polled rest ih =>
      cases before with
      | nil =>
          cases split
          rw [polled.done_of_isFinal final] at rest
          exact rest.none_of_done
      | cons first before =>
          cases split
          exact ih rfl

theorem countP_isTrailers_le {outputs : List (Polling ε τ)}
    (final : ∀ before output after, outputs = before ++ output :: after → isFinal output = true →
      ∀ later ∈ after, later = .ready none) : outputs.countP isTrailers ≤ 1 := by
  induction outputs with
  | nil => exact Nat.zero_le 1
  | cons output outputs ih =>
      rw [List.countP_cons]
      split
      · rename_i trailers
        have last : isFinal output = true := by
          unfold isTrailers at trailers
          split at trailers
          · rfl
          · cases trailers
        have behind := final [] output outputs rfl last
        have none : outputs.countP isTrailers = 0 := by
          rw [List.countP_eq_zero]
          intro later member
          rw [behind later member]
          exact Bool.false_ne_true
        omega
      · exact ih fun before later after same => final (output :: before) later after
          (congrArg (output :: ·) same)

/-! ### The declared size -/

theorem Polls.not_data (run : Polls state taken answers outputs last)
    (behind : ∀ remaining, state ≠ .data remaining) : ∀ remaining, last ≠ .data remaining := by
  induction run with
  | start state => exact behind
  | next polled rest ih =>
      refine ih fun remaining same => ?_
      cases polled with
      | done => cases same
      | trailers rest => cases rest <;> cases same
      | _ => exact behind _ rfl

/-- As long as data is expected, what is left is the declared size less what was
delivered. -/
theorem Polls.remaining_eq {declared remaining : Option Nat}
    (run : Polls (.data declared) taken answers outputs (.data remaining)) :
    remaining = declared.map (· - (dataFrames outputs).flatten.length) := by
  generalize first : State.data declared = state at run
  generalize final : State.data remaining = last at run
  induction run generalizing declared with
  | start state =>
      subst first
      cases final
      cases remaining <;> rfl
  | next polled rest ih =>
      subst first
      cases polled with
      | idle => exact ih rfl final
      | pending => exact ih rfl final
      | chunk fits =>
          rw [ih rfl final, Option.map_map]
          congr 1
          funext size
          simp only [Function.comp, dataFrames, List.filterMap_cons, dataFrame, List.flatten_cons,
            List.length_append]
          omega
      | overrun => exact absurd final.symm (rest.not_data (fun _ => State.noConfusion) _)
      | failed => exact absurd final.symm (rest.not_data (fun _ => State.noConfusion) _)
      | finished _ ended =>
          refine absurd final.symm (rest.not_data (fun other same => ?_) _)
          cases ended <;> cases same

/-! ## The declared length is respected -/

/-- The hint that is due when so many bytes of the declared size were delivered. -/
def dueHint : Option Nat → Nat → SizeHint
  | some size, delivered => .withExact (size - delivered)
  | none, _ => .default

/-- What is promised of the answers that the polls of a body took, of what they returned and
of the body they left. -/
structure Respects (declared : Option Nat) (taken : List (DataAnswer ε))
    (outputs : List (Polling ε τ)) (body : QuicIncomingBody ε τ) : Prop where
  /-- The data frames are the chunks in front of the first end of data, overrun or error. -/
  chunks : dataFrames outputs = accepted declared taken
  within : ∀ size, declared = some size → (dataFrames outputs).flatten.length ≤ size
  /-- A chunk that is too long or comes too late is returned as an error. -/
  replaced : unexpected ∈ outputs ↔ refused declared taken = true
  trailersOnce : outputs.countP isTrailers ≤ 1
  final : ∀ before output after, outputs = before ++ output :: after → isFinal output = true →
    ∀ later ∈ after, later = .ready none
  /-- While data is expected, the hint is the declared size less what was delivered. -/
  hint : ∀ remaining, body.state = .data remaining →
    body.sizeHint = dueHint declared (dataFrames outputs).flatten.length

/-- Whatever the stream answers and however often the body is polled. -/
theorem body_respects_length (stream : RequestStream ε τ) (declared : Option Nat) (count : Nat) :
    ∃ taken, stream.data =
        taken ++ (QuicIncomingBody.polls count (.new stream declared)).2.stream.data ∧
      Respects declared taken (QuicIncomingBody.polls count (.new stream declared)).1
        (QuicIncomingBody.polls count (.new stream declared)).2 := by
  obtain ⟨taken, answers, dataTaken, _, run⟩ :=
    QuicIncomingBody.polls_polls count (.new stream declared)
  have frames : dataFrames (QuicIncomingBody.polls count (.new stream declared)).1 =
      accepted declared taken := run.dataFrames_eq
  have final : ∀ before output after,
      (QuicIncomingBody.polls count (.new stream declared)).1 = before ++ output :: after →
        isFinal output = true → ∀ later ∈ after, later = .ready none :=
    fun before output after split last => run.none_behind_final split last
  refine ⟨taken, dataTaken, frames, ?_, run.unexpected_mem_iff, countP_isTrailers_le final, final,
    ?_⟩
  · rintro size rfl
    rw [frames]
    exact length_accepted_le size taken
  · intro remaining expected
    rw [expected] at run
    have left := run.remaining_eq
    rw [QuicIncomingBody.sizeHint, expected, left]
    cases declared <;> rfl

/-! ## The end of the stream -/

namespace QuicIncomingBody

/-- No trailers and no error come when the trailers are polled. -/
def noTrailers : List (TrailersAnswer ε τ) → Bool
  | .trailers _ :: _ => false
  | .failed _ :: _ => false
  | _ => true

def endsOnce (trailers : List (TrailersAnswer ε τ)) : List (DataAnswer ε) → Bool
  | .finished :: _ => noTrailers trailers
  | _ => false

def endsTwice (trailers : List (TrailersAnswer ε τ)) : List (DataAnswer ε) → Bool
  | .finished :: answers => endsOnce trailers answers
  | _ => false

/-- The next answers are the end of the data, also when it is polled again, and no
trailers. -/
def endsNow (body : QuicIncomingBody ε τ) : Bool :=
  match body.state with
  | .done => true
  | .trailers => endsOnce body.stream.trailers body.stream.data
  | .data _ => endsTwice body.stream.trailers body.stream.data

/-- Behind the data nothing comes but its end and no trailers, after any number of pending
polls. -/
def quietEnd (trailers : List (TrailersAnswer ε τ)) : List (DataAnswer ε) → Bool
  | [] => true
  | .pending :: answers => quietEnd trailers answers
  | .finished :: _ => noTrailers trailers
  | _ => false

def quietData (trailers : List (TrailersAnswer ε τ)) : List (DataAnswer ε) → Bool
  | [] => true
  | .pending :: answers => quietData trailers answers
  | .finished :: answers => quietEnd trailers answers
  | _ => false

/-- Nothing more comes from the stream than the end, now or later. -/
def quiet (body : QuicIncomingBody ε τ) : Bool :=
  match body.state with
  | .done => true
  | .trailers => quietEnd body.stream.trailers body.stream.data
  | .data _ => quietData body.stream.trailers body.stream.data

def isSilent : Polling ε τ → Bool
  | .ready (some _) => false
  | _ => true

theorem pollTrailers_none_iff (stream : RequestStream ε τ) :
    (pollTrailers stream).1 = .ready none ↔ endsOnce stream.trailers stream.data = true := by
  obtain ⟨data, trailers⟩ := stream
  cases data with
  | nil => simp [pollTrailers, RequestStream.pollRecvData, endsOnce]
  | cons answer data =>
      cases answer with
      | finished =>
          cases trailers with
          | nil => simp [pollTrailers, RequestStream.pollRecvData, RequestStream.recvTrailers,
              endsOnce, noTrailers]
          | cons field trailers =>
              cases field <;> simp [pollTrailers, RequestStream.pollRecvData,
                RequestStream.recvTrailers, endsOnce, noTrailers]
      | _ => simp [pollTrailers, RequestStream.pollRecvData, endsOnce]

/-- A chunk is never answered with silence. -/
theorem isSilent_acceptChunk (stream : RequestStream ε τ) (remaining : Option Nat) (buf : Bytes) :
    isSilent (acceptChunk stream remaining buf).1 = false := by
  cases remaining with
  | none => rfl
  | some size =>
      unfold acceptChunk
      dsimp only
      split <;> rfl

/-- A poll returns the end exactly when the stream answers so at once. -/
theorem pollFrame_none_iff (body : QuicIncomingBody ε τ) :
    body.pollFrame.1 = .ready none ↔ body.endsNow = true := by
  obtain ⟨⟨data, trailers⟩, state⟩ := body
  cases state with
  | done => simp [pollFrame, endsNow]
  | trailers => exact pollTrailers_none_iff ⟨data, trailers⟩
  | data remaining =>
      cases data with
      | nil => simp [pollFrame, RequestStream.pollRecvData, endsNow, endsTwice]
      | cons answer data =>
          cases answer with
          | finished => exact pollTrailers_none_iff ⟨data, trailers⟩
          | chunk bytes =>
              refine iff_of_false (fun none => ?_) Bool.false_ne_true
              have silent := isSilent_acceptChunk ⟨data, trailers⟩ remaining bytes
              rw [show (acceptChunk ⟨data, trailers⟩ remaining bytes).1 = .ready .none from none]
                at silent
              cases silent
          | _ => simp [pollFrame, RequestStream.pollRecvData, endsNow, endsTwice]

theorem pollTrailers_quiet_iff (stream : RequestStream ε τ) :
    quietEnd stream.trailers stream.data = true ↔
      isSilent (pollTrailers stream).1 = true ∧ (pollTrailers stream).2.quiet = true := by
  obtain ⟨data, trailers⟩ := stream
  cases data with
  | nil => simp [pollTrailers, RequestStream.pollRecvData, quietEnd, quiet, isSilent]
  | cons answer data =>
      cases answer with
      | finished =>
          cases trailers with
          | nil => simp [pollTrailers, RequestStream.pollRecvData, RequestStream.recvTrailers,
              quietEnd, quiet, isSilent, noTrailers]
          | cons field trailers =>
              cases field <;> simp [pollTrailers, RequestStream.pollRecvData,
                RequestStream.recvTrailers, quietEnd, quiet, isSilent, noTrailers]
      | _ => simp [pollTrailers, RequestStream.pollRecvData, quietEnd, quiet, isSilent]

/-- A quiet body returns no frame and no error, and stays quiet. -/
theorem quiet_iff (body : QuicIncomingBody ε τ) :
    body.quiet = true ↔ isSilent body.pollFrame.1 = true ∧ body.pollFrame.2.quiet = true := by
  obtain ⟨⟨data, trailers⟩, state⟩ := body
  cases state with
  | done => simp [pollFrame, quiet, isSilent]
  | trailers => exact pollTrailers_quiet_iff ⟨data, trailers⟩
  | data remaining =>
      cases data with
      | nil => simp [pollFrame, RequestStream.pollRecvData, quiet, quietData, isSilent]
      | cons answer data =>
          cases answer with
          | finished => exact pollTrailers_quiet_iff ⟨data, trailers⟩
          | chunk bytes =>
              refine iff_of_false Bool.false_ne_true fun next => ?_
              have silent := isSilent_acceptChunk ⟨data, trailers⟩ remaining bytes
              exact Bool.false_ne_true (silent.symm.trans next.1)
          | _ => simp [pollFrame, RequestStream.pollRecvData, quiet, quietData, isSilent]

/-- Every later poll returns the end, if the body says that it has ended. -/
def EndsTruthfully (body : QuicIncomingBody ε τ) : Prop :=
  body.isEndStream = true → ∀ count, ∀ output ∈ (polls count body).1, output = .ready none

/-- No later poll returns a frame or an error, if the body says that it has ended. -/
def MissesNothing (body : QuicIncomingBody ε τ) : Prop :=
  body.isEndStream = true → ∀ count, ∀ output ∈ (polls count body).1, isSilent output = true

theorem endsNow_pollFrame {body : QuicIncomingBody ε τ} (ended : body.endsNow = true) :
    body.pollFrame.2.endsNow = true := by
  obtain ⟨_, _, _, _, polled⟩ := body.pollFrame_polled
  rw [(pollFrame_none_iff body).mpr ended] at polled
  rw [endsNow, polled.done_of_isFinal rfl]

theorem polls_none_iff (body : QuicIncomingBody ε τ) :
    (∀ count, ∀ output ∈ (polls count body).1, output = .ready none) ↔ body.endsNow = true := by
  constructor
  · intro ended
    exact (pollFrame_none_iff body).mp (ended 1 _ List.mem_cons_self)
  · intro ended count
    induction count generalizing body with
    | zero => exact List.forall_mem_nil _
    | succ count ih =>
        exact List.forall_mem_cons.mpr
          ⟨(pollFrame_none_iff body).mpr ended, ih _ (endsNow_pollFrame ended)⟩

theorem quiet_of_silent_trailers (trailers : List (TrailersAnswer ε τ))
    (data : List (DataAnswer ε))
    (silent : ∀ count, ∀ output ∈ (polls count ⟨⟨data, trailers⟩, .trailers⟩).1,
      isSilent output = true) : quiet ⟨⟨data, trailers⟩, .trailers⟩ = true := by
  induction data with
  | nil => rfl
  | cons answer data ih =>
      have first := silent 1 _ List.mem_cons_self
      have later := fun count => (List.forall_mem_cons.mp (silent (count + 1))).2
      cases answer with
      | pending => exact ih later
      | chunk bytes => cases first
      | failed error => cases first
      | finished =>
          refine (quiet_iff _).mpr ⟨first, ?_⟩
          cases trailers with
          | nil => rfl
          | cons field trailers => cases field <;> rfl

/-- A body without a frame or an error to come is quiet.  A pending poll takes an answer of
the script, and that is what the induction is on. -/
theorem quiet_of_silent (body : QuicIncomingBody ε τ)
    (silent : ∀ count, ∀ output ∈ (polls count body).1, isSilent output = true) :
    body.quiet = true := by
  obtain ⟨⟨data, trailers⟩, state⟩ := body
  cases state with
  | done => rfl
  | trailers => exact quiet_of_silent_trailers trailers data silent
  | data remaining =>
      induction data with
      | nil => rfl
      | cons answer data ih =>
          have first := silent 1 _ List.mem_cons_self
          have later := fun count => (List.forall_mem_cons.mp (silent (count + 1))).2
          cases answer with
          | pending => exact ih later
          | chunk bytes =>
              exact absurd ((isSilent_acceptChunk _ _ _).symm.trans first) Bool.false_ne_true
          | failed error => cases first
          | finished =>
              -- the same poll goes on behind the data
              refine quiet_of_silent_trailers trailers data fun count => ?_
              cases count with
              | zero => exact List.forall_mem_nil _
              | succ count => exact List.forall_mem_cons.mpr ⟨first, later count⟩

theorem polls_silent_iff (body : QuicIncomingBody ε τ) :
    (∀ count, ∀ output ∈ (polls count body).1, isSilent output = true) ↔ body.quiet = true := by
  refine ⟨quiet_of_silent body, fun quiet count => ?_⟩
  induction count generalizing body with
  | zero => exact List.forall_mem_nil _
  | succ count ih =>
      have next := (quiet_iff body).mp quiet
      exact List.forall_mem_cons.mpr ⟨next.1, ih _ next.2⟩

/-! ### Over a whole run -/

/-- `fine` holds where the body says for the first time that it has ended, on a stream that
answers so. -/
def fineAtEnd (fine : QuicIncomingBody ε τ → Bool) (trailers : List (TrailersAnswer ε τ)) :
    Option Nat → List (DataAnswer ε) → Bool
  | some 0, answers => fine ⟨⟨answers, trailers⟩, .data (some 0)⟩
  | _, [] => true
  | remaining, .pending :: answers => fineAtEnd fine trailers remaining answers
  | _, .failed _ :: _ => true
  | _, [.finished] => fine ⟨⟨[], trailers⟩, .trailers⟩
  | _, .finished :: .pending :: answers => fine ⟨⟨answers, trailers⟩, .trailers⟩
  | _, .finished :: _ => true
  | none, .chunk _ :: answers => fineAtEnd fine trailers none answers
  | some size, .chunk data :: answers =>
      if size < data.length then true
      else fineAtEnd fine trailers (some (size - data.length)) answers

section Runs

variable {fine : QuicIncomingBody ε τ → Bool}
  (done : ∀ stream, fine ⟨stream, .done⟩ = true)
  (keeps : ∀ body, fine body = true → fine body.pollFrame.2 = true)

/-- `fine` holds of every body a run reaches that says that it has ended. -/
def FineWhenEnded (fine : QuicIncomingBody ε τ → Bool) (body : QuicIncomingBody ε τ) : Prop :=
  ∀ count, (polls count body).2.isEndStream = true → fine (polls count body).2 = true

include keeps in
theorem fine_polls {body : QuicIncomingBody ε τ} (now : fine body = true) (count : Nat) :
    fine (polls count body).2 = true := by
  induction count generalizing body with
  | zero => exact now
  | succ count ih => exact ih (keeps body now)

include keeps in
theorem fineWhenEnded_of_ended {body : QuicIncomingBody ε τ} (ended : body.isEndStream = true) :
    FineWhenEnded fine body ↔ fine body = true :=
  ⟨fun always => always 0 ended, fun now count _ => fine_polls keeps now count⟩

theorem fineWhenEnded_of_open {body : QuicIncomingBody ε τ} (expects : body.isEndStream = false) :
    FineWhenEnded fine body ↔ FineWhenEnded fine body.pollFrame.2 := by
  constructor
  · intro always count
    exact always (count + 1)
  · intro always count
    cases count with
    | zero =>
        intro ended
        exact absurd (expects.symm.trans ended) Bool.false_ne_true
    | succ count => exact always count

include done keeps in
theorem fineWhenEnded_done {body : QuicIncomingBody ε τ} (final : body.state = .done) :
    FineWhenEnded fine body := by
  obtain ⟨stream, state⟩ := body
  cases final
  exact (fineWhenEnded_of_ended keeps rfl).mpr (done stream)

include done keeps in
/-- Behind the end of the data the same poll goes on, and it leaves a body that says that it
has ended. -/
theorem fineWhenEnded_finished (trailers : List (TrailersAnswer ε τ)) {remaining : Option Nat}
    (expects : remaining ≠ some 0) (answers : List (DataAnswer ε)) :
    FineWhenEnded fine (pollTrailers ⟨answers, trailers⟩).2 ↔
      fineAtEnd fine trailers remaining (.finished :: answers) = true := by
  cases answers with
  | nil =>
      simp only [fineAtEnd]
      exact fineWhenEnded_of_ended keeps rfl
  | cons answer answers =>
      cases answer with
      | pending =>
          simp only [fineAtEnd]
          exact fineWhenEnded_of_ended keeps rfl
      | chunk bytes =>
          simp only [fineAtEnd, iff_true]
          exact fineWhenEnded_done done keeps rfl
      | failed error =>
          simp only [fineAtEnd, iff_true]
          exact fineWhenEnded_done done keeps rfl
      | finished =>
          simp only [fineAtEnd, iff_true]
          refine fineWhenEnded_done done keeps ?_
          cases trailers with
          | nil => rfl
          | cons field trailers => cases field <;> rfl

theorem isEndStream_data {remaining : Option Nat} (expects : remaining ≠ some 0)
    (stream : RequestStream ε τ) : isEndStream ⟨stream, .data remaining⟩ = false := by
  cases remaining with
  | none => rfl
  | some size =>
      cases size with
      | zero => exact absurd rfl expects
      | succ size => rfl

theorem polls_idle (trailers : List (TrailersAnswer ε τ)) (remaining : Option Nat) (count : Nat) :
    (polls count (⟨⟨[], trailers⟩, .data remaining⟩ : QuicIncomingBody ε τ)).2 =
      ⟨⟨[], trailers⟩, .data remaining⟩ := by
  induction count with
  | zero => rfl
  | succ count ih => exact ih

include done keeps in
theorem fineWhenEnded_iff (trailers : List (TrailersAnswer ε τ)) (remaining : Option Nat)
    (answers : List (DataAnswer ε)) :
    FineWhenEnded fine ⟨⟨answers, trailers⟩, .data remaining⟩ ↔
      fineAtEnd fine trailers remaining answers = true := by
  induction answers generalizing remaining with
  | nil =>
      by_cases used : remaining = some 0
      · rw [used, fineWhenEnded_of_ended keeps rfl, fineAtEnd]
      · simp only [fineAtEnd, iff_true]
        intro count ended
        rw [polls_idle, isEndStream_data used] at ended
        cases ended
  | cons answer answers ih =>
      by_cases used : remaining = some 0
      · rw [used, fineWhenEnded_of_ended keeps rfl, fineAtEnd]
      · rw [fineWhenEnded_of_open (isEndStream_data used _)]
        cases answer with
        | pending =>
            simp only [fineAtEnd]
            exact ih remaining
        | failed error =>
            simp only [fineAtEnd, iff_true]
            exact fineWhenEnded_done done keeps rfl
        | finished => exact fineWhenEnded_finished done keeps trailers used answers
        | chunk bytes =>
            cases remaining with
            | none =>
                simp only [fineAtEnd]
                exact ih none
            | some size =>
                have due : fineAtEnd fine trailers (some size) (.chunk bytes :: answers) =
                    if size < bytes.length then true
                    else fineAtEnd fine trailers (some (size - bytes.length)) answers := by
                  rw [fineAtEnd]
                  rintro rfl
                  exact used rfl
                rw [due]
                by_cases large : size < bytes.length
                · rw [if_pos large, pollFrame_overrun large]
                  exact iff_of_true (fineWhenEnded_done done keeps rfl) rfl
                · rw [if_neg large, pollFrame_fitting large]
                  exact ih (some (size - bytes.length))

end Runs

/-- Whatever the stream answers and whatever size is declared, the body tells the truth about
its end in every state a run reaches exactly when, where it first says so, the stream answers
with the end of the data at once and with no trailers.  A consumer that stops there misses
nothing exactly when the answers are such after any number of pending polls. -/
theorem end_stream_truthful_iff (stream : RequestStream ε τ) (declared : Option Nat) :
    ((∀ count, EndsTruthfully (polls count (.new stream declared)).2) ↔
      fineAtEnd endsNow stream.trailers declared stream.data = true) ∧
    ((∀ count, MissesNothing (polls count (.new stream declared)).2) ↔
      fineAtEnd quiet stream.trailers declared stream.data = true) := by
  constructor
  · rw [← fineWhenEnded_iff (fun _ => rfl) (fun _ ended => endsNow_pollFrame ended)]
    exact forall_congr' fun count => imp_congr_right fun _ => polls_none_iff _
  · rw [← fineWhenEnded_iff (fun _ => rfl) (fun body now => ((quiet_iff body).mp now).2)]
    exact forall_congr' fun count => imp_congr_right fun _ => polls_silent_iff _

/-- Three bytes of three are there, and the body says that it has ended.  The next poll
returns the trailers. -/
def threeBytesAndTrailers : QuicIncomingBody Unit Unit :=
  .new ⟨[.chunk [1, 2, 3], .finished, .finished], [.trailers ()]⟩ (some 3)

theorem trailers_missed :
    (polls 1 threeBytesAndTrailers).2.isEndStream = true ∧
    (polls 1 (polls 1 threeBytesAndTrailers).2).1 = [.ready (some (.ok (.trailers ())))] ∧
    ¬EndsTruthfully (polls 1 threeBytesAndTrailers).2 ∧
    ¬MissesNothing (polls 1 threeBytesAndTrailers).2 := by
  refine ⟨rfl, rfl, fun truthful => ?_, fun nothing => ?_⟩
  · exact absurd (truthful rfl 1 _ List.mem_cons_self) (by decide)
  · exact absurd (nothing rfl 1 _ List.mem_cons_self) (by decide)

end QuicIncomingBody

end ScuffleVideo.Http
