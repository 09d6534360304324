import ScuffleVideo.Concurrent.Run
import ScuffleVideo.Wire.ByteOrder

/-!
# A channel of messages read as a stream of bytes

Senders put messages of any length into a channel, and one reader takes the bytes out of it in
buffers of any length.  What is left of a message that did not fit is kept for the next read.
A read without a leftover waits for a message; then, as long as there is room, it takes the
messages that are already there.  Between two receives of one read the senders may go on, so
a read is not one step here: it begins, it receives, and it returns.

The channel gives every message once and in the order it was sent.  What was sent and
received and what the reads returned is kept as a record beside the state.
-/

namespace ScuffleVideo.Ffmpeg

open Wire (Bytes)
open Concurrent (Run visited)

structure Channel where
  queue : List Bytes
  /-- No sender is left. -/
  closed : Bool
  deriving DecidableEq, Repr

/-- What a read comes to: the buffer of the caller and the number that is returned, or a
panic. -/
inductive Outcome where
  | returned (buf : Bytes) (count : Nat)
  | panicked
  deriving DecidableEq, Repr

/-- Where a read is: it waits for its first message, or it is in the loop behind it. -/
inductive Phase where
  | idle
  | receiving (buf : Bytes)
  | filling (buf : Bytes) (totalRead : Nat)
  deriving DecidableEq, Repr

structure ChannelCompat where
  inner : Channel
  /-- A panic under the lock leaves the mutex poisoned. -/
  poisoned : Bool
  buffer : Bytes
  phase : Phase
  sent : List Bytes
  received : List Bytes
  outcomes : List Outcome
  deriving DecidableEq, Repr

inductive Action where
  | send (message : Bytes)
  | close
  | read (buf : Bytes)
  | channelRecv
  | tryChannelRecv
  deriving DecidableEq, Repr

/-- `buf[start..stop].copy_from_slice(source)`, which panics unless the lengths agree. -/
def copyFromSlice (buf : Bytes) (start stop : Nat) (source : Bytes) : Option Bytes :=
  if start ≤ stop ∧ stop ≤ buf.length ∧ source.length = stop - start then
    some (buf.take start ++ source ++ buf.drop stop)
  else none

namespace ChannelCompat

def new : ChannelCompat := ⟨⟨[], false⟩, false, [], .idle, [], [], []⟩

def finish (compat : ChannelCompat) (outcome : Outcome) : ChannelCompat :=
  { compat with phase := .idle, outcomes := compat.outcomes ++ [outcome] }

def panicLocked (compat : ChannelCompat) : ChannelCompat :=
  { compat with poisoned := true }.finish .panicked

/-- The part of `read` in front of the first receive. -/
def beginRead (compat : ChannelCompat) (buf : Bytes) : ChannelCompat :=
  if compat.buffer.length ≥ buf.length then
    { compat with buffer := compat.buffer.drop buf.length }.finish
      (.returned (compat.buffer.take buf.length) buf.length)
  else if compat.poisoned then compat.finish .panicked
  else if compat.buffer.isEmpty then { compat with phase := .receiving buf }
  else
    match copyFromSlice buf 0 compat.buffer.length compat.buffer with
    | none => compat.panicLocked
    | some buf => { compat with buffer := [], phase := .filling buf compat.buffer.length }

def takeMessage (compat : ChannelCompat) (data : Bytes) (queue : List Bytes) : ChannelCompat :=
  { compat with inner.queue := queue, received := compat.received ++ [data] }

/-- The first `min` bytes of a message go to a part of the caller's buffer, and the others are
kept. -/
def storeMessage (compat : ChannelCompat) (buf : Bytes) (totalRead stop min : Nat)
    (data : Bytes) : ChannelCompat :=
  match copyFromSlice buf totalRead stop (data.take min) with
  | none => compat.panicLocked
  | some buf =>
      { compat with
        buffer := compat.buffer ++ data.drop min
        phase := .filling buf (totalRead + min) }

/-- The first message is copied to the whole of the caller's buffer, whatever its length. -/
def storeFirst (compat : ChannelCompat) (buf data : Bytes) : ChannelCompat :=
  compat.storeMessage buf 0 buf.length (min data.length buf.length) data

/-- A message of the loop is copied to as much of the buffer as it fills. -/
def storeNext (compat : ChannelCompat) (buf : Bytes) (totalRead : Nat) (data : Bytes) :
    ChannelCompat :=
  let min := min data.length (buf.length - totalRead)
  compat.storeMessage buf totalRead (totalRead + min) min data

def step (compat : ChannelCompat) : Action → Option ChannelCompat
  | .send message =>
      if compat.inner.closed then none
      else some { compat with
        inner.queue := compat.inner.queue ++ [message], sent := compat.sent ++ [message] }
  | .close => if compat.inner.closed then none else some { compat with inner.closed := true }
  | .read buf =>
      match compat.phase with
      | .idle => some (compat.beginRead buf)
      | _ => none
  | .channelRecv =>
      match compat.phase, compat.inner.queue with
      | .receiving buf, data :: queue => some ((compat.takeMessage data queue).storeFirst buf data)
      -- an empty channel with a sender blocks
      | .receiving buf, [] =>
          if compat.inner.closed then some (compat.finish (.returned buf 0)) else none
      | _, _ => none
  | .tryChannelRecv =>
      match compat.phase with
      | .filling buf totalRead =>
          if totalRead < buf.length then
            match compat.inner.queue with
            | data :: queue => some ((compat.takeMessage data queue).storeNext buf totalRead data)
            | [] => some (compat.finish (.returned buf totalRead))
          else some (compat.finish (.returned buf totalRead))
      | _ => none

/-! ## What one step can do -/

/-- The buffer of a caller after a message has been copied to it. -/
def filled (buf : Bytes) (totalRead : Nat) (data : Bytes) : Bytes :=
  buf.take totalRead ++ data.take (buf.length - totalRead) ++
    buf.drop (totalRead + min data.length (buf.length - totalRead))

inductive Stepped (compat : ChannelCompat) : Action → ChannelCompat → Prop
  | send {message : Bytes} (open' : compat.inner.closed = false) :
      Stepped compat (.send message) { compat with
        inner.queue := compat.inner.queue ++ [message], sent := compat.sent ++ [message] }
  | close (open' : compat.inner.closed = false) :
      Stepped compat .close { compat with inner.closed := true }
  | leftover {buf : Bytes} (idle : compat.phase = .idle)
      (enough : buf.length ≤ compat.buffer.length) :
      Stepped compat (.read buf) ({ compat with buffer := compat.buffer.drop buf.length }.finish
        (.returned (compat.buffer.take buf.length) buf.length))
  | refused {buf : Bytes} (idle : compat.phase = .idle) (poisoned : compat.poisoned = true) :
      Stepped compat (.read buf) (compat.finish .panicked)
  | waits {buf : Bytes} (idle : compat.phase = .idle) (none : compat.buffer = []) :
      Stepped compat (.read buf) { compat with phase := .receiving buf }
  | drains {buf : Bytes} (idle : compat.phase = .idle) (some : compat.buffer ≠ [])
      (room : compat.buffer.length < buf.length) :
      Stepped compat (.read buf) { compat with
        buffer := [],
        phase := .filling (compat.buffer ++ buf.drop compat.buffer.length) compat.buffer.length }
  | ended {buf : Bytes} (waiting : compat.phase = .receiving buf)
      (empty : compat.inner.queue = []) (closed : compat.inner.closed = true) :
      Stepped compat .channelRecv (compat.finish (.returned buf 0))
  | first {buf data : Bytes} {queue : List Bytes} (waiting : compat.phase = .receiving buf)
      (found : compat.inner.queue = data :: queue) (fits : buf.length ≤ data.length) :
      Stepped compat .channelRecv { compat.takeMessage data queue with
        buffer := compat.buffer ++ data.drop buf.length,
        phase := .filling (data.take buf.length) buf.length }
  | mismatch {buf data : Bytes} {queue : List Bytes} (waiting : compat.phase = .receiving buf)
      (found : compat.inner.queue = data :: queue) (short : data.length < buf.length) :
      Stepped compat .channelRecv (compat.takeMessage data queue).panicLocked
  | more {buf data : Bytes} {totalRead : Nat} {queue : List Bytes}
      (filling : compat.phase = .filling buf totalRead) (room : totalRead < buf.length)
      (found : compat.inner.queue = data :: queue) :
      Stepped compat .tryChannelRecv { compat.takeMessage data queue with
        buffer := compat.buffer ++ data.drop (buf.length - totalRead),
        phase := .filling (filled buf totalRead data)
          (totalRead + min data.length (buf.length - totalRead)) }
  | returns {buf : Bytes} {totalRead : Nat} (filling : compat.phase = .filling buf totalRead)
      (stops : totalRead < buf.length → compat.inner.queue = []) :
      Stepped compat .tryChannelRecv (compat.finish (.returned buf totalRead))

variable {compat next : ChannelCompat} {action : Action}

theorem storeFirst_fits {buf data : Bytes} (fits : buf.length ≤ data.length) :
    compat.storeFirst buf data = { compat with
      buffer := compat.buffer ++ data.drop buf.length
      phase := .filling (data.take buf.length) buf.length } := by
  have copied : copyFromSlice buf 0 buf.length (data.take buf.length) =
      some (data.take buf.length) := by
    simp [copyFromSlice, fits]
  simp only [storeFirst, storeMessage, Nat.min_eq_right fits, copied, Nat.zero_add]

theorem storeFirst_short {buf data : Bytes} (short : data.length < buf.length) :
    compat.storeFirst buf data = compat.panicLocked := by
  have refused : copyFromSlice buf 0 buf.length (data.take data.length) = none := by
    refine if_neg fun agrees => ?_
    rw [List.take_length] at agrees
    omega
  simp only [storeFirst, storeMessage, Nat.min_eq_left (Nat.le_of_lt short), refused]

theorem storeNext_eq {buf data : Bytes} {totalRead : Nat} (room : totalRead < buf.length) :
    compat.storeNext buf totalRead data = { compat with
      buffer := compat.buffer ++ data.drop (buf.length - totalRead)
      phase := .filling (filled buf totalRead data)
        (totalRead + min data.length (buf.length - totalRead)) } := by
  have start : data.take (min data.length (buf.length - totalRead)) =
      data.take (buf.length - totalRead) := by
    rw [Nat.min_comm, ← List.take_eq_take_min]
  have rest : data.drop (min data.length (buf.length - totalRead)) =
      data.drop (buf.length - totalRead) := by
    rw [Nat.min_comm, ← List.drop_eq_drop_min]
  have copied : copyFromSlice buf totalRead
      (totalRead + min data.length (buf.length - totalRead)) (data.take (buf.length - totalRead)) =
        some (filled buf totalRead data) := by
    refine if_pos ⟨by omega, by omega, ?_⟩
    rw [List.length_take]
    omega
  simp only [storeNext, storeMessage, start, rest, copied]

theorem beginRead_stepped (idle : compat.phase = .idle) (buf : Bytes) :
    Stepped compat (.read buf) (compat.beginRead buf) := by
  unfold beginRead
  split
  · rename_i enough
    exact .leftover idle enough
  · rename_i short
    split
    · rename_i poisoned
      exact .refused idle poisoned
    · split
      · rename_i none
        exact .waits idle (List.isEmpty_iff.mp none)
      · rename_i some
        have room : compat.buffer.length < buf.length := by omega
        have copied : copyFromSlice buf 0 compat.buffer.length compat.buffer =
            .some (compat.buffer ++ buf.drop compat.buffer.length) :=
          if_pos ⟨Nat.zero_le _, Nat.le_of_lt room, rfl⟩
        rw [copied]
        exact .drains idle (fun none => some (List.isEmpty_iff.mpr none)) room

theorem stepped_of_step (taken : step compat action = some next) : Stepped compat action next := by
  cases action with
  | send message =>
      rw [step] at taken
      split at taken
      · cases taken
      · rename_i open'
        cases taken
        exact .send (Bool.eq_false_iff.mpr open')
  | close =>
      rw [step] at taken
      split at taken
      · cases taken
      · rename_i open'
        cases taken
        exact .close (Bool.eq_false_iff.mpr open')
  | read buf =>
      rw [step] at taken
      split at taken
      · rename_i idle
        cases taken
        exact beginRead_stepped idle buf
      · cases taken
  | channelRecv =>
      rw [step] at taken
      split at taken
      · rename_i buf data queue waiting found
        cases taken
        by_cases fits : buf.length ≤ data.length
        · rw [storeFirst_fits fits]
          exact .first waiting found fits
        · rw [storeFirst_short (Nat.lt_of_not_le fits)]
          exact .mismatch waiting found (Nat.lt_of_not_le fits)
      · rename_i buf waiting empty
        split at taken
        · rename_i closed
          cases taken
          exact .ended waiting empty closed
        · cases taken
      · cases taken
  | tryChannelRecv =>
      rw [step] at taken
      split at taken
      · rename_i buf totalRead filling
        split at taken
        · rename_i room
          split at taken
          · rename_i data queue found
            cases taken
            rw [storeNext_eq room]
            exact .more filling room found
          · rename_i empty
            cases taken
            exact .returns filling fun _ => empty
        · rename_i full
          cases taken
          exact .returns filling fun room => absurd room full
      · cases taken

/-! ## The stream of bytes -/

/-- The first bytes of the caller's buffer, as many as were returned. -/
def outcomeBytes : Outcome → Bytes
  | .returned buf count => buf.take count
  | .panicked => []

def delivered (outcomes : List Outcome) : Bytes := outcomes.flatMap outcomeBytes

/-- The bytes that the read in progress has copied. -/
def copied : Phase → Bytes
  | .idle => []
  | .receiving _ => []
  | .filling buf totalRead => buf.take totalRead

/-- Nothing is left over while the caller's buffer has room. -/
def Leaves (buffer : Bytes) : Phase → Prop
  | .idle => True
  | .receiving _ => buffer = []
  | .filling buf totalRead => totalRead ≤ buf.length ∧ (totalRead < buf.length → buffer = [])

/-- What was delivered, what is being copied and what is left over are the messages received,
one after the other. -/
structure Balanced (compat : ChannelCompat) : Prop where
  stream : delivered compat.outcomes ++ copied compat.phase ++ compat.buffer =
    compat.received.flatten
  leaves : Leaves compat.buffer compat.phase

@[simp] theorem delivered_append (outcomes : List Outcome) (outcome : Outcome) :
    delivered (outcomes ++ [outcome]) = delivered outcomes ++ outcomeBytes outcome := by
  simp [delivered]

/-- A message copied to a buffer that has room is what is behind the bytes copied before. -/
theorem take_filled {buf data : Bytes} {totalRead : Nat} (room : totalRead < buf.length) :
    (filled buf totalRead data).take (totalRead + min data.length (buf.length - totalRead)) =
      buf.take totalRead ++ data.take (buf.length - totalRead) := by
  refine List.take_left' ?_
  rw [List.length_append, List.length_take, List.length_take]
  omega

theorem length_filled {buf data : Bytes} {totalRead : Nat} (room : totalRead < buf.length) :
    (filled buf totalRead data).length = buf.length := by
  simp only [filled, List.length_append, List.length_take, List.length_drop]
  omega

theorem Stepped.panicked_mem (stepped : Stepped compat action next)
    (panicked : .panicked ∈ compat.outcomes) : .panicked ∈ next.outcomes := by
  cases stepped <;> first | exact panicked | exact List.mem_append_left _ panicked

theorem Stepped.balanced (stepped : Stepped compat action next)
    (calm : .panicked ∉ next.outcomes) (before : Balanced compat) : Balanced next := by
  obtain ⟨stream, leaves⟩ := before
  cases stepped with
  | send => exact ⟨stream, leaves⟩
  | close => exact ⟨stream, leaves⟩
  | leftover idle enough =>
      rw [idle, copied, List.append_nil] at stream
      refine ⟨?_, trivial⟩
      simp only [finish, delivered_append, outcomeBytes, copied]
      rw [← stream, List.append_nil, List.append_assoc, List.take_take, Nat.min_self,
        List.take_append_drop]
  | refused => exact absurd (List.mem_append_right _ List.mem_cons_self) calm
  | waits idle none =>
      rw [idle] at stream
      exact ⟨stream, none⟩
  | drains idle some room =>
      rw [idle, copied, List.append_nil] at stream
      refine ⟨?_, Nat.le_of_lt ?_, fun _ => rfl⟩
      · simp only [copied]
        rw [← stream, List.take_left, List.append_nil]
      · rw [List.length_append, List.length_drop]
        omega
  | ended waiting empty closed =>
      rw [waiting] at stream leaves
      refine ⟨?_, trivial⟩
      simp only [finish, delivered_append, outcomeBytes, copied]
      rw [← stream, copied, List.take_zero, List.append_nil]
  | first waiting found fits =>
      rw [waiting] at stream leaves
      refine ⟨?_, Nat.le_of_eq ?_, ?_⟩
      · simp only [takeMessage, copied, List.flatten_append, List.flatten_singleton]
        rw [← stream, show compat.buffer = [] from leaves, copied, List.take_take, Nat.min_self,
          List.append_nil, List.append_nil, List.nil_append, List.append_assoc,
          List.take_append_drop]
      · rw [List.length_take]
        omega
      · intro room
        rw [List.length_take] at room
        omega
  | mismatch => exact absurd (List.mem_append_right _ List.mem_cons_self) calm
  | more filling room found =>
      rw [filling] at stream leaves
      refine ⟨?_, ?_, ?_⟩
      · simp only [takeMessage, copied, List.flatten_append, List.flatten_singleton]
        rw [← stream, leaves.2 room, take_filled room, copied, List.append_nil, List.nil_append,
          List.append_assoc, List.append_assoc, List.take_append_drop, List.append_assoc]
      · rw [length_filled room]
        omega
      · intro more
        rw [length_filled room] at more
        simp only [leaves.2 room, List.nil_append, List.drop_eq_nil_iff]
        omega
  | returns filling stops =>
      rw [filling] at stream
      refine ⟨?_, trivial⟩
      simp only [finish, delivered_append, outcomeBytes, copied]
      rw [← stream, copied, List.append_nil]

/-- The channel loses nothing, also where a read panics. -/
theorem Stepped.received_append_queue (stepped : Stepped compat action next)
    (before : compat.received ++ compat.inner.queue = compat.sent) :
    next.received ++ next.inner.queue = next.sent := by
  cases stepped with
  | send =>
      simp only [← before, List.append_assoc]
  | first waiting found fits =>
      rw [found] at before
      exact (List.append_assoc _ _ _).trans before
  | mismatch waiting found short =>
      rw [found] at before
      exact (List.append_assoc _ _ _).trans before
  | more filling room found =>
      rw [found] at before
      exact (List.append_assoc _ _ _).trans before
  | _ => exact before

section Runs

variable {past : List (ChannelCompat × Action)} {last : ChannelCompat}

theorem sent_eq_of_run (run : Run step new past last) :
    last.received ++ last.inner.queue = last.sent :=
  run.invariant (fun compat => compat.received ++ compat.inner.queue = compat.sent) rfl
    fun taken before => (stepped_of_step taken).received_append_queue before

theorem balanced_of_run (run : Run step new past last) (calm : .panicked ∉ last.outcomes) :
    Balanced last := by
  induction run with
  | start => exact ⟨rfl, trivial⟩
  | next before taken ih =>
      have stepped := stepped_of_step taken
      exact stepped.balanced calm (ih fun panicked => calm (stepped.panicked_mem panicked))

/-- As long as no read has panicked, the bytes that the reads returned, those that a read in
progress has copied, and those left over are the messages received, which are the first of
those sent. -/
theorem bytes_of_messages (run : Run step new past last) (calm : .panicked ∉ last.outcomes) :
    (last.phase = .idle → delivered last.outcomes ++ last.buffer = last.received.flatten) ∧
    delivered last.outcomes ++ copied last.phase ++ last.buffer = last.received.flatten ∧
    last.received ++ last.inner.queue = last.sent := by
  have balanced := balanced_of_run run calm
  refine ⟨fun idle => ?_, balanced.stream, sent_eq_of_run run⟩
  have stream := balanced.stream
  rw [idle, copied, List.append_nil] at stream
  exact stream

end Runs

/-- A message is read in two parts, and the second read takes messages that are sent while it
goes on. -/
def overlappingActions : List Action :=
  [.send [1, 2, 3, 4, 5], .read [0, 0, 0], .channelRecv, .tryChannelRecv, .read [0, 0, 0, 0, 0],
    .send [6, 7], .tryChannelRecv, .send [8, 9], .tryChannelRecv, .tryChannelRecv]

theorem overlappingActions_deliver :
    ∃ past last, Run step new past last ∧ .panicked ∉ last.outcomes ∧
      delivered last.outcomes = [1, 2, 3, 4, 5, 6, 7, 8] ∧
      delivered last.outcomes ++ last.buffer = last.received.flatten := by
  obtain ⟨⟨past, last⟩, followed⟩ :
      ∃ reached, Concurrent.follow step [] new overlappingActions = some reached := ⟨_, rfl⟩
  have run : Run step new past last := Run.start.follow followed
  have calm : .panicked ∉ last.outcomes := by
    cases followed
    decide
  have idle : last.phase = .idle := by
    cases followed
    rfl
  have bytes : delivered last.outcomes = [1, 2, 3, 4, 5, 6, 7, 8] := by
    cases followed
    rfl
  exact ⟨past, last, run, calm, bytes, (bytes_of_messages run calm).1 idle⟩

/-! ## What the reads answer -/

/-- `AVERROR_EOF`: the negated tag of the letters `EOF` and a blank. -/
def averrorEof : Int32 := -541478725

/-- `read_packet` for a read that returns a count. -/
def readPacket (count : Nat) : Int32 :=
  let ret := Int32.ofNat count
  if ret = 0 then averrorEof else ret

theorem readPacket_eof_iff {count : Nat} (small : count < 2 ^ 31) :
    readPacket count = averrorEof ↔ count = 0 := by
  have value : (Int32.ofNat count).toInt = count := Int32.toInt_ofNat_of_lt small
  have negative : averrorEof.toInt = -541478725 := rfl
  unfold readPacket
  constructor
  · intro eof
    dsimp only at eof
    split at eof
    · rename_i zero
      rw [zero, Int32.toInt_zero] at value
      omega
    · rw [eof, negative] at value
      omega
  · rintro rfl
    rfl

/-- Every read returned, with a count that its buffer has room for, and a count of zero means
that the channel is closed and that all of it was delivered. -/
structure Answers (compat : ChannelCompat) : Prop where
  returned : ∀ outcome ∈ compat.outcomes, ∃ buf count, outcome = .returned buf count ∧
    count ≤ buf.length ∧ (buf.length < 2 ^ 31 → (readPacket count = averrorEof ↔ count = 0))
  ended : ∀ buf, .returned buf 0 ∈ compat.outcomes →
    compat.inner.closed = true ∧ delivered compat.outcomes = compat.sent.flatten

/-- A message that a read waited for has at least the length of the caller's buffer. -/
def fillsBuffer (compat : ChannelCompat) : Action → Bool
  | .channelRecv =>
      match compat.phase, compat.inner.queue with
      | .receiving buf, data :: _ => buf.length ≤ data.length
      | _, _ => true
  | _ => true

/-- The caller's buffer has room for a byte. -/
def hasRoom : Action → Bool
  | .read buf => !buf.isEmpty
  | _ => true

/-- Nothing will come any more. -/
structure Drained (compat : ChannelCompat) : Prop where
  closed : compat.inner.closed = true
  queue : compat.inner.queue = []
  buffer : compat.buffer = []
  phase : ∀ buf totalRead, compat.phase ≠ .filling buf totalRead

/-- A read in progress has copied a byte, or waits for one. -/
def Begun : Phase → Prop
  | .idle => True
  | .receiving buf => 0 < buf.length
  | .filling _ totalRead => 0 < totalRead

structure Sound (compat : ChannelCompat) : Prop where
  balanced : Balanced compat
  calm : .panicked ∉ compat.outcomes
  clear : compat.poisoned = false
  begun : Begun compat.phase
  counts : ∀ buf count, .returned buf count ∈ compat.outcomes → count ≤ buf.length
  drained : ∀ buf, .returned buf 0 ∈ compat.outcomes → Drained compat

theorem Stepped.not_panicked (stepped : Stepped compat action next)
    (fills : compat.fillsBuffer action = true) (clear : compat.poisoned = false)
    (calm : .panicked ∉ compat.outcomes) :
    .panicked ∉ next.outcomes ∧ next.poisoned = false := by
  cases stepped with
  | leftover idle enough => exact ⟨by simpa [finish] using calm, clear⟩
  | refused idle poisoned =>
      rw [clear] at poisoned
      cases poisoned
  | ended waiting empty closed => exact ⟨by simpa [finish] using calm, clear⟩
  | mismatch waiting found short =>
      simp only [fillsBuffer, waiting, found, decide_eq_true_eq] at fills
      omega
  | returns filling stops => exact ⟨by simpa [finish] using calm, clear⟩
  | _ => exact ⟨calm, clear⟩

theorem Stepped.begun (stepped : Stepped compat action next) (room : hasRoom action = true)
    (before : Begun compat.phase) : Begun next.phase := by
  cases stepped with
  | send => exact before
  | close => exact before
  | leftover => trivial
  | refused => trivial
  | @waits buf idle none =>
      cases buf with
      | nil => cases room
      | cons byte buf => exact Nat.succ_pos buf.length
  | drains idle some room => exact List.length_pos_iff.mpr some
  | ended => trivial
  | first waiting found fits =>
      rw [waiting] at before
      exact before
  | mismatch => trivial
  | more filling room found =>
      rw [filling] at before
      exact Nat.lt_of_lt_of_le before (Nat.le_add_right _ _)
  | returns => trivial

/-- What a step adds to the outcomes, if no read panics. -/
theorem Stepped.counts (stepped : Stepped compat action next) (before : Sound compat)
    (calm : .panicked ∉ next.outcomes) :
    ∀ buf count, .returned buf count ∈ next.outcomes → count ≤ buf.length := by
  have added {outcome : Outcome} {buf : Bytes} {count : Nat}
      (small : ∀ buf count, outcome = .returned buf count → count ≤ buf.length)
      (member : .returned buf count ∈ compat.outcomes ++ [outcome]) : count ≤ buf.length := by
    rcases List.mem_append.mp member with old | new
    · exact before.counts buf count old
    · exact small buf count (List.mem_singleton.mp new).symm
  cases stepped with
  | leftover idle enough =>
      refine fun _ _ member => added ?_ member
      rintro _ _ ⟨⟩
      rw [List.length_take]
      omega
  | refused => exact absurd (List.mem_append_right _ List.mem_cons_self) calm
  | ended waiting empty closed =>
      refine fun _ _ member => added ?_ member
      rintro _ _ ⟨⟩
      exact Nat.zero_le _
  | mismatch => exact absurd (List.mem_append_right _ List.mem_cons_self) calm
  | returns filling stops =>
      refine fun _ _ member => added ?_ member
      rintro _ _ ⟨⟩
      have leaves := before.balanced.leaves
      rw [filling] at leaves
      exact leaves.1
  | _ => exact before.counts

/-- A count of zero comes only from a receive that finds the channel closed and empty, and
then no step brings anything back. -/
theorem Stepped.drained (stepped : Stepped compat action next) (room : hasRoom action = true)
    (before : Sound compat) (calm : .panicked ∉ next.outcomes) :
    ∀ buf, .returned buf 0 ∈ next.outcomes → Drained next := by
  intro target member
  cases stepped with
  | send open' =>
      have closed := (before.drained target member).closed
      rw [open'] at closed
      cases closed
  | close =>
      obtain ⟨_, queue, buffer, phase⟩ := before.drained target member
      exact ⟨rfl, queue, buffer, phase⟩
  | @leftover buf idle enough =>
      have filled : buf.length ≠ 0 := by
        intro empty
        rw [hasRoom, List.length_eq_zero_iff.mp empty] at room
        cases room
      rcases List.mem_append.mp member with old | new
      · rw [(before.drained target old).buffer] at enough
        exact absurd (Nat.le_zero.mp enough) filled
      · have zero := (Outcome.returned.inj (List.mem_singleton.mp new)).2
        exact absurd zero.symm filled
  | refused => exact absurd (List.mem_append_right _ List.mem_cons_self) calm
  | waits idle none =>
      obtain ⟨closed, queue, buffer, _⟩ := before.drained target member
      exact ⟨closed, queue, buffer, fun _ _ => Phase.noConfusion⟩
  | drains idle some room => exact absurd (before.drained target member).buffer some
  | ended waiting empty closed =>
      have leaves := before.balanced.leaves
      rw [waiting] at leaves
      exact ⟨closed, empty, leaves, fun _ _ => Phase.noConfusion⟩
  | first waiting found fits =>
      have queue := (before.drained target member).queue
      rw [found] at queue
      cases queue
  | mismatch => exact absurd (List.mem_append_right _ List.mem_cons_self) calm
  | more filling room found => exact absurd filling ((before.drained target member).phase _ _)
  | returns filling stops =>
      rcases List.mem_append.mp member with old | new
      · exact absurd filling ((before.drained target old).phase _ _)
      · cases List.mem_singleton.mp new
        have begun := before.begun
        rw [filling] at begun
        cases begun

theorem Stepped.sound (stepped : Stepped compat action next) (room : hasRoom action = true)
    (fills : compat.fillsBuffer action = true) (before : Sound compat) : Sound next := by
  obtain ⟨calm, clear⟩ := stepped.not_panicked fills before.clear before.calm
  exact ⟨stepped.balanced calm before.balanced, calm, clear, stepped.begun room before.begun,
    stepped.counts before calm, stepped.drained room before calm⟩

theorem Sound.answers (sound : Sound compat)
    (channel : compat.received ++ compat.inner.queue = compat.sent) : Answers compat := by
  constructor
  · intro outcome member
    cases outcome with
    | panicked => exact absurd member sound.calm
    | returned buf count =>
        have within := sound.counts buf count member
        exact ⟨buf, count, rfl, within, fun small => readPacket_eof_iff (by omega)⟩
  · intro buf member
    obtain ⟨closed, queue, buffer, phase⟩ := sound.drained buf member
    refine ⟨closed, ?_⟩
    have none : copied compat.phase = [] := by
      cases known : compat.phase with
      | idle => rfl
      | receiving buf => rfl
      | filling buf totalRead => exact absurd known (phase buf totalRead)
    have stream := sound.balanced.stream
    rw [none, buffer, List.append_nil, List.append_nil] at stream
    rw [queue, List.append_nil] at channel
    rw [stream, channel]

theorem Stepped.panics (stepped : Stepped compat action next)
    (short : compat.fillsBuffer action = false) : .panicked ∈ next.outcomes := by
  cases stepped with
  | first waiting found fits =>
      simp only [fillsBuffer, waiting, found, decide_eq_false_iff_not] at short
      exact absurd fits short
  | mismatch => exact List.mem_append_right _ List.mem_cons_self
  | ended waiting empty closed =>
      simp only [fillsBuffer, waiting, empty] at short
      cases short
  | _ => cases short

section Answering

variable {past : List (ChannelCompat × Action)} {last : ChannelCompat}

theorem sound_of_run (run : Run step new past last)
    (room : ∀ taken ∈ past, hasRoom taken.2 = true)
    (fills : ∀ taken ∈ past, taken.1.fillsBuffer taken.2 = true) : Sound last := by
  induction run with
  | start =>
      exact ⟨⟨rfl, trivial⟩, List.not_mem_nil, rfl, trivial, fun _ _ => nofun, fun _ => nofun⟩
  | next before taken ih =>
      rw [List.forall_mem_cons] at room fills
      exact (stepped_of_step taken).sound room.1 fills.1 (ih room.2 fills.2)

theorem answers_of_run (run : Run step new past last)
    (room : ∀ taken ∈ past, hasRoom taken.2 = true)
    (fills : ∀ taken ∈ past, taken.1.fillsBuffer taken.2 = true) :
    ∀ state ∈ visited past last, Answers state := by
  have now := (sound_of_run run room fills).answers (sent_eq_of_run run)
  induction run with
  | start => exact List.forall_mem_singleton.mpr now
  | next before taken ih =>
      rw [List.forall_mem_cons] at room fills
      have earlier := (sound_of_run before room.2 fills.2).answers (sent_eq_of_run before)
      exact List.forall_mem_cons.mpr ⟨now, ih room.2 fills.2 earlier⟩

/-- A panic stays on record. -/
theorem panicked_of_short (run : Run step new past last) {taken : ChannelCompat × Action}
    (member : taken ∈ past) (short : taken.1.fillsBuffer taken.2 = false) :
    .panicked ∈ last.outcomes := by
  induction run with
  | start => cases member
  | next before moved ih =>
      have stepped := stepped_of_step moved
      rcases List.mem_cons.mp member with rfl | old
      · exact stepped.panics short
      · exact stepped.panicked_mem (ih old)

/-! ### Every read comes to its end -/

def isReceive : Action → Bool
  | .channelRecv => true
  | .tryChannelRecv => true
  | _ => false

def isRead : Action → Bool
  | .read _ => true
  | _ => false

/-- The receives that were tried in a run. -/
def receives (past : List (ChannelCompat × Action)) : Nat :=
  past.countP fun taken => isReceive taken.2

def reads (past : List (ChannelCompat × Action)) : Nat := past.countP fun taken => isRead taken.2

def inProgress : Phase → Nat
  | .idle => 0
  | _ => 1

/-- A receive takes a message or ends its read. -/
theorem Stepped.receives_le (stepped : Stepped compat action next) :
    (if isReceive action = true then 1 else 0) + inProgress next.phase + compat.received.length ≤
      (if isRead action = true then 1 else 0) + inProgress compat.phase + next.received.length := by
  cases stepped with
  | send => exact Nat.le_refl _
  | close => exact Nat.le_refl _
  | leftover idle enough => simp [isReceive, finish, inProgress]
  | refused idle poisoned => simp [isReceive, finish, inProgress]
  | waits idle none => simp [isReceive, isRead, inProgress]
  | drains idle some room => simp [isReceive, isRead, inProgress]
  | ended waiting empty closed => simp [isReceive, finish, inProgress, waiting]
  | first waiting found fits =>
      simp [isReceive, isRead, takeMessage, inProgress, waiting, Nat.add_comm, Nat.add_left_comm]
  | mismatch waiting found short =>
      simp [isReceive, isRead, panicLocked, finish, takeMessage, inProgress, waiting, Nat.add_comm,
        Nat.add_left_comm]
  | more filling room found =>
      simp [isReceive, isRead, takeMessage, inProgress, filling, Nat.add_comm, Nat.add_left_comm]
  | returns filling stops => simp [isReceive, finish, inProgress, filling]

theorem receives_le_of_run (run : Run step new past last) :
    receives past + inProgress last.phase ≤ last.received.length + reads past := by
  induction run with
  | start => exact Nat.le_refl 0
  | next before taken ih =>
      have moved := (stepped_of_step taken).receives_le
      simp only [receives, reads, List.countP_cons] at ih ⊢
      omega

/-- A read in progress can go on, unless it waits for a message on a channel that is open and
empty; and with so many messages and reads it does not go on forever. -/
structure Proceeds (past : List (ChannelCompat × Action)) (last : ChannelCompat) : Prop where
  bounded : receives past ≤ last.sent.length + reads past
  filling : ∀ buf totalRead, last.phase = .filling buf totalRead →
    (step last .tryChannelRecv).isSome = true
  receiving : ∀ buf, last.phase = .receiving buf →
    last.inner.queue ≠ [] ∨ last.inner.closed = true → (step last .channelRecv).isSome = true

theorem proceeds_of_run (run : Run step new past last) : Proceeds past last := by
  constructor
  · have taken := receives_le_of_run run
    have sent := congrArg List.length (sent_eq_of_run run)
    rw [List.length_append] at sent
    omega
  · intro buf totalRead filling
    simp only [step, filling]
    split
    · split <;> rfl
    · rfl
  · intro buf waiting comes
    simp only [step, waiting]
    cases known : last.inner.queue with
    | cons data queue => rfl
    | nil =>
        rw [comes.resolve_left fun some => some known]
        rfl

/-- In a run whose reads all have a buffer with room, every read returned and no end was false
exactly when each message that a read waited for had at least the length of its buffer. -/
theorem reads_answer_iff (run : Run step new past last)
    (room : ∀ taken ∈ past, hasRoom taken.2 = true) :
    ((∀ state ∈ visited past last, Answers state) ↔
      ∀ taken ∈ past, taken.1.fillsBuffer taken.2 = true) ∧ Proceeds past last := by
  refine ⟨⟨fun answers taken member => ?_, answers_of_run run room⟩, proceeds_of_run run⟩
  by_contra short
  have panicked := panicked_of_short run member (Bool.eq_false_iff.mpr short)
  obtain ⟨buf, count, returned, _⟩ := (answers last List.mem_cons_self).returned _ panicked
  cases returned

end Answering

/-- The bytes are read to the last, the channel is closed, and a read finds its end. -/
def drainingActions : List Action :=
  overlappingActions ++ [.read [0], .read [0], .close, .channelRecv]

theorem drainingActions_answer :
    ∃ past last, Run step new past last ∧ (∀ taken ∈ past, hasRoom taken.2 = true) ∧
      last.outcomes.getLast? = some (.returned [0] 0) ∧ Answers last ∧ Proceeds past last := by
  obtain ⟨⟨past, last⟩, followed⟩ :
      ∃ reached, Concurrent.follow step [] new drainingActions = some reached := ⟨_, rfl⟩
  have run : Run step new past last := Run.start.follow followed
  have room : ∀ taken ∈ past, hasRoom taken.2 = true := by
    cases followed
    decide
  have fills : ∀ taken ∈ past, taken.1.fillsBuffer taken.2 = true := by
    cases followed
    decide
  have end' : last.outcomes.getLast? = some (.returned [0] 0) := by
    cases followed
    rfl
  have answered := reads_answer_iff run room
  exact ⟨past, last, run, room, end', answered.1.mpr fills last List.mem_cons_self, answered.2⟩

/-- A message of one byte for a buffer of two, and another read behind it. -/
def shortActions : List Action :=
  [.send [1], .read [0, 0], .channelRecv, .send [2, 3], .read [0, 0]]

/-- The first read panics, and so does the next one at the mutex. -/
theorem shortActions_panic :
    ∃ past last, Run step new past last ∧ (∀ taken ∈ past, hasRoom taken.2 = true) ∧
      last.outcomes = [.panicked, .panicked] ∧ ¬∀ state ∈ visited past last, Answers state := by
  obtain ⟨⟨past, last⟩, followed⟩ :
      ∃ reached, Concurrent.follow step [] new shortActions = some reached := ⟨_, rfl⟩
  have room : ∀ taken ∈ past, hasRoom taken.2 = true := by
    cases followed
    decide
  have outcomes : last.outcomes = [.panicked, .panicked] := by
    cases followed
    rfl
  refine ⟨past, last, Run.start.follow followed, room, outcomes, fun answers => ?_⟩
  have returned := (answers last List.mem_cons_self).returned .panicked
    (outcomes ▸ List.mem_cons_self)
  obtain ⟨buf, count, same, _⟩ := returned
  cases same

end ChannelCompat

end ScuffleVideo.Ffmpeg
