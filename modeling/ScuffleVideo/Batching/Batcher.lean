import ScuffleVideo.Concurrent.BatchQueue

/-!
# The batcher

Callers hand requests to a batcher, which collects them in batches for an executor.  A
caller holds the lock on the current batch while it hands in its requests, one after the
other; a full batch becomes a task at once, and a timer takes the batch that has waited too
long.  Each request carries a handle on which the executor may answer, during its run or
later, and which it may also drop.  The caller then waits for its answers in order.

A caller may be dropped at any time, and a task may be dropped before or during its run.
-/

namespace ScuffleVideo.Batching

open Concurrent

/-- The handle of a request: the call that handed it in and its place there. -/
structure Handle where
  call : Nat
  position : Nat
  deriving DecidableEq, Repr

/-- The channel behind a handle. -/
inductive Channel (Response : Type) where
  | held
  | sent (response : Response)
  | dropped
  deriving DecidableEq, Repr

inductive CallPhase where
  | locking
  | pushing
  | awaiting
  | returned
  | abandoned
  deriving DecidableEq, Repr

/-- A call of `execute_many`: its items, the channels of those that it has handed in, and
the results it has so far. -/
structure Call (Request Response : Type) where
  items : List Request
  phase : CallPhase
  responses : List (Channel Response)
  results : List (Option Response)
  deriving DecidableEq, Repr

/-- The requests of a batch with their handles. -/
abbrev Batch (Request : Type) := List (Request × Handle)

/-- The batcher with the calls on it and a record of all requests in the order in which
they were handed in. -/
structure Batcher (Request Response : Type) where
  batchSize : Nat
  queue : BatchQueue (Batch Request)
  lock : Option Nat
  calls : List (Call Request Response)
  submitted : Batch Request
  deriving DecidableEq, Repr

inductive Action (Request Response : Type) where
  | executeMany (items : List Request)
  | acquire (call : Nat)
  | push (call : Nat)
  | unlock (call : Nat)
  | receive (call : Nat)
  | abandon (call : Nat)
  | move (move : QueueMove)
  | respond (handle : Handle) (response : Response)
  | discard (handle : Handle)
  deriving DecidableEq, Repr

namespace Batcher

variable {Request Response : Type}

def new (batchSize concurrency : Nat) : Batcher Request Response :=
  ⟨max batchSize 1, .new (max concurrency 1), none, [], []⟩

def setCall (batcher : Batcher Request Response) (index : Nat) (call : Call Request Response) :
    Batcher Request Response :=
  { batcher with calls := batcher.calls.set index call }

/-- The channel of a handle. -/
def channel (batcher : Batcher Request Response) (handle : Handle) : Option (Channel Response) :=
  match batcher.calls[handle.call]? with
  | some call => call.responses[handle.position]?
  | none => none

def setChannel (batcher : Batcher Request Response) (handle : Handle)
    (channel : Channel Response) : Batcher Request Response :=
  match batcher.calls[handle.call]? with
  | some call =>
      batcher.setCall handle.call
        { call with responses := call.responses.set handle.position channel }
  | none => batcher

/-- A task whose phase is one of these has the handle. -/
def ownedBy (batcher : Batcher Request Response) (phases : TaskPhase → Bool) (handle : Handle) :
    Bool :=
  batcher.queue.tasks.any fun task =>
    phases task.phase && task.batch.any fun entry => entry.2 = handle

/-- Hand the next item in.  The first item of a batch begins it, and the last one spawns
its task. -/
def push (batcher : Batcher Request Response) (index : Nat) (call : Call Request Response)
    (item : Request) : Batcher Request Response :=
  let entry := (item, (⟨index, call.responses.length⟩ : Handle))
  let batch := batcher.queue.current.getD [] ++ [entry]
  { batcher.setCall index { call with responses := call.responses ++ [.held] } with
    queue := batcher.queue.put batch (batch.length ≥ batcher.batchSize)
    submitted := batcher.submitted ++ [entry] }

def receive (batcher : Batcher Request Response) (index : Nat) (call : Call Request Response) :
    Option (Batcher Request Response) :=
  match call.responses[call.results.length]? with
  | none => some (batcher.setCall index { call with phase := .returned })
  | some (.sent response) =>
      some (batcher.setCall index { call with results := call.results ++ [some response] })
  | some .dropped => some (batcher.setCall index { call with results := call.results ++ [none] })
  | some .held => none

/-- A step of a call. -/
def proceed (batcher : Batcher Request Response) (index : Nat)
    (next : Call Request Response → Option (Batcher Request Response)) :
    Option (Batcher Request Response) :=
  match batcher.calls[index]? with
  | some call => next call
  | none => none

def step (batcher : Batcher Request Response) :
    Action Request Response → Option (Batcher Request Response)
  | .executeMany items =>
      some { batcher with calls := batcher.calls ++ [⟨items, .locking, [], []⟩] }
  | .acquire index => batcher.proceed index fun call =>
      if call.phase = .locking ∧ batcher.lock = none then
        some { batcher.setCall index { call with phase := .pushing } with lock := some index }
      else none
  | .push index => batcher.proceed index fun call =>
      if call.phase = .pushing then
        match call.items[call.responses.length]? with
        | some item => some (batcher.push index call item)
        | none => none
      else none
  | .unlock index => batcher.proceed index fun call =>
      if call.phase = .pushing ∧ call.items.length ≤ call.responses.length then
        some { batcher.setCall index { call with phase := .awaiting } with lock := none }
      else none
  | .receive index => batcher.proceed index fun call =>
      if call.phase = .awaiting then batcher.receive index call else none
  | .abandon index => batcher.proceed index fun call =>
      if call.phase = .returned then none
      else
        some { batcher.setCall index { call with phase := .abandoned } with
          lock := if call.phase = .pushing then none else batcher.lock }
  | .move move =>
      -- The timer takes the lock for its look at the current batch.
      if move = .flush ∧ batcher.lock ≠ none then none
      else (batcher.queue.step move).map fun queue => { batcher with queue := queue }
  | .respond handle response =>
      match batcher.ownedBy TaskPhase.hasRun handle, batcher.channel handle with
      | true, some .held => some (batcher.setChannel handle (.sent response))
      | _, _ => none
  | .discard handle =>
      match batcher.ownedBy (· ≠ .spawned) handle, batcher.channel handle with
      | true, some .held => some (batcher.setChannel handle .dropped)
      | _, _ => none

/-! ## What a step does -/

/-- The steps, one by one. -/
inductive Steps (batcher : Batcher Request Response) :
    Action Request Response → Batcher Request Response → Prop where
  | executeMany {items : List Request} :
      Steps batcher (.executeMany items)
        { batcher with calls := batcher.calls ++ [⟨items, .locking, [], []⟩] }
  | acquire {index : Nat} {call : Call Request Response}
      (found : batcher.calls[index]? = some call) (phase : call.phase = .locking)
      (free : batcher.lock = none) :
      Steps batcher (.acquire index)
        { batcher.setCall index { call with phase := .pushing } with lock := some index }
  | push {index : Nat} {call : Call Request Response} {item : Request}
      (found : batcher.calls[index]? = some call) (phase : call.phase = .pushing)
      (next : call.items[call.responses.length]? = some item) :
      Steps batcher (.push index) (batcher.push index call item)
  | unlock {index : Nat} {call : Call Request Response}
      (found : batcher.calls[index]? = some call) (phase : call.phase = .pushing)
      (all : call.items.length ≤ call.responses.length) :
      Steps batcher (.unlock index)
        { batcher.setCall index { call with phase := .awaiting } with lock := none }
  | returns {index : Nat} {call : Call Request Response}
      (found : batcher.calls[index]? = some call) (phase : call.phase = .awaiting)
      (done : call.responses[call.results.length]? = none) :
      Steps batcher (.receive index) (batcher.setCall index { call with phase := .returned })
  | receivesSent {index : Nat} {call : Call Request Response} {response : Response}
      (found : batcher.calls[index]? = some call) (phase : call.phase = .awaiting)
      (ready : call.responses[call.results.length]? = some (.sent response)) :
      Steps batcher (.receive index)
        (batcher.setCall index { call with results := call.results ++ [some response] })
  | receivesDropped {index : Nat} {call : Call Request Response}
      (found : batcher.calls[index]? = some call) (phase : call.phase = .awaiting)
      (ready : call.responses[call.results.length]? = some .dropped) :
      Steps batcher (.receive index)
        (batcher.setCall index { call with results := call.results ++ [none] })
  | abandon {index : Nat} {call : Call Request Response}
      (found : batcher.calls[index]? = some call) (unfinished : call.phase ≠ .returned) :
      Steps batcher (.abandon index)
        { batcher.setCall index { call with phase := .abandoned } with
          lock := if call.phase = .pushing then none else batcher.lock }
  | move {move : QueueMove} {queue : BatchQueue (Batch Request)}
      (free : ¬(move = .flush ∧ batcher.lock ≠ none)) (taken : batcher.queue.step move = some queue) :
      Steps batcher (.move move) { batcher with queue := queue }
  | respond {handle : Handle} {response : Response}
      (owned : batcher.ownedBy TaskPhase.hasRun handle = true)
      (held : batcher.channel handle = some .held) :
      Steps batcher (.respond handle response) (batcher.setChannel handle (.sent response))
  | discard {handle : Handle} (owned : batcher.ownedBy (· ≠ .spawned) handle = true)
      (held : batcher.channel handle = some .held) :
      Steps batcher (.discard handle) (batcher.setChannel handle .dropped)

theorem exists_of_proceed {batcher after : Batcher Request Response} {index : Nat}
    {next : Call Request Response → Option (Batcher Request Response)}
    (taken : batcher.proceed index next = some after) :
    ∃ call, batcher.calls[index]? = some call ∧ next call = some after := by
  unfold proceed at taken
  split at taken
  · rename_i call found
    exact ⟨call, found, taken⟩
  · cases taken

/-- Every step is one of them. -/
theorem steps_of_step {batcher next : Batcher Request Response} {action : Action Request Response}
    (taken : batcher.step action = some next) : Steps batcher action next := by
  cases action with
  | executeMany items =>
      cases taken
      exact .executeMany
  | acquire index =>
      obtain ⟨call, found, taken⟩ := exists_of_proceed taken
      split at taken
      · rename_i ready
        cases taken
        exact .acquire found ready.1 ready.2
      · cases taken
  | push index =>
      obtain ⟨call, found, taken⟩ := exists_of_proceed taken
      split at taken
      · rename_i phase
        split at taken
        · rename_i item there
          cases taken
          exact .push found phase there
        · cases taken
      · cases taken
  | unlock index =>
      obtain ⟨call, found, taken⟩ := exists_of_proceed taken
      split at taken
      · rename_i ready
        cases taken
        exact .unlock found ready.1 ready.2
      · cases taken
  | receive index =>
      obtain ⟨call, found, taken⟩ := exists_of_proceed taken
      split at taken
      · rename_i phase
        unfold receive at taken
        split at taken
        · rename_i done
          cases taken
          exact .returns found phase done
        · rename_i response ready
          cases taken
          exact .receivesSent found phase ready
        · rename_i ready
          cases taken
          exact .receivesDropped found phase ready
        · cases taken
      · cases taken
  | abandon index =>
      obtain ⟨call, found, taken⟩ := exists_of_proceed taken
      split at taken
      · cases taken
      · rename_i unfinished
        cases taken
        exact .abandon found unfinished
  | move move =>
      simp only [step] at taken
      split at taken
      · cases taken
      · rename_i free
        obtain ⟨queue, moved, rfl⟩ := Option.map_eq_some_iff.mp taken
        exact .move free moved
  | respond handle response =>
      simp only [step] at taken
      split at taken
      · rename_i owned held
        cases taken
        exact .respond owned held
      · cases taken
  | discard handle =>
      simp only [step] at taken
      split at taken
      · rename_i owned held
        cases taken
        exact .discard owned held
      · cases taken

end Batcher

end ScuffleVideo.Batching
