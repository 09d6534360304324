import Mathlib.Data.Finset.Card
import ScuffleVideo.Concurrent.BatchQueue

/-!
# The data loader

Callers ask for the values of keys, which the loader collects in batches of distinct keys.
All callers of a batch share its result: a cell that the task of the batch fills once, and
a token that is cancelled when the task is over, whether or not it has filled the cell.  A
caller hands its keys in under the lock, notes for each batch which of its keys went there,
and then waits for these batches one after the other.

The guard that cancels the token exists once the task has been polled.  A task that is
dropped before that leaves its callers waiting.
-/

namespace ScuffleVideo.Batching

open Concurrent

variable {Key Value : Type}

/-- What a fetch has found. -/
abbrev ValueMap (Key Value : Type) := Key → Option Value

/-- The result that the callers of a batch share: what its fetch returned, whether the
guard of the token exists, and whether the token is cancelled. -/
structure BatchResult (Key Value : Type) where
  values : Option (Option (ValueMap Key Value))
  guarded : Bool
  cancelled : Bool

def BatchResult.new : BatchResult Key Value := ⟨none, false, false⟩

/-- The keys of one call in one batch. -/
structure BatchWaiting (Key : Type) where
  keys : Finset Key
  result : Nat

inductive LoadPhase where
  | locking
  | pushing
  | awaiting
  | returned
  | failed
  | abandoned
  deriving DecidableEq, Repr

/-- A call of `load_many`: its items, how many of them it has handed in, where it waits,
for how many of its batches it has waited, and the values it has so far. -/
structure Load (Key Value : Type) where
  items : List Key
  phase : LoadPhase
  count : Nat
  newBatch : Bool
  waiters : List (BatchWaiting Key)
  waited : Nat
  results : ValueMap Key Value

def Load.new (items : List Key) : Load Key Value := ⟨items, .locking, 0, true, [], 0, fun _ => none⟩

/-- The loader with the results of all batches, in the order in which these were begun, and
the calls on it.  `clashed` says that a task found its cell filled. -/
structure DataLoader (Key Value : Type) where
  batchSize : Nat
  queue : BatchQueue (Finset Key)
  results : List (BatchResult Key Value)
  lock : Option Nat
  loads : List (Load Key Value)
  clashed : Bool

inductive LoadAction (Key Value : Type) where
  | loadMany (items : List Key)
  | acquire (load : Nat)
  | push (load : Nat)
  | unlock (load : Nat)
  | wait (load : Nat)
  | abandon (load : Nat)
  | poll (batch : Nat)
  | move (move : QueueMove)
  | complete (batch : Nat) (result : Option (ValueMap Key Value))
  | wake (batch : Nat)

/-- The keys of a call that were found join what it has. -/
def extend [DecidableEq Key] (results : ValueMap Key Value) (keys : Finset Key)
    (found : ValueMap Key Value) : ValueMap Key Value :=
  fun key => if key ∈ keys then (found key).or (results key) else results key

/-- Note a key in the last batch. -/
def insertLast [DecidableEq Key] (item : Key) : List (BatchWaiting Key) → List (BatchWaiting Key)
  | [] => []
  | [waiting] => [{ waiting with keys := insert item waiting.keys }]
  | waiting :: waiters => waiting :: insertLast item waiters

namespace DataLoader

def new (batchSize concurrency : Nat) : DataLoader Key Value :=
  ⟨max batchSize 1, .new (max concurrency 1), [], none, [], false⟩

def setLoad (loader : DataLoader Key Value) (index : Nat) (load : Load Key Value) :
    DataLoader Key Value :=
  { loader with loads := loader.loads.set index load }

def setResult (loader : DataLoader Key Value) (index : Nat) (result : BatchResult Key Value) :
    DataLoader Key Value :=
  { loader with results := loader.results.set index result }

/-- Hand the next item in.  The batch that is open is the one behind the batches of all
tasks. -/
def push [DecidableEq Key] (loader : DataLoader Key Value) (index : Nat) (load : Load Key Value)
    (item : Key) : DataLoader Key Value :=
  let opened := loader.queue.current.isNone
  let batch := insert item (loader.queue.current.getD ∅)
  let waiters :=
    if load.newBatch || opened then load.waiters ++ [⟨∅, loader.queue.tasks.length⟩]
    else load.waiters
  { loader.setLoad index
      { load with
        count := load.count + 1
        newBatch := false
        waiters := insertLast item waiters } with
    queue := loader.queue.put batch (batch.card ≥ loader.batchSize)
    results := if opened then loader.results ++ [.new] else loader.results }

/-- Wait for the next batch of a call, until its token is cancelled. -/
def wait [DecidableEq Key] (loader : DataLoader Key Value) (index : Nat) (load : Load Key Value) :
    Option (DataLoader Key Value) :=
  match load.waiters[load.waited]? with
  | none => some (loader.setLoad index { load with phase := .returned })
  | some waiting =>
      match loader.results[waiting.result]? with
      | some ⟨some (some found), _, true⟩ =>
          some (loader.setLoad index
            { load with
              waited := load.waited + 1
              results := extend load.results waiting.keys found })
      | some ⟨_, _, true⟩ => some (loader.setLoad index { load with phase := .failed })
      | _ => none

/-- Fill the cell of a batch. -/
def fill (loader : DataLoader Key Value) (index : Nat) (cell : BatchResult Key Value)
    (result : Option (ValueMap Key Value)) : DataLoader Key Value :=
  match cell.values with
  | some _ => { loader with clashed := true }
  | none => loader.setResult index { cell with values := some result }

/-- The timer takes the lock for its look at the current batch, and a task waits for its
permit behind its guard. -/
def allows (loader : DataLoader Key Value) : QueueMove → Bool
  | .flush => loader.lock.isNone
  | .begin index => loader.results[index]?.any fun cell => cell.guarded
  | .complete _ => false
  | .release _ => true
  | .drop _ => true

/-- A step of a call. -/
def proceed (loader : DataLoader Key Value) (index : Nat)
    (next : Load Key Value → Option (DataLoader Key Value)) : Option (DataLoader Key Value) :=
  match loader.loads[index]? with
  | some load => next load
  | none => none

def step [DecidableEq Key] (loader : DataLoader Key Value) :
    LoadAction Key Value → Option (DataLoader Key Value)
  | .loadMany items => some { loader with loads := loader.loads ++ [.new items] }
  | .acquire index => loader.proceed index fun load =>
      if load.phase = .locking ∧ loader.lock = none then
        some { loader.setLoad index { load with phase := .pushing } with lock := some index }
      else none
  | .push index => loader.proceed index fun load =>
      if load.phase = .pushing then
        match load.items[load.count]? with
        | some item => some (loader.push index load item)
        | none => none
      else none
  | .unlock index => loader.proceed index fun load =>
      if load.phase = .pushing ∧ load.items.length ≤ load.count then
        some { loader.setLoad index { load with phase := .awaiting } with lock := none }
      else none
  | .wait index => loader.proceed index fun load =>
      if load.phase = .awaiting then loader.wait index load else none
  | .abandon index => loader.proceed index fun load =>
      if load.phase = .returned ∨ load.phase = .failed then none
      else
        some { loader.setLoad index { load with phase := .abandoned } with
          lock := if load.phase = .pushing then none else loader.lock }
  | .poll index =>
      match loader.queue.tasks[index]?, loader.results[index]? with
      | some ⟨_, .spawned⟩, some cell =>
          some (loader.setResult index { cell with guarded := true })
      | _, _ => none
  | .move move =>
      if loader.allows move then
        (loader.queue.step move).map fun queue => { loader with queue := queue }
      else none
  | .complete index result =>
      match loader.queue.step (.complete index), loader.results[index]? with
      | some queue, some cell => some ({ loader with queue := queue }.fill index cell result)
      | _, _ => none
  | .wake index =>
      match loader.queue.tasks[index]?, loader.results[index]? with
      | some task, some cell =>
          if task.phase.isOver ∧ cell.guarded then
            some (loader.setResult index { cell with cancelled := true })
          else none
      | _, _ => none

/-! ## What a step does -/

/-- The steps, one by one. -/
inductive Steps [DecidableEq Key] (loader : DataLoader Key Value) :
    LoadAction Key Value → DataLoader Key Value → Prop where
  | loadMany {items : List Key} :
      Steps loader (.loadMany items) { loader with loads := loader.loads ++ [.new items] }
  | acquire {index : Nat} {load : Load Key Value} (found : loader.loads[index]? = some load)
      (phase : load.phase = .locking) (free : loader.lock = none) :
      Steps loader (.acquire index)
        { loader.setLoad index { load with phase := .pushing } with lock := some index }
  | push {index : Nat} {load : Load Key Value} {item : Key}
      (found : loader.loads[index]? = some load) (phase : load.phase = .pushing)
      (there : load.items[load.count]? = some item) :
      Steps loader (.push index) (loader.push index load item)
  | unlock {index : Nat} {load : Load Key Value} (found : loader.loads[index]? = some load)
      (phase : load.phase = .pushing) (all : load.items.length ≤ load.count) :
      Steps loader (.unlock index)
        { loader.setLoad index { load with phase := .awaiting } with lock := none }
  | returns {index : Nat} {load : Load Key Value} (found : loader.loads[index]? = some load)
      (phase : load.phase = .awaiting) (done : load.waiters[load.waited]? = none) :
      Steps loader (.wait index) (loader.setLoad index { load with phase := .returned })
  | gathers {index : Nat} {load : Load Key Value} {waiting : BatchWaiting Key}
      {cell : BatchResult Key Value} {values : ValueMap Key Value}
      (found : loader.loads[index]? = some load) (phase : load.phase = .awaiting)
      (waits : load.waiters[load.waited]? = some waiting)
      (read : loader.results[waiting.result]? = some cell) (woken : cell.cancelled = true)
      (fetched : cell.values = some (some values)) :
      Steps loader (.wait index) (loader.setLoad index
        { load with
          waited := load.waited + 1
          results := extend load.results waiting.keys values })
  | fails {index : Nat} {load : Load Key Value} {waiting : BatchWaiting Key}
      {cell : BatchResult Key Value}
      (found : loader.loads[index]? = some load) (phase : load.phase = .awaiting)
      (waits : load.waiters[load.waited]? = some waiting)
      (read : loader.results[waiting.result]? = some cell) (woken : cell.cancelled = true)
      (nothing : ∀ values, cell.values ≠ some (some values)) :
      Steps loader (.wait index) (loader.setLoad index { load with phase := .failed })
  | abandon {index : Nat} {load : Load Key Value} (found : loader.loads[index]? = some load)
      (unfinished : ¬(load.phase = .returned ∨ load.phase = .failed)) :
      Steps loader (.abandon index)
        { loader.setLoad index { load with phase := .abandoned } with
          lock := if load.phase = .pushing then none else loader.lock }
  | poll {index : Nat} {batch : Finset Key} {cell : BatchResult Key Value}
      (waiting : loader.queue.tasks[index]? = some ⟨batch, .spawned⟩)
      (read : loader.results[index]? = some cell) :
      Steps loader (.poll index) (loader.setResult index { cell with guarded := true })
  | move {move : QueueMove} {queue : BatchQueue (Finset Key)}
      (allowed : loader.allows move = true) (taken : loader.queue.step move = some queue) :
      Steps loader (.move move) { loader with queue := queue }
  | complete {index : Nat} {result : Option (ValueMap Key Value)}
      {queue : BatchQueue (Finset Key)} {cell : BatchResult Key Value}
      (taken : loader.queue.step (.complete index) = some queue)
      (read : loader.results[index]? = some cell) :
      Steps loader (.complete index result)
        ({ loader with queue := queue }.fill index cell result)
  | wake {index : Nat} {task : Concurrent.Task (Finset Key)} {cell : BatchResult Key Value}
      (present : loader.queue.tasks[index]? = some task) (gone : task.phase.isOver = true)
      (read : loader.results[index]? = some cell) (guarded : cell.guarded = true) :
      Steps loader (.wake index) (loader.setResult index { cell with cancelled := true })

variable {loader next : DataLoader Key Value} {action : LoadAction Key Value}

theorem exists_of_proceed {index : Nat} {after : Load Key Value → Option (DataLoader Key Value)}
    (taken : loader.proceed index after = some next) :
    ∃ load, loader.loads[index]? = some load ∧ after load = some next := by
  unfold proceed at taken
  split at taken
  · rename_i load found
    exact ⟨load, found, taken⟩
  · cases taken

theorem steps_of_wait [DecidableEq Key] {index : Nat} {load : Load Key Value}
    (found : loader.loads[index]? = some load) (phase : load.phase = .awaiting)
    (taken : loader.wait index load = some next) : Steps loader (.wait index) next := by
  unfold wait at taken
  split at taken
  · rename_i done
    cases taken
    exact .returns found phase done
  · rename_i waiting waits
    split at taken
    · rename_i values guarded read
      cases taken
      exact .gathers found phase waits read rfl rfl
    · rename_i values guarded nothing read
      cases taken
      exact .fails found phase waits read rfl fun found same => nothing found same
    · cases taken

/-- Every step is one of them. -/
theorem steps_of_step [DecidableEq Key] (taken : loader.step action = some next) :
    Steps loader action next := by
  cases action with
  | loadMany items =>
      cases taken
      exact .loadMany
  | acquire index =>
      obtain ⟨load, found, taken⟩ := exists_of_proceed taken
      split at taken
      · rename_i ready
        cases taken
        exact .acquire found ready.1 ready.2
      · cases taken
  | push index =>
      obtain ⟨load, found, taken⟩ := exists_of_proceed taken
      split at taken
      · rename_i phase
        split at taken
        · rename_i item there
          cases taken
          exact .push found phase there
        · cases taken
      · cases taken
  | unlock index =>
      obtain ⟨load, found, taken⟩ := exists_of_proceed taken
      split at taken
      · rename_i ready
        cases taken
        exact .unlock found ready.1 ready.2
      · cases taken
  | wait index =>
      obtain ⟨load, found, taken⟩ := exists_of_proceed taken
      split at taken
      · rename_i phase
        exact steps_of_wait found phase taken
      · cases taken
  | abandon index =>
      obtain ⟨load, found, taken⟩ := exists_of_proceed taken
      split at taken
      · cases taken
      · rename_i unfinished
        cases taken
        exact .abandon found unfinished
  | poll index =>
      simp only [step] at taken
      split at taken
      · rename_i batch cell waiting read
        cases taken
        exact .poll waiting read
      · cases taken
  | move move =>
      simp only [step] at taken
      split at taken
      · rename_i allowed
        obtain ⟨queue, moved, rfl⟩ := Option.map_eq_some_iff.mp taken
        exact .move allowed moved
      · cases taken
  | complete index result =>
      simp only [step] at taken
      split at taken
      · rename_i queue cell moved read
        cases taken
        exact .complete moved read
      · cases taken
  | wake index =>
      simp only [step] at taken
      split at taken
      · rename_i task cell present read
        split at taken
        · rename_i ready
          cases taken
          exact .wake present ready.1 read ready.2
        · cases taken
      · cases taken

end DataLoader

end ScuffleVideo.Batching
