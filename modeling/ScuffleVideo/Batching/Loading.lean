import ScuffleVideo.Batching.DataLoader

/-!
# Batches and calls of the data loader

Every batch has a result of its own.  The task of the batch stores what the fetch returned
there once, and wakes the callers after that.  Every call notes in which batches its keys
are; these are the batches into which it has handed them.
-/

namespace ScuffleVideo.Batching.DataLoader

open Concurrent

variable {Key Value : Type} {loader next : DataLoader Key Value}
  {action : LoadAction Key Value}

/-! ## Batches and their results -/

/-- Each batch has between one and `size` keys and a result of its own, which is filled
only by the task of the batch at its end and wakes the callers only after that. -/
structure Stored (size limit : Nat) (loader : DataLoader Key Value) : Prop where
  batchSize : loader.batchSize = size
  sound : loader.queue.Sound limit
  sized : ∀ batch ∈ loader.queue.batches, 1 ≤ batch.card ∧ batch.card ≤ size
  growing : ∀ batch, loader.queue.current = some batch → batch.card < size
  count : loader.results.length = loader.queue.batches.length
  filled : ∀ (index : Nat) (cell : BatchResult Key Value), loader.results[index]? = some cell →
    cell.values ≠ none →
    ∃ task, loader.queue.tasks[index]? = some task ∧ task.phase.isDone = true
  woken : ∀ (index : Nat) (cell : BatchResult Key Value), loader.results[index]? = some cell →
    cell.cancelled = true →
    ∃ task, loader.queue.tasks[index]? = some task ∧ task.phase.isOver = true
  clashed : loader.clashed = false

theorem stored_new (batchSize concurrency : Nat) :
    Stored (max batchSize 1) (max concurrency 1)
      (new batchSize concurrency : DataLoader Key Value) where
  batchSize := rfl
  sound := BatchQueue.sound_new _
  sized := nofun
  growing := nofun
  count := rfl
  filled := nofun
  woken := nofun
  clashed := rfl

/-- A task that is there stays when a batch is put away. -/
theorem exists_task_put {queue : BatchQueue (Finset Key)} {index : Nat} {holds : TaskPhase → Bool}
    (batch : Finset Key) (full : Bool)
    (present : ∃ task, queue.tasks[index]? = some task ∧ holds task.phase = true) :
    ∃ task, (queue.put batch full).tasks[index]? = some task ∧ holds task.phase = true := by
  obtain ⟨task, found, known⟩ := present
  refine ⟨task, ?_, known⟩
  cases full with
  | false => exact found
  | true =>
      simp only [BatchQueue.put, if_true]
      rw [List.getElem?_append_left (List.getElem?_eq_some_iff.mp found).1]
      exact found

theorem stored_push [DecidableEq Key] {size limit : Nat} (positive : 0 < size)
    (stored : Stored size limit loader) (index : Nat) (load : Load Key Value) (item : Key) :
    Stored size limit (loader.push index load item) where
  batchSize := stored.batchSize
  sound := BatchQueue.sound_put stored.sound _ _
  sized := by
    intro batch present
    simp only [push, BatchQueue.batches_put, List.mem_append, List.mem_singleton] at present
    rcases present with old | rfl
    · exact stored.sized batch (List.mem_append_left _ old)
    · refine ⟨Finset.card_pos.mpr ⟨item, Finset.mem_insert_self _ _⟩, ?_⟩
      refine Nat.le_trans (Finset.card_insert_le _ _) ?_
      cases known : loader.queue.current with
      | none => exact positive
      | some batch => exact stored.growing batch known
  growing := by
    intro batch current
    simp only [push, BatchQueue.put] at current
    split at current
    · cases current
    · rename_i room
      cases current
      simp only [decide_eq_true_eq, Nat.not_le, stored.batchSize] at room
      exact room
  count := by
    have before := stored.count
    simp only [push, BatchQueue.batches_put]
    rw [BatchQueue.batches] at before
    cases known : loader.queue.current with
    | none => simp_all
    | some batch => simp_all
  filled place cell read known := by
    apply exists_task_put
    simp only [push] at read
    split at read
    · rcases getElem?_append_cases read with ⟨_, rfl⟩ | old
      · exact absurd rfl known
      · exact stored.filled place cell old known
    · exact stored.filled place cell read known
  woken place cell read known := by
    apply exists_task_put
    simp only [push] at read
    split at read
    · rcases getElem?_append_cases read with ⟨_, rfl⟩ | old
      · cases known
      · exact stored.woken place cell old known
    · exact stored.woken place cell read known
  clashed := stored.clashed

theorem stored_move {size limit : Nat} (stored : Stored size limit loader) {move : QueueMove}
    {queue : BatchQueue (Finset Key)} (taken : loader.queue.step move = some queue) :
    Stored size limit { loader with queue := queue } where
  batchSize := stored.batchSize
  sound := BatchQueue.sound_step taken stored.sound
  sized := by
    dsimp only
    rw [BatchQueue.batches_step taken]
    exact stored.sized
  growing := by
    intro batch current
    cases BatchQueue.steps_of_step taken with
    | flush found => cases current
    | begin found free => exact stored.growing batch current
    | complete found => exact stored.growing batch current
    | release found => exact stored.growing batch current
    | dropWaiting found => exact stored.growing batch current
    | dropExecuting found => exact stored.growing batch current
  count := by
    dsimp only
    rw [BatchQueue.batches_step taken]
    exact stored.count
  filled index cell read known := by
    obtain ⟨task, found, done⟩ := stored.filled index cell read known
    obtain ⟨later, present, _, kept, _⟩ := BatchQueue.task_step taken found
    exact ⟨later, present, kept done⟩
  woken index cell read known := by
    obtain ⟨task, found, gone⟩ := stored.woken index cell read known
    obtain ⟨later, present, _, _, kept⟩ := BatchQueue.task_step taken found
    exact ⟨later, present, by rw [kept gone]; exact gone⟩
  clashed := stored.clashed

/-- A result whose cell and token have the tasks that they need. -/
theorem stored_setResult {size limit : Nat} {index : Nat} {cell : BatchResult Key Value}
    (stored : Stored size limit loader)
    (filled : cell.values ≠ none →
      ∃ task, loader.queue.tasks[index]? = some task ∧ task.phase.isDone = true)
    (woken : cell.cancelled = true →
      ∃ task, loader.queue.tasks[index]? = some task ∧ task.phase.isOver = true) :
    Stored size limit (loader.setResult index cell) where
  batchSize := stored.batchSize
  sound := stored.sound
  sized := stored.sized
  growing := stored.growing
  count := by
    simp only [setResult, List.length_set]
    exact stored.count
  filled place found read known := by
    rcases getElem?_set_cases read with ⟨rfl, rfl⟩ | ⟨_, old⟩
    · exact filled known
    · exact stored.filled place found old known
  woken place found read known := by
    rcases getElem?_set_cases read with ⟨rfl, rfl⟩ | ⟨_, old⟩
    · exact woken known
    · exact stored.woken place found old known
  clashed := stored.clashed

/-- The task at its end, and the cell that it finds. -/
theorem empty_of_complete {size limit : Nat} (stored : Stored size limit loader) {index : Nat}
    {queue : BatchQueue (Finset Key)} {cell : BatchResult Key Value}
    (taken : loader.queue.step (.complete index) = some queue)
    (read : loader.results[index]? = some cell) :
    cell.values = none ∧ cell.cancelled = false ∧
      ∃ task, queue.tasks[index]? = some task ∧ task.phase.isDone = true := by
  cases BatchQueue.steps_of_step taken with
  | @complete _ batch found =>
      refine ⟨?_, ?_, ⟨batch, .releasing⟩, ?_, rfl⟩
      · by_contra known
        obtain ⟨task, present, done⟩ := stored.filled index cell read known
        rw [found] at present
        cases present
        cases done
      · rw [← Bool.not_eq_true]
        intro known
        obtain ⟨task, present, gone⟩ := stored.woken index cell read known
        rw [found] at present
        cases present
        cases gone
      · exact List.getElem?_set_self (List.getElem?_eq_some_iff.mp found).1

theorem fill_of_empty {index : Nat} {cell : BatchResult Key Value} (empty : cell.values = none)
    (result : Option (ValueMap Key Value)) :
    loader.fill index cell result =
      loader.setResult index { cell with values := some result } := by
  unfold fill
  rw [empty]

theorem stored_step [DecidableEq Key] {size limit : Nat} (positive : 0 < size)
    (taken : loader.step action = some next) (stored : Stored size limit loader) :
    Stored size limit next := by
  have kept {other : DataLoader Key Value} (sizes : other.batchSize = loader.batchSize)
      (queues : other.queue = loader.queue) (cells : other.results = loader.results)
      (clashes : other.clashed = loader.clashed) : Stored size limit other := by
    obtain ⟨size, queue, results, lock, loads, clashed⟩ := other
    cases sizes
    cases queues
    cases cells
    cases clashes
    exact ⟨stored.batchSize, stored.sound, stored.sized, stored.growing, stored.count,
      stored.filled, stored.woken, stored.clashed⟩
  cases steps_of_step taken with
  | loadMany => exact kept rfl rfl rfl rfl
  | acquire found phase free => exact kept rfl rfl rfl rfl
  | push found phase there => exact stored_push positive stored _ _ _
  | unlock found phase all => exact kept rfl rfl rfl rfl
  | returns found phase done => exact kept rfl rfl rfl rfl
  | gathers found phase waits read woken fetched => exact kept rfl rfl rfl rfl
  | fails found phase waits read woken nothing => exact kept rfl rfl rfl rfl
  | abandon found unfinished => exact kept rfl rfl rfl rfl
  | poll waiting read =>
      have filled := stored.filled _ _ read
      have woken := stored.woken _ _ read
      exact stored_setResult stored filled woken
  | move allowed moved => exact stored_move stored moved
  | complete moved read =>
      obtain ⟨empty, asleep, done⟩ := empty_of_complete stored moved read
      rw [fill_of_empty empty]
      refine stored_setResult (stored_move stored moved) (fun _ => done) fun woken => ?_
      dsimp only at woken
      rw [asleep] at woken
      cases woken
  | wake present gone read guarded =>
      have filled := stored.filled _ _ read
      exact stored_setResult stored filled fun _ => ⟨_, present, gone⟩

/-! ## Fetches -/

/-- The fetch of the batch came to its end with this result. -/
def Fetched (past : List (DataLoader Key Value × LoadAction Key Value)) (batch : Nat)
    (result : Option (ValueMap Key Value)) : Prop :=
  ∃ state, (state, LoadAction.complete batch result) ∈ past

/-- What is stored for a batch. -/
def content (loader : DataLoader Key Value) (batch : Nat) : Option (Option (ValueMap Key Value)) :=
  loader.results[batch]?.bind BatchResult.values

variable {past : List (DataLoader Key Value × LoadAction Key Value)}

theorem fetched_cons {batch : Nat} {result : Option (ValueMap Key Value)} :
    Fetched ((loader, action) :: past) batch result ↔
      action = .complete batch result ∨ Fetched past batch result := by
  unfold Fetched
  simp only [List.mem_cons, Prod.mk.injEq, exists_or]
  constructor
  · rintro (⟨_, _, rfl⟩ | earlier)
    · exact .inl rfl
    · exact .inr earlier
  · rintro (rfl | earlier)
    · exact .inl ⟨loader, rfl, rfl⟩
    · exact .inr earlier

theorem content_setResult {index : Nat} {old cell : BatchResult Key Value}
    (read : loader.results[index]? = some old) (batch : Nat) :
    (loader.setResult index cell).content batch =
      if batch = index then cell.values else loader.content batch := by
  unfold content setResult
  by_cases same : batch = index
  · subst same
    rw [if_pos rfl, List.getElem?_set_self (List.getElem?_eq_some_iff.mp read).1]
    rfl
  · rw [if_neg same, List.getElem?_set_ne fun equal => same equal.symm]

theorem content_setResult_same {index : Nat} {old cell : BatchResult Key Value}
    (read : loader.results[index]? = some old) (same : cell.values = old.values) (batch : Nat) :
    (loader.setResult index cell).content batch = loader.content batch := by
  rw [content_setResult read, same]
  split
  · rename_i equal
    subst equal
    unfold content
    rw [read]
    rfl
  · rfl

/-- What a step changes in what is stored: only the end of a fetch, and there what was
empty. -/
theorem content_after [DecidableEq Key] {size limit : Nat} (kept : Stored size limit loader)
    (taken : loader.step action = some next) (batch : Nat) :
    (next.content batch = loader.content batch ∧
      ∀ result, action ≠ .complete batch result) ∨
    ∃ result, action = .complete batch result ∧ loader.content batch = none ∧
      next.content batch = some result := by
  cases steps_of_step taken with
  | loadMany => exact .inl ⟨rfl, nofun⟩
  | acquire found phase free => exact .inl ⟨rfl, nofun⟩
  | push found phase there =>
      refine .inl ⟨?_, nofun⟩
      unfold content push
      dsimp only
      split
      · rw [List.getElem?_append]
        split
        · rfl
        · rename_i beyond
          rw [List.getElem?_eq_none (Nat.le_of_not_lt beyond)]
          cases batch - loader.results.length <;> rfl
      · rfl
  | unlock found phase all => exact .inl ⟨rfl, nofun⟩
  | returns found phase done => exact .inl ⟨rfl, nofun⟩
  | gathers found phase waits read woken fetched => exact .inl ⟨rfl, nofun⟩
  | fails found phase waits read woken nothing => exact .inl ⟨rfl, nofun⟩
  | abandon found unfinished => exact .inl ⟨rfl, nofun⟩
  | poll waiting read => exact .inl ⟨content_setResult_same read (by rfl) batch, nofun⟩
  | move allowed moved => exact .inl ⟨rfl, nofun⟩
  | @complete index result queue cell moved read =>
      obtain ⟨empty, -, -⟩ := empty_of_complete kept moved read
      have after := @content_setResult _ _ { loader with queue := queue } index cell
        { cell with values := some result } read batch
      rw [fill_of_empty empty, after]
      by_cases same : batch = index
      · subst same
        refine .inr ⟨result, rfl, ?_, if_pos rfl⟩
        unfold content
        rw [read]
        exact empty
      · refine .inl ⟨if_neg same, fun other equal => ?_⟩
        cases equal
        exact same rfl
  | wake present gone read guarded => exact .inl ⟨content_setResult_same read (by rfl) batch, nofun⟩

theorem stored_of_run [DecidableEq Key] {batchSize concurrency : Nat} {last : DataLoader Key Value}
    (run : Run step (new batchSize concurrency) past last) :
    Stored (max batchSize 1) (max concurrency 1) last :=
  run.invariant (Stored (max batchSize 1) (max concurrency 1)) (stored_new batchSize concurrency)
    (stored_step (by omega))

/-- What is stored for a batch is what its fetch returned. -/
theorem fetched_iff_content [DecidableEq Key] {batchSize concurrency : Nat}
    {last : DataLoader Key Value} (run : Run step (new batchSize concurrency) past last)
    (batch : Nat) (result : Option (ValueMap Key Value)) :
    Fetched past batch result ↔ last.content batch = some result := by
  induction run with
  | start => exact ⟨nofun, nofun⟩
  | next before taken ih =>
      rw [fetched_cons, ih]
      rcases content_after (stored_of_run before) taken batch with
        ⟨same, other⟩ | ⟨found, rfl, empty, filled⟩
      · rw [same]
        simp [other]
      · rw [empty, filled]
        simp

/-! ## The keys of a call -/

/-- The call has handed the key in, into this batch. -/
def HandedTo (past : List (DataLoader Key Value × LoadAction Key Value)) (index : Nat) (key : Key)
    (batch : Nat) : Prop :=
  ∃ state load, (state, LoadAction.push index) ∈ past ∧ state.loads[index]? = some load ∧
    load.items[load.count]? = some key ∧ batch = state.queue.tasks.length

theorem handedTo_cons {index : Nat} {key : Key} {batch : Nat} :
    HandedTo ((loader, action) :: past) index key batch ↔
      (action = .push index ∧ ∃ load, loader.loads[index]? = some load ∧
        load.items[load.count]? = some key ∧ batch = loader.queue.tasks.length) ∨
      HandedTo past index key batch := by
  unfold HandedTo
  simp only [List.mem_cons, Prod.mk.injEq]
  constructor
  · rintro ⟨state, load, ⟨rfl, rfl⟩ | earlier, found, there, place⟩
    · exact .inl ⟨rfl, load, found, there, place⟩
    · exact .inr ⟨state, load, earlier, found, there, place⟩
  · rintro (⟨rfl, load, found, there, place⟩ | ⟨state, load, earlier, found, there, place⟩)
    · exact ⟨loader, load, .inl ⟨rfl, rfl⟩, found, there, place⟩
    · exact ⟨state, load, .inr earlier, found, there, place⟩

theorem handedTo_cons_of_ne {index : Nat} {key : Key} {batch : Nat}
    (other : action ≠ .push index) :
    HandedTo ((loader, action) :: past) index key batch ↔ HandedTo past index key batch := by
  rw [handedTo_cons]
  simp [other]

/-- The call waits for results: those of the batches into which it has handed all its
items. -/
def isBehind : LoadPhase → Bool
  | .awaiting => true
  | .returned => true
  | .failed => true
  | _ => false

/-- The call notes, batch by batch, the keys that it has handed in.  While it holds the
lock, the batch that it noted last is the one that is open, if one is. -/
structure Noted (past : List (DataLoader Key Value × LoadAction Key Value))
    (loader : DataLoader Key Value) (index : Nat) (load : Load Key Value) : Prop where
  noted : ∀ key batch, HandedTo past index key batch ↔
    ∃ waiting ∈ load.waiters, waiting.result = batch ∧ key ∈ waiting.keys
  ordered : load.waiters.Pairwise fun earlier later => earlier.result < later.result
  filled : ∀ waiting ∈ load.waiters, waiting.keys.Nonempty
  requested : ∀ waiting ∈ load.waiters, ∀ key ∈ waiting.keys, key ∈ load.items
  covered : ∀ key ∈ load.items.take load.count, ∃ waiting ∈ load.waiters, key ∈ waiting.keys
  begun : ∀ waiting ∈ load.waiters, waiting.result < loader.results.length
  initial : load.newBatch = true → load.waiters = []
  fresh : load.phase = .locking → load.newBatch = true
  locked : load.phase = .pushing → loader.lock = some index
  current : load.phase = .pushing → load.newBatch = false → loader.queue.current ≠ none →
    ∃ earlier waiting, load.waiters = earlier ++ [waiting] ∧
      waiting.result = loader.queue.tasks.length
  handed : isBehind load.phase = true → load.items.length ≤ load.count

variable {later : List (DataLoader Key Value × LoadAction Key Value)}

/-- A call that hands nothing in. -/
theorem noted_of_kept {index : Nat} {load : Load Key Value} (noted : Noted past loader index load)
    {phase : LoadPhase} {waited : Nat} {results : ValueMap Key Value}
    (same : ∀ key batch, HandedTo later index key batch ↔ HandedTo past index key batch)
    (more : loader.results.length ≤ next.results.length)
    (fresh : phase = .locking → load.newBatch = true)
    (locked : phase = .pushing → next.lock = some index)
    (current : phase = .pushing → load.newBatch = false → next.queue.current ≠ none →
      ∃ earlier waiting, load.waiters = earlier ++ [waiting] ∧
        waiting.result = next.queue.tasks.length)
    (handed : isBehind phase = true → load.items.length ≤ load.count) :
    Noted later next index { load with phase := phase, waited := waited, results := results } where
  noted key batch := (same key batch).trans (noted.noted key batch)
  ordered := noted.ordered
  filled := noted.filled
  requested := noted.requested
  covered := noted.covered
  begun waiting present := Nat.lt_of_lt_of_le (noted.begun waiting present) more
  initial := noted.initial
  fresh := fresh
  locked := locked
  current := current
  handed := handed

/-- A call that does not move, in a state where the lock and the batches are as they were
or the call has no lock. -/
theorem noted_of_still {index : Nat} {load : Load Key Value} (noted : Noted past loader index load)
    (same : ∀ key batch, HandedTo later index key batch ↔ HandedTo past index key batch)
    (more : loader.results.length ≤ next.results.length)
    (still : loader.lock = some index → next.lock = loader.lock ∧
      next.queue.tasks.length = loader.queue.tasks.length ∧
      next.queue.current = loader.queue.current) : Noted later next index load := by
  refine @noted_of_kept _ _ loader next past later index load noted load.phase load.waited
    load.results same more noted.fresh (fun pushing => ?_) (fun pushing => ?_) noted.handed
  · rw [(still (noted.locked pushing)).1]
    exact noted.locked pushing
  · obtain ⟨_, tasks, open'⟩ := still (noted.locked pushing)
    rw [tasks, open']
    exact noted.current pushing

theorem insertLast_append [DecidableEq Key] (item : Key) (waiters : List (BatchWaiting Key))
    (waiting : BatchWaiting Key) :
    insertLast item (waiters ++ [waiting]) =
      waiters ++ [{ waiting with keys := insert item waiting.keys }] := by
  induction waiters with
  | nil => rfl
  | cons first waiters ih =>
      cases waiters with
      | nil => rfl
      | cons second waiters =>
          rw [List.cons_append, List.cons_append, insertLast.eq_def]
          dsimp only
          rw [← List.cons_append, ih]
          rfl

/-- The batch into which a key is put has its place among the results. -/
theorem tasks_lt_results_push [DecidableEq Key] {index : Nat} {load : Load Key Value} {item : Key}
    (count : loader.results.length = loader.queue.batches.length) :
    loader.queue.tasks.length < (loader.push index load item).results.length := by
  rw [BatchQueue.batches, List.length_append, List.length_map] at count
  simp only [push]
  cases known : loader.queue.current with
  | none =>
      simp only [known, Option.toList_none, List.length_nil] at count
      simp only [Option.isNone_none, if_true, List.length_append, List.length_singleton]
      omega
  | some batch =>
      simp only [known, Option.toList_some, List.length_singleton] at count
      simp only [Option.isNone_some, Bool.false_eq_true, if_false]
      omega

/-- The batches that a call has noted before it hands an item in: those before the one that
is open, and the keys that it has in that one. -/
theorem waiters_push [DecidableEq Key] {index : Nat} {load : Load Key Value}
    (noted : Noted past loader index load) (phase : load.phase = .pushing)
    (count : loader.results.length = loader.queue.batches.length) (item : Key) :
    ∃ earlier keys, earlier.Sublist load.waiters ∧
      (∀ waiting ∈ earlier, waiting.result < loader.queue.tasks.length) ∧
      (∀ key batch, (∃ waiting ∈ load.waiters, waiting.result = batch ∧ key ∈ waiting.keys) ↔
        (∃ waiting ∈ earlier, waiting.result = batch ∧ key ∈ waiting.keys) ∨
          (batch = loader.queue.tasks.length ∧ key ∈ keys)) ∧
      insertLast item
          (if load.newBatch || loader.queue.current.isNone then
            load.waiters ++ [⟨∅, loader.queue.tasks.length⟩]
          else load.waiters) =
        earlier ++ [⟨insert item keys, loader.queue.tasks.length⟩] := by
  rw [BatchQueue.batches, List.length_append, List.length_map] at count
  by_cases known : load.newBatch || loader.queue.current.isNone
  · refine ⟨load.waiters, ∅, .refl _, fun waiting present => ?_, by simp, ?_⟩
    · have begun := noted.begun waiting present
      rcases Bool.or_eq_true_iff.mp known with first | none
      · rw [noted.initial first] at present
        cases present
      · rw [Option.isNone_iff_eq_none.mp none] at count
        simp only [Option.toList_none, List.length_nil] at count
        omega
    · rw [if_pos known, insertLast_append]
  · have kept := known
    rw [Bool.or_eq_true_iff, not_or, Bool.not_eq_true, Option.isNone_iff_eq_none] at known
    obtain ⟨earlier, ⟨keys, result⟩, split, rfl⟩ := noted.current phase known.1 known.2
    have ordered := noted.ordered
    rw [split] at ordered
    refine ⟨earlier, keys, ?_, fun waiting present => ?_, fun key batch => ?_, ?_⟩
    · rw [split]
      exact List.sublist_append_left _ _
    · exact (List.pairwise_append.mp ordered).2.2 waiting present _ (List.mem_singleton_self _)
    · rw [split]
      constructor
      · rintro ⟨waiting, present, rfl, held⟩
        rcases List.mem_append.mp present with old | last
        · exact .inl ⟨waiting, old, rfl, held⟩
        · cases List.mem_singleton.mp last
          exact .inr ⟨rfl, held⟩
      · rintro (⟨waiting, old, place, held⟩ | ⟨rfl, held⟩)
        · exact ⟨waiting, List.mem_append_left _ old, place, held⟩
        · exact ⟨_, List.mem_append_right _ (List.mem_singleton_self _), rfl, held⟩
    · rw [if_neg kept, split, insertLast_append]

theorem noted_push [DecidableEq Key] {index : Nat} {load : Load Key Value} {item : Key}
    (noted : Noted past loader index load) (found : loader.loads[index]? = some load)
    (phase : load.phase = .pushing) (there : load.items[load.count]? = some item)
    (count : loader.results.length = loader.queue.batches.length) {moved : Load Key Value}
    (read : (loader.push index load item).loads[index]? = some moved) :
    Noted ((loader, .push index) :: past) (loader.push index load item) index moved := by
  obtain ⟨earlier, keys, fewer, below, covers, after⟩ := waiters_push noted phase count item
  have within := (List.getElem?_eq_some_iff.mp found).1
  have wider := @tasks_lt_results_push _ _ loader _ index load item count
  have same : moved = { load with
      count := load.count + 1
      newBatch := false
      waiters := earlier ++ [⟨insert item keys, loader.queue.tasks.length⟩] } := by
    simp only [push, setLoad, List.getElem?_set_self within, after] at read
    exact (Option.some.inj read).symm
  subst same
  have present : item ∈ load.items := List.mem_of_getElem? there
  have held {key : Key} (known : key ∈ keys) : ∃ waiting ∈ load.waiters, key ∈ waiting.keys := by
    obtain ⟨waiting, old, _, has⟩ := (covers key _).mpr (.inr ⟨rfl, known⟩)
    exact ⟨waiting, old, has⟩
  have last : (⟨insert item keys, loader.queue.tasks.length⟩ : BatchWaiting Key) ∈
      earlier ++ [⟨insert item keys, loader.queue.tasks.length⟩] :=
    List.mem_append_right _ (List.mem_singleton_self _)
  constructor
  case noted =>
    intro key batch
    rw [handedTo_cons, noted.noted, covers, found]
    constructor
    · rintro (⟨-, other, same, known, rfl⟩ | ⟨waiting, old, place, known⟩ | ⟨rfl, known⟩)
      · cases same
        cases there.symm.trans known
        exact ⟨_, last, rfl, Finset.mem_insert_self _ _⟩
      · exact ⟨waiting, List.mem_append_left _ old, place, known⟩
      · exact ⟨_, last, rfl, Finset.mem_insert_of_mem known⟩
    · rintro ⟨waiting, new, rfl, known⟩
      rcases List.mem_append.mp new with old | new
      · exact .inr (.inl ⟨waiting, old, rfl, known⟩)
      · cases List.mem_singleton.mp new
        rcases Finset.mem_insert.mp known with rfl | known
        · exact .inl ⟨rfl, load, rfl, there, rfl⟩
        · exact .inr (.inr ⟨rfl, known⟩)
  case ordered =>
    refine List.pairwise_append.mpr ⟨noted.ordered.sublist fewer, List.pairwise_singleton _ _, ?_⟩
    intro waiting old last new
    rw [List.mem_singleton.mp new]
    exact below waiting old
  case filled =>
    intro waiting new
    rcases List.mem_append.mp new with old | last
    · exact noted.filled waiting (fewer.subset old)
    · rw [List.mem_singleton.mp last]
      exact ⟨item, Finset.mem_insert_self _ _⟩
  case requested =>
    intro waiting new key known
    rcases List.mem_append.mp new with old | last
    · exact noted.requested waiting (fewer.subset old) key known
    · rw [List.mem_singleton.mp last] at known
      rcases Finset.mem_insert.mp known with rfl | known
      · exact present
      · obtain ⟨waiting, old, has⟩ := held known
        exact noted.requested waiting old key has
  case covered =>
    intro key known
    rw [List.take_add_one, there, List.mem_append] at known
    rcases known with known | known
    · obtain ⟨waiting, old, has⟩ := noted.covered key known
      rcases (covers key _).mp ⟨waiting, old, rfl, has⟩ with ⟨waiting, old, _, has⟩ | ⟨_, has⟩
      · exact ⟨waiting, List.mem_append_left _ old, has⟩
      · exact ⟨_, last, Finset.mem_insert_of_mem has⟩
    · cases List.mem_singleton.mp known
      exact ⟨_, last, Finset.mem_insert_self _ _⟩
  case begun =>
    intro waiting new
    rcases List.mem_append.mp new with old | last
    · exact Nat.lt_trans (below waiting old) wider
    · rw [List.mem_singleton.mp last]
      exact wider
  case initial =>
    intro fresh
    cases fresh
  case fresh =>
    intro locking
    rw [phase] at locking
    cases locking
  case locked => exact noted.locked
  case current =>
    intro _ _ present
    refine ⟨earlier, _, rfl, ?_⟩
    simp only [push, BatchQueue.put] at present ⊢
    split at present
    · exact absurd rfl present
    · rename_i room
      rw [if_neg room]
  case handed =>
    intro behind
    rw [phase] at behind
    cases behind

/-- All calls note what they hand in, and nothing has been handed in by calls to come. -/
structure AllNoted (past : List (DataLoader Key Value × LoadAction Key Value))
    (loader : DataLoader Key Value) : Prop where
  known : ∀ index key batch, HandedTo past index key batch → index < loader.loads.length
  each : ∀ (index : Nat) (load : Load Key Value), loader.loads[index]? = some load →
    Noted past loader index load

/-- A step of one call, which hands nothing in. -/
theorem allNoted_setLoad {index : Nat} {load : Load Key Value} (noted : AllNoted past loader)
    (loads : next.loads = loader.loads.set index load)
    (other : ∀ place, action ≠ .push place)
    (more : loader.results.length ≤ next.results.length)
    (still : ∀ place, place ≠ index → loader.lock = some place →
      next.lock = loader.lock ∧ next.queue.tasks.length = loader.queue.tasks.length ∧
      next.queue.current = loader.queue.current)
    (moved : Noted ((loader, action) :: past) next index load) :
    AllNoted ((loader, action) :: past) next where
  known place key batch held := by
    rw [loads, List.length_set]
    exact noted.known place key batch ((handedTo_cons_of_ne (other place)).mp held)
  each place found read := by
    rw [loads] at read
    rcases getElem?_set_cases read with ⟨rfl, rfl⟩ | ⟨different, old⟩
    · exact moved
    · exact noted_of_still (noted.each place found old)
        (fun _ _ => handedTo_cons_of_ne (other place)) more (still place different)

/-- A step of a task. -/
theorem allNoted_of_loads (noted : AllNoted past loader) (loads : next.loads = loader.loads)
    (other : ∀ place, action ≠ .push place)
    (more : loader.results.length ≤ next.results.length)
    (still : ∀ place, loader.lock = some place →
      next.lock = loader.lock ∧ next.queue.tasks.length = loader.queue.tasks.length ∧
      next.queue.current = loader.queue.current) :
    AllNoted ((loader, action) :: past) next where
  known place key batch held := by
    rw [loads]
    exact noted.known place key batch ((handedTo_cons_of_ne (other place)).mp held)
  each place found read := by
    rw [loads] at read
    exact noted_of_still (noted.each place found read)
      (fun _ _ => handedTo_cons_of_ne (other place)) more (still place)

/-- Under the lock the tasks leave the current batch alone. -/
theorem queue_kept_of_move {move : QueueMove} {queue : BatchQueue (Finset Key)}
    (taken : loader.queue.step move = some queue) (other : move ≠ .flush) :
    queue.tasks.length = loader.queue.tasks.length ∧ queue.current = loader.queue.current := by
  cases BatchQueue.steps_of_step taken with
  | flush found => exact absurd rfl other
  | begin found free => exact ⟨List.length_set, rfl⟩
  | complete found => exact ⟨List.length_set, rfl⟩
  | release found => exact ⟨List.length_set, rfl⟩
  | dropWaiting found => exact ⟨List.length_set, rfl⟩
  | dropExecuting found => exact ⟨List.length_set, rfl⟩

theorem allNoted_loadMany (noted : AllNoted past loader) (items : List Key) :
    AllNoted ((loader, .loadMany items) :: past)
      { loader with loads := loader.loads ++ [.new items] } where
  known place key batch held := by
    have other : (LoadAction.loadMany items : LoadAction Key Value) ≠ .push place := nofun
    have before := noted.known place key batch ((handedTo_cons_of_ne other).mp held)
    rw [List.length_append]
    exact Nat.lt_add_right _ before
  each place found read := by
    rcases getElem?_append_cases read with ⟨rfl, rfl⟩ | old
    · constructor
      case noted =>
        intro key batch
        have other : (LoadAction.loadMany items : LoadAction Key Value) ≠
            .push loader.loads.length := nofun
        rw [handedTo_cons_of_ne other]
        constructor
        · intro held
          exact absurd (noted.known _ key batch held) (Nat.lt_irrefl _)
        · rintro ⟨waiting, present, _⟩
          cases present
      case ordered => exact .nil
      case filled => exact nofun
      case requested => exact nofun
      case covered => exact nofun
      case begun => exact nofun
      case initial => exact fun _ => rfl
      case fresh => exact fun _ => rfl
      case locked => exact nofun
      case current => exact nofun
      case handed => exact nofun
    · exact noted_of_still (noted.each place found old) (fun _ _ => handedTo_cons_of_ne nofun)
        (Nat.le_refl _) fun _ => ⟨rfl, rfl, rfl⟩

theorem allNoted_push [DecidableEq Key] {index : Nat} {load : Load Key Value} {item : Key}
    (noted : AllNoted past loader) (found : loader.loads[index]? = some load)
    (phase : load.phase = .pushing) (there : load.items[load.count]? = some item)
    (count : loader.results.length = loader.queue.batches.length) :
    AllNoted ((loader, .push index) :: past) (loader.push index load item) where
  known place key batch held := by
    simp only [push, setLoad, List.length_set]
    rcases handedTo_cons.mp held with ⟨same, _, read, _⟩ | earlier
    · exact (List.getElem?_eq_some_iff.mp read).1
    · exact noted.known place key batch earlier
  each place other read := by
    by_cases same : place = index
    · subst same
      exact noted_push (noted.each place load found) found phase there count read
    · simp only [push, setLoad] at read
      rw [List.getElem?_set_ne fun equal => same equal.symm] at read
      have locked := (noted.each index load found).locked phase
      refine noted_of_still (noted.each place other read) (fun _ _ => handedTo_cons_of_ne ?_) ?_ ?_
      · intro equal
        cases equal
        exact same rfl
      · simp only [push]
        split
        · rw [List.length_append]
          exact Nat.le_add_right _ _
        · exact Nat.le_refl _
      · intro held
        rw [locked] at held
        cases held
        exact absurd rfl same

theorem allNoted_step [DecidableEq Key] {size limit : Nat} (kept : Stored size limit loader)
    (taken : loader.step action = some next) (noted : AllNoted past loader) :
    AllNoted ((loader, action) :: past) next := by
  have free {index : Nat} {load : Load Key Value} (found : loader.loads[index]? = some load)
      (phase : load.phase = .pushing) (place : Nat) (different : place ≠ index) :
      loader.lock ≠ some place := by
    intro held
    rw [(noted.each index load found).locked phase] at held
    cases held
    exact different rfl
  cases steps_of_step taken with
  | loadMany => exact allNoted_loadMany noted _
  | acquire found phase unlocked =>
      have before := noted.each _ _ found
      refine allNoted_setLoad noted rfl nofun (Nat.le_refl _) (fun place _ held => ?_)
        (noted_of_kept before (fun _ _ => handedTo_cons_of_ne nofun) (Nat.le_refl _) nofun
          (fun _ => rfl) (fun _ old => ?_) nofun)
      · rw [unlocked] at held
        cases held
      · rw [before.fresh phase] at old
        cases old
  | push found phase there => exact allNoted_push noted found phase there kept.count
  | unlock found phase all =>
      exact allNoted_setLoad noted rfl nofun (Nat.le_refl _)
        (fun place different held => absurd held (free found phase place different))
        (noted_of_kept (noted.each _ _ found) (fun _ _ => handedTo_cons_of_ne nofun)
          (Nat.le_refl _) nofun nofun nofun fun _ => all)
  | returns found phase done =>
      have before := noted.each _ _ found
      exact allNoted_setLoad noted rfl nofun (Nat.le_refl _) (fun _ _ _ => ⟨rfl, rfl, rfl⟩)
        (noted_of_kept before (fun _ _ => handedTo_cons_of_ne nofun) (Nat.le_refl _) nofun nofun
          nofun fun _ => before.handed (by rw [phase]; rfl))
  | gathers found phase waits read woken fetched =>
      have before := noted.each _ _ found
      refine allNoted_setLoad noted rfl nofun (Nat.le_refl _) (fun _ _ _ => ⟨rfl, rfl, rfl⟩)
        (noted_of_kept before (fun _ _ => handedTo_cons_of_ne nofun) (Nat.le_refl _) ?_ ?_ ?_
          before.handed)
      · exact before.fresh
      · exact before.locked
      · exact before.current
  | fails found phase waits read woken nothing =>
      have before := noted.each _ _ found
      exact allNoted_setLoad noted rfl nofun (Nat.le_refl _) (fun _ _ _ => ⟨rfl, rfl, rfl⟩)
        (noted_of_kept before (fun _ _ => handedTo_cons_of_ne nofun) (Nat.le_refl _) nofun nofun
          nofun fun _ => before.handed (by rw [phase]; rfl))
  | @abandon index load found unfinished =>
      refine allNoted_setLoad noted rfl nofun (Nat.le_refl _) (fun place different held => ?_)
        (noted_of_kept (noted.each _ _ found) (fun _ _ => handedTo_cons_of_ne nofun)
          (Nat.le_refl _) nofun nofun nofun nofun)
      refine ⟨?_, rfl, rfl⟩
      dsimp only
      split
      · rename_i phase
        exact absurd held (free found phase place different)
      · rfl
  | poll waiting read =>
      refine allNoted_of_loads noted rfl nofun ?_ fun _ _ => ⟨rfl, rfl, rfl⟩
      exact Nat.le_of_eq List.length_set.symm
  | @move move queue allowed moved =>
      refine allNoted_of_loads noted rfl nofun (Nat.le_refl _) fun place held => ⟨rfl, ?_⟩
      apply queue_kept_of_move moved
      rintro rfl
      simp only [allows, held, Option.isNone_some, Bool.false_eq_true] at allowed
  | complete moved read =>
      obtain ⟨empty, -, -⟩ := empty_of_complete kept moved read
      rw [fill_of_empty empty]
      refine allNoted_of_loads noted rfl nofun ?_ fun place _ => ⟨rfl, ?_⟩
      · exact Nat.le_of_eq List.length_set.symm
      · exact queue_kept_of_move moved nofun
  | wake present gone read guarded =>
      refine allNoted_of_loads noted rfl nofun ?_ fun _ _ => ⟨rfl, rfl, rfl⟩
      exact Nat.le_of_eq List.length_set.symm

theorem allNoted_of_run [DecidableEq Key] {batchSize concurrency : Nat}
    {last : DataLoader Key Value} (run : Run step (new batchSize concurrency) past last) :
    AllNoted past last := by
  induction run with
  | start =>
      constructor
      · rintro index key batch ⟨_, _, impossible, _⟩
        cases impossible
      · exact nofun
  | next before taken ih => exact allNoted_step (stored_of_run before) taken ih

end ScuffleVideo.Batching.DataLoader
