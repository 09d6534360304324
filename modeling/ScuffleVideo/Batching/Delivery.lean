import ScuffleVideo.Batching.Batcher

/-!
# Delivery of requests and answers

Every request that is handed in stands in one batch, at its place in the order of all
requests; it reaches the executor at most once, with at most so many requests beside it
and at most so many batches beside that one.  A call that has returned has for each of its
items the answer that was sent on the item's own handle, or nothing if that handle was
dropped.
-/

namespace ScuffleVideo.Batching.Batcher

open Concurrent

variable {Request Response : Type} {batcher next : Batcher Request Response}
  {action : Action Request Response}

/-! ## Batches -/

@[simp]
theorem setChannel_queue (handle : Handle) (channel : Channel Response) :
    (batcher.setChannel handle channel).queue = batcher.queue := by
  unfold setChannel
  split <;> rfl

@[simp]
theorem setChannel_submitted (handle : Handle) (channel : Channel Response) :
    (batcher.setChannel handle channel).submitted = batcher.submitted := by
  unfold setChannel
  split <;> rfl

@[simp]
theorem setChannel_batchSize (handle : Handle) (channel : Channel Response) :
    (batcher.setChannel handle channel).batchSize = batcher.batchSize := by
  unfold setChannel
  split <;> rfl

/-- The batches hold all requests in the order in which they were handed in, and each has
at least one and at most `size` of them. -/
structure Placed (size limit : Nat) (batcher : Batcher Request Response) : Prop where
  batchSize : batcher.batchSize = size
  sound : batcher.queue.Sound limit
  flat : batcher.queue.batches.flatten = batcher.submitted
  sized : ∀ batch ∈ batcher.queue.batches, 1 ≤ batch.length ∧ batch.length ≤ size
  growing : ∀ batch, batcher.queue.current = some batch → batch.length < size

theorem placed_new (batchSize concurrency : Nat) :
    Placed (max batchSize 1) (max concurrency 1)
      (new batchSize concurrency : Batcher Request Response) where
  batchSize := rfl
  sound := BatchQueue.sound_new _
  flat := rfl
  sized := nofun
  growing := nofun

/-- The current batch behind the tasks, as a part of all batches. -/
theorem flatten_batches {β : Type} (queue : BatchQueue (List β)) :
    queue.batches.flatten = (queue.tasks.map Task.batch).flatten ++ queue.current.getD [] := by
  unfold BatchQueue.batches
  cases queue.current <;> simp

theorem placed_push {size limit : Nat} (positive : 0 < size) (placed : Placed size limit batcher)
    (index : Nat) (call : Call Request Response) (item : Request) :
    Placed size limit (batcher.push index call item) where
  batchSize := placed.batchSize
  sound := BatchQueue.sound_put placed.sound _ _
  flat := by
    have earlier := placed.flat
    rw [flatten_batches] at earlier
    simp only [push, BatchQueue.batches_put, List.flatten_append, List.flatten_singleton]
    rw [← List.append_assoc, earlier]
  sized := by
    intro batch present
    simp only [push, BatchQueue.batches_put, List.mem_append, List.mem_singleton] at present
    rcases present with old | rfl
    · exact placed.sized batch (List.mem_append_left _ old)
    · rw [List.length_append, List.length_singleton]
      cases known : batcher.queue.current with
      | none => exact ⟨Nat.le_add_left _ _, positive⟩
      | some batch => exact ⟨Nat.le_add_left _ _, placed.growing batch known⟩
  growing := by
    intro batch current
    simp only [push, BatchQueue.put] at current
    split at current
    · cases current
    · rename_i room
      cases current
      simp only [decide_eq_true_eq, Nat.not_le, placed.batchSize] at room
      exact room

theorem placed_move {size limit : Nat} (placed : Placed size limit batcher) {move : QueueMove}
    {queue : BatchQueue (Batch Request)} (taken : batcher.queue.step move = some queue) :
    Placed size limit { batcher with queue := queue } where
  batchSize := placed.batchSize
  sound := BatchQueue.sound_step taken placed.sound
  flat := by
    dsimp only
    rw [BatchQueue.batches_step taken, placed.flat]
  sized := by
    dsimp only
    rw [BatchQueue.batches_step taken]
    exact placed.sized
  growing := by
    intro batch current
    cases BatchQueue.steps_of_step taken with
    | flush found => cases current
    | begin found free => exact placed.growing batch current
    | complete found => exact placed.growing batch current
    | release found => exact placed.growing batch current
    | dropWaiting found => exact placed.growing batch current
    | dropExecuting found => exact placed.growing batch current

theorem placed_step {size limit : Nat} (positive : 0 < size)
    (taken : batcher.step action = some next) (placed : Placed size limit batcher) :
    Placed size limit next := by
  have kept {other : Batcher Request Response} (sizes : other.batchSize = batcher.batchSize)
      (queues : other.queue = batcher.queue) (requests : other.submitted = batcher.submitted) :
      Placed size limit other := by
    obtain ⟨size, queue, lock, calls, submitted⟩ := other
    cases sizes
    cases queues
    cases requests
    exact ⟨placed.batchSize, placed.sound, placed.flat, placed.sized, placed.growing⟩
  cases steps_of_step taken with
  | executeMany => exact kept rfl rfl rfl
  | acquire found phase free => exact kept rfl rfl rfl
  | push found phase there => exact placed_push positive placed _ _ _
  | unlock found phase all => exact kept rfl rfl rfl
  | returns found phase done => exact kept rfl rfl rfl
  | receivesSent found phase ready => exact kept rfl rfl rfl
  | receivesDropped found phase ready => exact kept rfl rfl rfl
  | abandon found unfinished => exact kept rfl rfl rfl
  | move free moved => exact placed_move placed moved
  | respond owned held => exact kept (by simp) (by simp) (by simp)
  | discard owned held => exact kept (by simp) (by simp) (by simp)

/-! ## Handles -/

theorem channel_of_call {index : Nat} {call : Call Request Response}
    (found : batcher.calls[index]? = some call) (position : Nat) :
    batcher.channel ⟨index, position⟩ = call.responses[position]? := by
  unfold channel
  rw [found]

/-- The channels after one call has been replaced. -/
theorem channel_setCall {index : Nat} {old : Call Request Response}
    (found : batcher.calls[index]? = some old) (call : Call Request Response) (handle : Handle) :
    (batcher.setCall index call).channel handle =
      if handle.call = index then call.responses[handle.position]? else batcher.channel handle := by
  unfold channel setCall
  have within := (List.getElem?_eq_some_iff.mp found).1
  by_cases same : handle.call = index
  · subst same
    rw [if_pos rfl, List.getElem?_set_self within]
  · rw [if_neg same, List.getElem?_set_ne fun other => same other.symm]

theorem channel_setCall_same {index : Nat} {old call : Call Request Response}
    (found : batcher.calls[index]? = some old) (same : call.responses = old.responses)
    (handle : Handle) : (batcher.setCall index call).channel handle = batcher.channel handle := by
  rw [channel_setCall found, same]
  split
  · rename_i equal
    subst equal
    exact (channel_of_call found handle.position).symm
  · rfl

theorem exists_call_of_channel {handle : Handle} {channel : Channel Response}
    (found : batcher.channel handle = some channel) :
    ∃ call, batcher.calls[handle.call]? = some call ∧
      call.responses[handle.position]? = some channel := by
  unfold Batcher.channel at found
  split at found
  · rename_i call known
    exact ⟨call, known, found⟩
  · cases found

/-- The channels after one has been set. -/
theorem channel_setChannel {handle : Handle} {old : Channel Response}
    (found : batcher.channel handle = some old) (channel : Channel Response) (other : Handle) :
    (batcher.setChannel handle channel).channel other =
      if other = handle then some channel else batcher.channel other := by
  obtain ⟨call, known, present⟩ := exists_call_of_channel found
  have within := (List.getElem?_eq_some_iff.mp present).1
  have set : batcher.setChannel handle channel = batcher.setCall handle.call
      { call with responses := call.responses.set handle.position channel } := by
    unfold setChannel
    rw [known]
  rw [set, channel_setCall known]
  by_cases same : other.call = handle.call
  · rw [if_pos same]
    by_cases place : other.position = handle.position
    · have equal : other = handle := by
        cases other
        cases handle
        cases same
        cases place
        rfl
      rw [if_pos equal, place, List.getElem?_set_self within]
    · have different : other ≠ handle := fun equal => place (equal ▸ rfl)
      rw [if_neg different, List.getElem?_set_ne fun equal => place equal.symm]
      have there := @channel_of_call _ _ batcher handle.call call known other.position
      rw [← same] at there
      exact there.symm
  · have different : other ≠ handle := fun equal => same (equal ▸ rfl)
    rw [if_neg same, if_neg different]

/-- What was sent on a handle and which handles were dropped, as the past tells it. -/
def Responded (past : List (Batcher Request Response × Action Request Response)) (handle : Handle)
    (response : Response) : Prop :=
  ∃ state, (state, Action.respond handle response) ∈ past

def Discarded (past : List (Batcher Request Response × Action Request Response))
    (handle : Handle) : Prop :=
  ∃ state, (state, Action.discard handle) ∈ past

/-- The channels say what the past says. -/
def Recorded (past : List (Batcher Request Response × Action Request Response))
    (batcher : Batcher Request Response) : Prop :=
  ∀ handle, (∀ response, Responded past handle response ↔
      batcher.channel handle = some (.sent response)) ∧
    (Discarded past handle ↔ batcher.channel handle = some .dropped)

variable {past : List (Batcher Request Response × Action Request Response)}

theorem responded_cons {handle : Handle} {response : Response} :
    Responded ((batcher, action) :: past) handle response ↔
      action = .respond handle response ∨ Responded past handle response := by
  unfold Responded
  simp only [List.mem_cons, Prod.mk.injEq, exists_or]
  constructor
  · rintro (⟨_, _, rfl⟩ | earlier)
    · exact .inl rfl
    · exact .inr earlier
  · rintro (rfl | earlier)
    · exact .inl ⟨batcher, rfl, rfl⟩
    · exact .inr earlier

theorem discarded_cons {handle : Handle} :
    Discarded ((batcher, action) :: past) handle ↔
      action = .discard handle ∨ Discarded past handle := by
  unfold Discarded
  simp only [List.mem_cons, Prod.mk.injEq, exists_or]
  constructor
  · rintro (⟨_, _, rfl⟩ | earlier)
    · exact .inl rfl
    · exact .inr earlier
  · rintro (rfl | earlier)
    · exact .inl ⟨batcher, rfl, rfl⟩
    · exact .inr earlier

/-- The channels after a step that is no answer: those of a new handle are held, and the
others stay. -/
theorem recorded_of_kept (recorded : Recorded past batcher)
    (noAnswer : ∀ handle response, action ≠ .respond handle response)
    (noDrop : ∀ handle, action ≠ .discard handle)
    (kept : ∀ handle, next.channel handle = batcher.channel handle ∨
      (next.channel handle = some .held ∧ batcher.channel handle = none)) :
    Recorded ((batcher, action) :: past) next := by
  intro handle
  obtain ⟨sent, dropped⟩ := recorded handle
  simp only [responded_cons, discarded_cons, noAnswer, noDrop, false_or, sent, dropped]
  rcases kept handle with same | ⟨held, none⟩
  · simp only [same, implies_true, and_self]
  · simp [held, none]

theorem recorded_step (taken : batcher.step action = some next) (recorded : Recorded past batcher) :
    Recorded ((batcher, action) :: past) next := by
  have still {index : Nat} {old call : Call Request Response}
      (found : batcher.calls[index]? = some old) (calls : next.calls = batcher.calls.set index call)
      (same : call.responses = old.responses)
      (noAnswer : ∀ handle response, action ≠ .respond handle response)
      (noDrop : ∀ handle, action ≠ .discard handle) :
      Recorded ((batcher, action) :: past) next := by
    refine recorded_of_kept recorded noAnswer noDrop fun handle => .inl ?_
    rw [← channel_setCall_same found same handle]
    unfold channel setCall
    rw [calls]
  cases steps_of_step taken with
  | @executeMany items =>
      refine recorded_of_kept recorded nofun nofun fun handle => .inl ?_
      unfold channel
      by_cases old : handle.call < batcher.calls.length
      · rw [List.getElem?_append_left old]
      · rw [List.getElem?_append_right (Nat.le_of_not_lt old),
          List.getElem?_eq_none (Nat.le_of_not_lt old)]
        cases handle.call - batcher.calls.length <;> rfl
  | acquire found phase free => exact still found rfl rfl nofun nofun
  | @push index call item found phase there =>
      refine recorded_of_kept recorded nofun nofun fun handle => ?_
      have after : (batcher.push index call item).channel handle =
          (batcher.setCall index { call with responses := call.responses ++ [.held] }).channel
            handle := rfl
      rw [after, channel_setCall found]
      split
      · rename_i same
        subst same
        have before := channel_of_call found handle.position
        rw [List.getElem?_append]
        split
        · exact .inl before.symm
        · rename_i beyond
          have none := before.trans (List.getElem?_eq_none (Nat.le_of_not_lt beyond))
          rw [none]
          cases handle.position - call.responses.length with
          | zero => exact .inr ⟨rfl, rfl⟩
          | succ more => exact .inl rfl
      · exact .inl rfl
  | unlock found phase all => exact still found rfl rfl nofun nofun
  | returns found phase done => exact still found rfl rfl nofun nofun
  | receivesSent found phase ready => exact still found rfl rfl nofun nofun
  | receivesDropped found phase ready => exact still found rfl rfl nofun nofun
  | abandon found unfinished => exact still found rfl rfl nofun nofun
  | move free moved => exact recorded_of_kept recorded nofun nofun fun _ => .inl rfl
  | @respond handle response owned held =>
      intro other
      obtain ⟨sent, dropped⟩ := recorded other
      simp only [responded_cons, discarded_cons, sent, dropped, channel_setChannel held]
      by_cases same : other = handle
      · subst same
        simp [held, eq_comm]
      · simp [same, Ne.symm same]
  | @discard handle owned held =>
      intro other
      obtain ⟨sent, dropped⟩ := recorded other
      simp only [responded_cons, discarded_cons, sent, dropped, channel_setChannel held]
      by_cases same : other = handle
      · subst same
        simp [held]
      · simp [same, Ne.symm same]

/-! ## Requests of a call -/

/-- The item at the handle's place has been handed in by the handle's call. -/
def HandedIn (batcher : Batcher Request Response) (item : Request) (handle : Handle) : Prop :=
  ∃ call, batcher.calls[handle.call]? = some call ∧ handle.position < call.responses.length ∧
    call.items[handle.position]? = some item

/-- The requests handed in are the items of the calls, and no two of them have the same
handle. -/
structure Identified (batcher : Batcher Request Response) : Prop where
  known : ∀ item handle, (item, handle) ∈ batcher.submitted ↔ batcher.HandedIn item handle
  distinct : (batcher.submitted.map Prod.snd).Nodup

theorem handedIn_setCall {index : Nat} {old call : Call Request Response}
    (found : batcher.calls[index]? = some old) (calls : next.calls = batcher.calls.set index call)
    (items : call.items = old.items) (count : call.responses.length = old.responses.length)
    (item : Request) (handle : Handle) :
    next.HandedIn item handle ↔ batcher.HandedIn item handle := by
  have within := (List.getElem?_eq_some_iff.mp found).1
  unfold HandedIn
  rw [calls]
  by_cases same : handle.call = index
  · subst same
    rw [List.getElem?_set_self within, found]
    simp only [Option.some.injEq, exists_eq_left', items, count]
  · rw [List.getElem?_set_ne fun equal => same equal.symm]

theorem identified_of_kept (identified : Identified batcher)
    (requests : next.submitted = batcher.submitted)
    (kept : ∀ item handle, next.HandedIn item handle ↔ batcher.HandedIn item handle) :
    Identified next where
  known item handle := by rw [requests, kept, identified.known]
  distinct := requests ▸ identified.distinct

theorem identified_push {index : Nat} {call : Call Request Response} {item : Request}
    (found : batcher.calls[index]? = some call)
    (there : call.items[call.responses.length]? = some item) (identified : Identified batcher) :
    Identified (batcher.push index call item) := by
  have within := (List.getElem?_eq_some_iff.mp found).1
  have fresh : (⟨index, call.responses.length⟩ : Handle) ∉ batcher.submitted.map Prod.snd := by
    intro present
    obtain ⟨⟨other, handle⟩, known, same⟩ := List.mem_map.mp present
    dsimp only at same
    subst same
    obtain ⟨holder, held, less, _⟩ := (identified.known other _).mp known
    dsimp only at held less
    rw [found] at held
    cases held
    exact absurd less (Nat.lt_irrefl _)
  constructor
  · intro other handle
    simp only [push, List.mem_append, List.mem_singleton, Prod.mk.injEq, identified.known]
    unfold HandedIn
    simp only [setCall]
    by_cases same : handle.call = index
    · subst same
      rw [List.getElem?_set_self within, found]
      simp only [Option.some.injEq, exists_eq_left', List.length_append, List.length_singleton]
      constructor
      · rintro (⟨less, read⟩ | ⟨rfl, equal⟩)
        · exact ⟨by omega, read⟩
        · rw [equal]
          exact ⟨Nat.lt_succ_self _, there⟩
      · rintro ⟨less, read⟩
        by_cases earlier : handle.position < call.responses.length
        · exact .inl ⟨earlier, read⟩
        · have last : handle.position = call.responses.length := by omega
          rw [last, there] at read
          cases read
          refine .inr ⟨rfl, ?_⟩
          cases handle
          cases last
          rfl
    · rw [List.getElem?_set_ne fun equal => same equal.symm]
      constructor
      · rintro (old | ⟨_, equal⟩)
        · exact old
        · exact absurd (equal ▸ rfl) same
      · exact .inl
  · simp only [push, List.map_append, List.map_cons, List.map_nil]
    exact List.nodup_append.mpr ⟨identified.distinct, by simp, fun handle present other last => by
      rw [List.mem_singleton.mp last]
      exact fun equal => fresh (equal ▸ present)⟩

theorem identified_setChannel (identified : Identified batcher) (handle : Handle)
    (channel : Channel Response) : Identified (batcher.setChannel handle channel) := by
  apply identified_of_kept identified (by simp)
  intro item other
  cases known : batcher.calls[handle.call]? with
  | none =>
      have same : batcher.setChannel handle channel = batcher := by
        unfold setChannel
        rw [known]
      rw [same]
  | some call =>
      refine @handedIn_setCall _ _ batcher _ handle.call call
        { call with responses := call.responses.set handle.position channel } known ?_ rfl
        (List.length_set) item other
      unfold setChannel
      rw [known]
      rfl

theorem identified_step (taken : batcher.step action = some next)
    (identified : Identified batcher) : Identified next := by
  cases steps_of_step taken with
  | @executeMany items =>
      refine identified_of_kept identified rfl fun item handle => ?_
      unfold HandedIn
      by_cases old : handle.call < batcher.calls.length
      · rw [List.getElem?_append_left old]
      · rw [List.getElem?_append_right (Nat.le_of_not_lt old),
          List.getElem?_eq_none (Nat.le_of_not_lt old)]
        cases handle.call - batcher.calls.length <;> simp
  | acquire found phase free =>
      exact identified_of_kept identified rfl (handedIn_setCall found rfl rfl rfl)
  | push found phase there => exact identified_push found there identified
  | unlock found phase all =>
      exact identified_of_kept identified rfl (handedIn_setCall found rfl rfl rfl)
  | returns found phase done =>
      exact identified_of_kept identified rfl (handedIn_setCall found rfl rfl rfl)
  | receivesSent found phase ready =>
      exact identified_of_kept identified rfl (handedIn_setCall found rfl rfl rfl)
  | receivesDropped found phase ready =>
      exact identified_of_kept identified rfl (handedIn_setCall found rfl rfl rfl)
  | abandon found unfinished =>
      exact identified_of_kept identified rfl (handedIn_setCall found rfl rfl rfl)
  | move free moved => exact ⟨identified.known, identified.distinct⟩
  | respond owned held => exact identified_setChannel identified _ _
  | discard owned held => exact identified_setChannel identified _ _

/-! ## Results of a call -/

/-- What a waiting call gets from a channel. -/
def outcome : Channel Response → Option (Option Response)
  | .held => none
  | .sent response => some (some response)
  | .dropped => some none

/-- The results are those of the first channels, and a call that has returned has handed in
all its items and has a result for each. -/
structure Orderly (call : Call Request Response) : Prop where
  answered : ∀ (index : Nat) (result : Option Response), call.results[index]? = some result →
    ∃ channel, call.responses[index]? = some channel ∧ outcome channel = some result
  received : call.results.length ≤ call.responses.length
  pushed : call.responses.length ≤ call.items.length
  handed : call.phase = .awaiting ∨ call.phase = .returned →
    call.items.length ≤ call.responses.length
  complete : call.phase = .returned → call.responses.length ≤ call.results.length

def AllOrderly (batcher : Batcher Request Response) : Prop :=
  ∀ (index : Nat) (call : Call Request Response), batcher.calls[index]? = some call → Orderly call

theorem allOrderly_setCall {index : Nat} {call : Call Request Response}
    (orderly : AllOrderly batcher) (calls : next.calls = batcher.calls.set index call)
    (moved : Orderly call) : AllOrderly next := by
  intro place found read
  rw [calls] at read
  rcases getElem?_set_cases read with ⟨_, rfl⟩ | ⟨_, old⟩
  · exact moved
  · exact orderly place found old

/-- One more result, that of the next channel. -/
theorem orderly_receive {call : Call Request Response} {channel : Channel Response}
    {result : Option Response} (orderly : Orderly call) (phase : call.phase = .awaiting)
    (ready : call.responses[call.results.length]? = some channel)
    (same : outcome channel = some result) :
    Orderly { call with results := call.results ++ [result] } where
  answered index found read := by
    rcases getElem?_append_cases read with ⟨rfl, rfl⟩ | old
    · exact ⟨channel, ready, same⟩
    · exact orderly.answered index found old
  received := by
    have within := (List.getElem?_eq_some_iff.mp ready).1
    rw [List.length_append]
    exact within
  pushed := orderly.pushed
  handed := orderly.handed
  complete returned := by
    rw [phase] at returned
    cases returned

theorem orderly_push {call : Call Request Response} {item : Request} (orderly : Orderly call)
    (phase : call.phase = .pushing) (there : call.items[call.responses.length]? = some item) :
    Orderly { call with responses := call.responses ++ [.held] } where
  answered index result read := by
    obtain ⟨channel, present, same⟩ := orderly.answered index result read
    have within := (List.getElem?_eq_some_iff.mp present).1
    exact ⟨channel, by rw [List.getElem?_append_left within]; exact present, same⟩
  received := by
    rw [List.length_append]
    exact Nat.le_trans orderly.received (Nat.le_add_right _ _)
  pushed := by
    rw [List.length_append]
    exact (List.getElem?_eq_some_iff.mp there).1
  handed later := by
    rw [phase] at later
    rcases later with impossible | impossible <;> cases impossible
  complete later := by
    rw [phase] at later
    cases later

/-- A channel that was held gets a state; no result has been taken from it. -/
theorem orderly_setChannel {call : Call Request Response} {position : Nat}
    (orderly : Orderly call) (held : call.responses[position]? = some .held)
    (channel : Channel Response) :
    Orderly { call with responses := call.responses.set position channel } where
  answered index result read := by
    obtain ⟨old, found, same⟩ := orderly.answered index result read
    by_cases equal : index = position
    · subst equal
      rw [held] at found
      cases found
      cases same
    · exact ⟨old, by rw [List.getElem?_set_ne fun other => equal other.symm]; exact found, same⟩
  received := by
    rw [List.length_set]
    exact orderly.received
  pushed := by
    rw [List.length_set]
    exact orderly.pushed
  handed := by
    rw [List.length_set]
    exact orderly.handed
  complete := by
    rw [List.length_set]
    exact orderly.complete

theorem allOrderly_setChannel {handle : Handle} (orderly : AllOrderly batcher)
    (held : batcher.channel handle = some .held) (channel : Channel Response) :
    AllOrderly (batcher.setChannel handle channel) := by
  obtain ⟨call, known, present⟩ := exists_call_of_channel held
  have calls : (batcher.setChannel handle channel).calls = batcher.calls.set handle.call
      { call with responses := call.responses.set handle.position channel } := by
    unfold setChannel
    rw [known]
    rfl
  exact allOrderly_setCall orderly calls
    (orderly_setChannel (orderly handle.call call known) present channel)

theorem allOrderly_step (taken : batcher.step action = some next) (orderly : AllOrderly batcher) :
    AllOrderly next := by
  cases steps_of_step taken with
  | executeMany =>
      intro index call read
      rcases getElem?_append_cases read with ⟨_, rfl⟩ | old
      · exact ⟨nofun, Nat.le_refl 0, Nat.zero_le _, nofun, nofun⟩
      · exact orderly index call old
  | acquire found phase free =>
      have before := orderly _ _ found
      exact allOrderly_setCall orderly rfl
        ⟨before.answered, before.received, before.pushed, nofun, nofun⟩
  | @push index call item found phase there =>
      exact allOrderly_setCall orderly rfl (orderly_push (orderly _ _ found) phase there)
  | unlock found phase all =>
      have before := orderly _ _ found
      exact allOrderly_setCall orderly rfl
        ⟨before.answered, before.received, before.pushed, fun _ => all, nofun⟩
  | returns found phase done =>
      have before := orderly _ _ found
      exact allOrderly_setCall orderly rfl ⟨before.answered, before.received, before.pushed,
        fun _ => before.handed (.inl phase), fun _ => List.getElem?_eq_none_iff.mp done⟩
  | receivesSent found phase ready =>
      exact allOrderly_setCall orderly rfl (orderly_receive (orderly _ _ found) phase ready rfl)
  | receivesDropped found phase ready =>
      exact allOrderly_setCall orderly rfl (orderly_receive (orderly _ _ found) phase ready rfl)
  | abandon found unfinished =>
      have before := orderly _ _ found
      exact allOrderly_setCall orderly rfl
        ⟨before.answered, before.received, before.pushed, nofun, nofun⟩
  | move free moved => exact orderly
  | respond owned held => exact allOrderly_setChannel orderly held _
  | discard owned held => exact allOrderly_setChannel orderly held _

theorem recorded_of_run {batchSize concurrency : Nat} {last : Batcher Request Response}
    (run : Run step (new batchSize concurrency) past last) : Recorded past last := by
  induction run with
  | start =>
      intro handle
      constructor
      · exact fun response => ⟨nofun, nofun⟩
      · exact ⟨nofun, nofun⟩
  | next before taken ih => exact recorded_step taken ih

/-- The result of a call that has returned, as the past tells it. -/
theorem results_of_returned {last : Batcher Request Response} (recorded : Recorded past last)
    {index : Nat} {call : Call Request Response} (found : last.calls[index]? = some call)
    (orderly : Orderly call) (returned : call.phase = .returned) :
    call.results.length = call.items.length ∧
    ∀ position < call.items.length,
      (∀ response, call.results[position]? = some (some response) ↔
        Responded past ⟨index, position⟩ response) ∧
      (call.results[position]? = some none ↔ Discarded past ⟨index, position⟩) := by
  have all : call.results.length = call.items.length :=
    Nat.le_antisymm (Nat.le_trans orderly.received orderly.pushed)
      (Nat.le_trans (orderly.handed (.inr returned)) (orderly.complete returned))
  refine ⟨all, fun position within => ?_⟩
  have there : position < call.results.length := all ▸ within
  obtain ⟨channel, present, same⟩ := orderly.answered position _ (List.getElem?_eq_getElem there)
  obtain ⟨sent, dropped⟩ := recorded ⟨index, position⟩
  have known := (channel_of_call found position).trans present
  rw [List.getElem?_eq_getElem there]
  simp only [sent, dropped, known]
  cases channel with
  | held => cases same
  | sent response =>
      simp only [outcome, Option.some.injEq] at same
      simp [← same]
  | dropped =>
      simp only [outcome, Option.some.injEq] at same
      simp [← same]

/-- In every interleaving: the batches hold the requests in the order in which they were
handed in, each request in one of them, and each has between one request and the batch
size; a request reaches the executor at most once, and exactly once if its task has run; no
more batches run at a time than the concurrency allows; and a call that has returned has
for each item what was sent on its handle, or nothing exactly if the handle was
dropped. -/
theorem batcher_delivers (batchSize concurrency : Nat)
    {past : List (Batcher Request Response × Action Request Response)}
    {last : Batcher Request Response} (run : Run step (new batchSize concurrency) past last) :
    (last.queue.batches.flatten = last.submitted ∧
      (last.queue.batches.flatten.map Prod.snd).Nodup ∧
      ∀ item handle, (item, handle) ∈ last.queue.batches.flatten ↔ last.HandedIn item handle) ∧
    ((last.queue.executed.flatten.map Prod.snd).Nodup ∧
      last.queue.executed.Perm
        ((last.queue.tasks.filter fun task => task.phase.hasRun).map Task.batch)) ∧
    (∀ batch ∈ last.queue.batches, 1 ≤ batch.length ∧ batch.length ≤ max batchSize 1) ∧
    last.queue.tasks.countP (fun task => task.phase.isExecuting) ≤ max concurrency 1 ∧
    ∀ (index : Nat) (call : Call Request Response), last.calls[index]? = some call →
      call.phase = .returned → call.results.length = call.items.length ∧
        ∀ position < call.items.length,
          (∀ response, call.results[position]? = some (some response) ↔
            Responded past ⟨index, position⟩ response) ∧
          (call.results[position]? = some none ↔ Discarded past ⟨index, position⟩) := by
  have placed := run.invariant (Placed (max batchSize 1) (max concurrency 1))
    (placed_new batchSize concurrency) (placed_step (by omega))
  have identified := run.invariant Identified ⟨fun _ _ => ⟨nofun, nofun⟩, .nil⟩ identified_step
  have orderly := run.invariant AllOrderly nofun allOrderly_step
  have distinct : (last.queue.batches.flatten.map Prod.snd).Nodup := by
    rw [placed.flat]
    exact identified.distinct
  refine ⟨⟨placed.flat, distinct, fun item handle => ?_⟩, ⟨?_, placed.sound.executed⟩,
    placed.sized, placed.sound.executing_le, fun index call found returned => ?_⟩
  · rw [placed.flat]
    exact identified.known item handle
  · obtain ⟨run, part, same⟩ := placed.sound.executed_subperm
    exact (same.flatten.map Prod.snd).nodup_iff.mpr
      (((BatchQueue.flatten_sublist part).map Prod.snd).nodup distinct)
  · exact results_of_returned (recorded_of_run run) found (orderly index call found) returned

/-- Two calls share the second of two batches; one handle is dropped, and the answers to the
second batch come in the other order. -/
def sharedActions : List (Action Nat Nat) :=
  [.executeMany [10, 20, 30], .executeMany [7], .acquire 0, .push 0, .push 0, .push 0, .unlock 0,
    .acquire 1, .push 1, .unlock 1, .move (.begin 0), .respond ⟨0, 0⟩ 100, .discard ⟨0, 1⟩,
    .move (.complete 0), .move (.release 0), .move (.begin 1), .respond ⟨1, 0⟩ 70,
    .respond ⟨0, 2⟩ 300, .receive 0, .receive 0, .receive 0, .receive 0]

theorem sharedActions_deliver :
    ∃ past last, follow step [] (new 2 1) sharedActions = some (past, last) ∧
      ∃ call, last.calls[0]? = some call ∧ call.phase = .returned ∧
        call.results = [some 100, none, some 300] ∧ Responded past ⟨0, 2⟩ 300 ∧
        Discarded past ⟨0, 1⟩ := by
  have followed : ∃ after, follow step [] (new 2 1) sharedActions = some after ∧
      ∃ call, after.2.calls[0]? = some call ∧ call.phase = .returned ∧
        call.items.length = 3 ∧ call.results = [some 100, none, some 300] := by
    decide +kernel
  obtain ⟨⟨past, last⟩, taken, call, found, returned, items, results⟩ := followed
  obtain ⟨-, -, -, -, answers⟩ := batcher_delivers 2 1 (Run.start.follow taken)
  obtain ⟨-, each⟩ := answers 0 call found returned
  refine ⟨past, last, taken, call, found, returned, results, ?_, ?_⟩
  · exact ((each 2 (by omega)).1 300).mp (by rw [results]; rfl)
  · exact (each 1 (by omega)).2.mp (by rw [results]; rfl)

end ScuffleVideo.Batching.Batcher
