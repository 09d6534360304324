import ScuffleVideo.Batching.Loading

/-!
# What a load returns

A call that returns has for each of its keys the value that the last of its batches to find
the key gave.  A call fails if and only if one of its batches was fetched without success or
not to its end.  Every fetch gets a batch of its own.
-/

namespace ScuffleVideo.Batching.DataLoader

open Concurrent

variable {Key Value : Type} {loader next : DataLoader Key Value} {action : LoadAction Key Value}
  {past : List (DataLoader Key Value × LoadAction Key Value)}

/-! ## The values of a call -/

/-- What the batches of a call gave for its keys, one batch after the other. -/
def gather [DecidableEq Key] (found : Nat → ValueMap Key Value) (waiters : List (BatchWaiting Key)) :
    ValueMap Key Value :=
  waiters.foldl (fun results waiting => extend results waiting.keys (found waiting.result))
    fun _ => none

theorem gather_append [DecidableEq Key] (found : Nat → ValueMap Key Value)
    (waiters : List (BatchWaiting Key)) (waiting : BatchWaiting Key) :
    gather found (waiters ++ [waiting]) =
      extend (gather found waiters) waiting.keys (found waiting.result) := by
  unfold gather
  rw [List.foldl_append]
  rfl

theorem gather_congr [DecidableEq Key] {found other : Nat → ValueMap Key Value}
    {waiters : List (BatchWaiting Key)}
    (same : ∀ waiting ∈ waiters, found waiting.result = other waiting.result) :
    gather found waiters = gather other waiters := by
  induction waiters using List.reverseRecOn with
  | nil => rfl
  | append_singleton waiters waiting ih =>
      rw [gather_append, gather_append,
        same waiting (List.mem_append_right _ (List.mem_singleton_self _)),
        ih fun waiting present => same waiting (List.mem_append_left _ present)]

/-- A key has the value that the last of its batches to find it gave. -/
theorem gather_eq_some_iff [DecidableEq Key] (found : Nat → ValueMap Key Value)
    {waiters : List (BatchWaiting Key)}
    (ordered : waiters.Pairwise fun earlier later => earlier.result < later.result) (key : Key)
    (value : Value) :
    gather found waiters key = some value ↔
      ∃ waiting ∈ waiters, key ∈ waiting.keys ∧ found waiting.result key = some value ∧
        ∀ later ∈ waiters, waiting.result < later.result → key ∈ later.keys →
          found later.result key = none := by
  induction waiters using List.reverseRecOn with
  | nil => exact ⟨nofun, nofun⟩
  | append_singleton waiters last ih =>
      obtain ⟨inner, -, below⟩ := List.pairwise_append.mp ordered
      have before := ih inner
      have lower (waiting : BatchWaiting Key) (present : waiting ∈ waiters) :
          waiting.result < last.result :=
        below waiting present last (List.mem_singleton_self _)
      rw [gather_append, extend]
      by_cases decides : key ∈ last.keys ∧ found last.result key ≠ none
      · obtain ⟨held, gives⟩ := decides
        obtain ⟨given, known⟩ := Option.ne_none_iff_exists'.mp gives
        rw [if_pos held, known, Option.some_or]
        constructor
        · intro same
          refine ⟨last, List.mem_append_right _ (List.mem_singleton_self _), held,
            known.trans same, fun later present above => ?_⟩
          rcases List.mem_append.mp present with old | new
          · exact absurd above (Nat.lt_asymm (lower later old))
          · rw [List.mem_singleton.mp new] at above
            exact absurd above (Nat.lt_irrefl _)
        · rintro ⟨waiting, present, _, there, unbeaten⟩
          rcases List.mem_append.mp present with old | new
          · have none := unbeaten last (List.mem_append_right _ (List.mem_singleton_self _))
              (lower waiting old) held
            rw [none] at known
            cases known
          · rw [List.mem_singleton.mp new] at there
            exact known.symm.trans there
      · have silent (held : key ∈ last.keys) : found last.result key = none := by
          by_contra gives
          exact decides ⟨held, gives⟩
        have same : (if key ∈ last.keys then
            (found last.result key).or (gather found waiters key) else gather found waiters key) =
            gather found waiters key := by
          split
          · rename_i held
            rw [silent held, Option.none_or]
          · rfl
        rw [same, before]
        constructor
        · rintro ⟨waiting, old, held, there, unbeaten⟩
          refine ⟨waiting, List.mem_append_left _ old, held, there,
            fun later present above has => ?_⟩
          rcases List.mem_append.mp present with old | new
          · exact unbeaten later old above has
          · rw [List.mem_singleton.mp new] at has ⊢
            exact silent has
        · rintro ⟨waiting, present, held, there, unbeaten⟩
          rcases List.mem_append.mp present with old | new
          · exact ⟨waiting, old, held, there, fun later present =>
              unbeaten later (List.mem_append_left _ present)⟩
          · rw [List.mem_singleton.mp new] at held there
            rw [silent held] at there
            cases there

/-- A key has no value if none of its batches found it. -/
theorem gather_eq_none_iff [DecidableEq Key] (found : Nat → ValueMap Key Value)
    (waiters : List (BatchWaiting Key)) (key : Key) :
    gather found waiters key = none ↔
      ∀ waiting ∈ waiters, key ∈ waiting.keys → found waiting.result key = none := by
  induction waiters using List.reverseRecOn with
  | nil => exact ⟨fun _ => nofun, fun _ => rfl⟩
  | append_singleton waiters last ih =>
      rw [gather_append, extend]
      simp only [List.mem_append, List.mem_singleton]
      by_cases held : key ∈ last.keys
      · rw [if_pos held, Option.or_eq_none_iff, ih]
        constructor
        · rintro ⟨silent, before⟩ waiting (old | rfl)
          · exact before waiting old
          · exact fun _ => silent
        · intro all
          exact ⟨all last (.inr rfl) held, fun waiting old => all waiting (.inl old)⟩
      · rw [if_neg held, ih]
        constructor
        · rintro before waiting (old | rfl)
          · exact before waiting old
          · exact fun has => absurd has held
        · exact fun all waiting old => all waiting (.inl old)

/-- The values that are stored for a batch. -/
def valueOf (loader : DataLoader Key Value) (batch : Nat) : ValueMap Key Value :=
  match loader.content batch with
  | some (some values) => values
  | _ => fun _ => none

/-- The callers of the batch have been woken, and there are no values for them. -/
def Broken (loader : DataLoader Key Value) (batch : Nat) : Prop :=
  ∃ cell, loader.results[batch]? = some cell ∧ cell.cancelled = true ∧
    ∀ values, cell.values ≠ some (some values)

theorem content_kept [DecidableEq Key] {size limit : Nat} (kept : Stored size limit loader)
    (taken : loader.step action = some next) {batch : Nat} {result : Option (ValueMap Key Value)}
    (known : loader.content batch = some result) : next.content batch = some result := by
  rcases content_after kept taken batch with ⟨same, _⟩ | ⟨found, _, empty, _⟩
  · exact same.trans known
  · rw [empty] at known
    cases known

theorem broken_setResult {index batch : Nat} {old cell : BatchResult Key Value}
    (read : loader.results[index]? = some old) (values : cell.values = old.values)
    (later : old.cancelled = true → cell.cancelled = true) (broken : loader.Broken batch) :
    (loader.setResult index cell).Broken batch := by
  obtain ⟨found, there, woken, nothing⟩ := broken
  by_cases same : index = batch
  · subst same
    rw [read] at there
    cases there
    refine ⟨cell, List.getElem?_set_self (List.getElem?_eq_some_iff.mp read).1, later woken, ?_⟩
    rw [values]
    exact nothing
  · refine ⟨found, ?_, woken, nothing⟩
    unfold setResult
    rw [List.getElem?_set_ne same]
    exact there

/-- A batch whose callers have been woken without values gets none later. -/
theorem broken_kept [DecidableEq Key] {size limit : Nat} (kept : Stored size limit loader)
    (taken : loader.step action = some next) {batch : Nat} (broken : loader.Broken batch) :
    next.Broken batch := by
  cases steps_of_step taken with
  | loadMany => exact broken
  | acquire found phase free => exact broken
  | push found phase there =>
      obtain ⟨cell, read, woken, nothing⟩ := broken
      refine ⟨cell, ?_, woken, nothing⟩
      simp only [push]
      split
      · rw [List.getElem?_append_left (List.getElem?_eq_some_iff.mp read).1]
        exact read
      · exact read
  | unlock found phase all => exact broken
  | returns found phase done => exact broken
  | gathers found phase waits read woken fetched => exact broken
  | fails found phase waits read woken nothing => exact broken
  | abandon found unfinished => exact broken
  | poll waiting read => exact broken_setResult read (by rfl) id broken
  | move allowed moved => exact broken
  | @complete index result queue cell moved read =>
      obtain ⟨empty, asleep, -⟩ := empty_of_complete kept moved read
      rw [fill_of_empty empty]
      obtain ⟨found, there, woken, nothing⟩ := broken
      by_cases same : index = batch
      · subst same
        rw [read] at there
        cases there
        rw [asleep] at woken
        cases woken
      · refine ⟨found, ?_, woken, nothing⟩
        simp only [setResult]
        rw [List.getElem?_set_ne same]
        exact there
  | wake present gone read guarded => exact broken_setResult read (by rfl) (fun _ => rfl) broken

/-- The values that a call has are those of the batches that it has waited for, all fetched
with success; a call that has failed found a batch without values. -/
structure Collected [DecidableEq Key] (loader : DataLoader Key Value) (load : Load Key Value) :
    Prop where
  fetched : ∀ waiting ∈ load.waiters.take load.waited,
    ∃ values, loader.content waiting.result = some (some values)
  results : load.results = gather loader.valueOf (load.waiters.take load.waited)
  early : load.phase = .locking ∨ load.phase = .pushing → load.waited = 0
  returned : load.phase = .returned → load.waiters.length ≤ load.waited
  failed : load.phase = .failed → ∃ waiting ∈ load.waiters, loader.Broken waiting.result

theorem valueOf_eq {batch : Nat} {values : ValueMap Key Value}
    (known : loader.content batch = some (some values)) : loader.valueOf batch = values := by
  unfold valueOf
  rw [known]

theorem collected_kept [DecidableEq Key] {size limit : Nat} {load : Load Key Value}
    (kept : Stored size limit loader) (taken : loader.step action = some next)
    (collected : Collected loader load) : Collected next load where
  fetched waiting present := by
    obtain ⟨values, known⟩ := collected.fetched waiting present
    exact ⟨values, content_kept kept taken known⟩
  results := by
    rw [collected.results]
    apply gather_congr
    intro waiting present
    obtain ⟨values, known⟩ := collected.fetched waiting present
    rw [valueOf_eq known, valueOf_eq (content_kept kept taken known)]
  early := collected.early
  returned := collected.returned
  failed failed := by
    obtain ⟨waiting, present, broken⟩ := collected.failed failed
    exact ⟨waiting, present, broken_kept kept taken broken⟩

def AllCollected [DecidableEq Key] (loader : DataLoader Key Value) : Prop :=
  ∀ (index : Nat) (load : Load Key Value), loader.loads[index]? = some load →
    Collected loader load

theorem allCollected_setLoad [DecidableEq Key] {size limit : Nat} {index : Nat}
    {load : Load Key Value} (kept : Stored size limit loader)
    (taken : loader.step action = some next) (collected : AllCollected loader)
    (loads : next.loads = loader.loads.set index load) (moved : Collected loader load) :
    AllCollected next := by
  intro place found read
  rw [loads] at read
  rcases getElem?_set_cases read with ⟨_, rfl⟩ | ⟨_, old⟩
  · exact collected_kept kept taken moved
  · exact collected_kept kept taken (collected place found old)

theorem allCollected_of_loads [DecidableEq Key] {size limit : Nat}
    (kept : Stored size limit loader) (taken : loader.step action = some next)
    (collected : AllCollected loader) (loads : next.loads = loader.loads) : AllCollected next := by
  intro place found read
  rw [loads] at read
  exact collected_kept kept taken (collected place found read)

theorem collected_gather [DecidableEq Key] {load : Load Key Value} {waiting : BatchWaiting Key}
    {values : ValueMap Key Value} (collected : Collected loader load)
    (phase : load.phase = .awaiting) (waits : load.waiters[load.waited]? = some waiting)
    (known : loader.content waiting.result = some (some values)) :
    Collected loader { load with
      waited := load.waited + 1
      results := extend load.results waiting.keys values } := by
  have taken : load.waiters.take (load.waited + 1) = load.waiters.take load.waited ++ [waiting] := by
    rw [List.take_add_one, waits]
    rfl
  constructor
  case fetched =>
    intro other present
    dsimp only at present
    rw [taken] at present
    rcases List.mem_append.mp present with old | new
    · exact collected.fetched other old
    · rw [List.mem_singleton.mp new]
      exact ⟨values, known⟩
  case results =>
    dsimp only
    rw [taken, gather_append, ← collected.results, valueOf_eq known]
  case early =>
    intro early
    rw [phase] at early
    rcases early with impossible | impossible <;> cases impossible
  case returned =>
    intro returned
    rw [phase] at returned
    cases returned
  case failed =>
    intro failed
    rw [phase] at failed
    cases failed

theorem allCollected_step [DecidableEq Key] {size limit : Nat} (kept : Stored size limit loader)
    (taken : loader.step action = some next) (collected : AllCollected loader) :
    AllCollected next := by
  cases steps_of_step taken with
  | loadMany =>
      intro place found read
      rcases getElem?_append_cases read with ⟨_, rfl⟩ | old
      · exact ⟨nofun, rfl, fun _ => rfl, nofun, nofun⟩
      · exact collected_kept kept taken (collected place found old)
  | acquire found phase free =>
      have before := collected _ _ found
      exact allCollected_setLoad kept taken collected rfl
        ⟨before.fetched, before.results, fun _ => before.early (.inl phase), nofun, nofun⟩
  | @push index load item found phase there =>
      have before := collected _ _ found
      have start := before.early (.inr phase)
      refine allCollected_setLoad kept taken collected rfl ⟨?_, ?_, fun _ => start, ?_, ?_⟩
      · dsimp only
        rw [start]
        exact nofun
      · have results := before.results
        dsimp only
        rw [start] at results ⊢
        exact results
      · intro returned
        rw [phase] at returned
        cases returned
      · intro failed
        rw [phase] at failed
        cases failed
  | unlock found phase all =>
      have before := collected _ _ found
      exact allCollected_setLoad kept taken collected rfl
        ⟨before.fetched, before.results, fun _ => before.early (.inr phase), nofun, nofun⟩
  | returns found phase done =>
      have before := collected _ _ found
      refine allCollected_setLoad kept taken collected rfl
        ⟨before.fetched, before.results, ?_, fun _ => List.getElem?_eq_none_iff.mp done, nofun⟩
      rintro (impossible | impossible) <;> cases impossible
  | gathers found phase waits read woken fetched =>
      refine allCollected_setLoad kept taken collected rfl
        (collected_gather (collected _ _ found) phase waits ?_)
      unfold content
      rw [read]
      exact fetched
  | fails found phase waits read woken nothing =>
      have before := collected _ _ found
      refine allCollected_setLoad kept taken collected rfl
        ⟨before.fetched, before.results, ?_, nofun, fun _ => ?_⟩
      · rintro (impossible | impossible) <;> cases impossible
      · exact ⟨_, List.mem_of_getElem? waits, _, read, woken, nothing⟩
  | abandon found unfinished =>
      have before := collected _ _ found
      refine allCollected_setLoad kept taken collected rfl
        ⟨before.fetched, before.results, ?_, nofun, nofun⟩
      rintro (impossible | impossible) <;> cases impossible
  | poll waiting read => exact allCollected_of_loads kept taken collected rfl
  | move allowed moved => exact allCollected_of_loads kept taken collected rfl
  | complete moved read =>
      refine allCollected_of_loads kept taken collected ?_
      unfold fill
      split <;> rfl
  | wake present gone read guarded => exact allCollected_of_loads kept taken collected rfl

theorem allCollected_of_run [DecidableEq Key] {batchSize concurrency : Nat}
    {last : DataLoader Key Value} (run : Run step (new batchSize concurrency) past last) :
    AllCollected last := by
  induction run with
  | start => exact nofun
  | next before taken ih => exact allCollected_step (stored_of_run before) taken ih

/-! ## What holds of all runs -/

/-- Batches only grow. -/
theorem batches_grow [DecidableEq Key] (taken : loader.step action = some next) {batch : Nat}
    {keys : Finset Key} (known : loader.queue.batches[batch]? = some keys) :
    ∃ more, next.queue.batches[batch]? = some more ∧ keys ⊆ more := by
  have same (queues : next.queue.batches = loader.queue.batches) :
      ∃ more, next.queue.batches[batch]? = some more ∧ keys ⊆ more :=
    ⟨keys, by rw [queues]; exact known, fun _ => id⟩
  cases steps_of_step taken with
  | loadMany => exact same rfl
  | acquire found phase free => exact same rfl
  | @push index load item found phase there =>
      simp only [push, BatchQueue.batches_put]
      rw [BatchQueue.batches] at known
      cases opened : loader.queue.current with
      | none =>
          rw [opened] at known
          simp only [Option.toList_none, List.append_nil] at known
          refine ⟨keys, ?_, fun _ => id⟩
          rw [List.getElem?_append_left (List.getElem?_eq_some_iff.mp known).1]
          exact known
      | some current =>
          rw [opened] at known
          rcases getElem?_append_cases known with ⟨rfl, rfl⟩ | old
          · exact ⟨_, List.getElem?_concat_length, Finset.subset_insert _ _⟩
          · refine ⟨keys, ?_, fun _ => id⟩
            rw [List.getElem?_append_left (List.getElem?_eq_some_iff.mp old).1]
            exact old
  | unlock found phase all => exact same rfl
  | returns found phase done => exact same rfl
  | gathers found phase waits read woken fetched => exact same rfl
  | fails found phase waits read woken nothing => exact same rfl
  | abandon found unfinished => exact same rfl
  | poll waiting read => exact same rfl
  | move allowed moved => exact same (BatchQueue.batches_step moved)
  | complete moved read =>
      apply same
      unfold fill
      split <;> exact BatchQueue.batches_step moved
  | wake present gone read guarded => exact same rfl

/-- A key that was handed to a batch is there. -/
theorem mem_batch_of_handedTo [DecidableEq Key] {batchSize concurrency : Nat}
    {last : DataLoader Key Value} (run : Run step (new batchSize concurrency) past last)
    {index batch : Nat} {key : Key} (handed : HandedTo past index key batch) :
    ∃ keys, last.queue.batches[batch]? = some keys ∧ key ∈ keys := by
  induction run with
  | start =>
      obtain ⟨_, _, impossible, _⟩ := handed
      cases impossible
  | @next past state last action before taken ih =>
      rcases handedTo_cons.mp handed with ⟨rfl, load, found, there, rfl⟩ | earlier
      · cases steps_of_step taken with
        | @push _ other item known phase next =>
            rw [found] at known
            cases known
            rw [there] at next
            cases next
            simp only [push, BatchQueue.batches_put]
            refine ⟨insert key (state.queue.current.getD ∅), ?_, Finset.mem_insert_self _ _⟩
            rw [List.getElem?_append_right (Nat.le_of_eq (List.length_map _)), List.length_map,
              Nat.sub_self]
            rfl
      · obtain ⟨keys, present, held⟩ := ih earlier
        obtain ⟨more, grown, subset⟩ := batches_grow taken present
        exact ⟨more, grown, subset held⟩

/-- The fetch of the batch returned nothing, or the task is over and did not get to the end
of the fetch. -/
def FetchFailed (past : List (DataLoader Key Value × LoadAction Key Value))
    (last : DataLoader Key Value) (batch : Nat) : Prop :=
  Fetched past batch none ∨
    ((∃ task, last.queue.tasks[batch]? = some task ∧ task.phase.isOver = true) ∧
      ∀ result, ¬Fetched past batch result)

theorem fetchFailed_of_broken [DecidableEq Key] {batchSize concurrency : Nat}
    {last : DataLoader Key Value} (run : Run step (new batchSize concurrency) past last)
    {batch : Nat} (broken : last.Broken batch) : FetchFailed past last batch := by
  obtain ⟨⟨values, guarded, cancelled⟩, read, woken, nothing⟩ := broken
  have content : last.content batch = values := by
    unfold DataLoader.content
    rw [read]
    rfl
  unfold FetchFailed
  simp only [fetched_iff_content run, content]
  cases values with
  | none => exact .inr ⟨(stored_of_run run).woken batch _ read woken, nofun⟩
  | some result =>
      cases result with
      | none => exact .inl rfl
      | some values => exact absurd rfl (nothing values)

section Returned

variable [DecidableEq Key] {batchSize concurrency : Nat} {last : DataLoader Key Value}
  {index : Nat} {load : Load Key Value}

/-- Each batch of a call that has returned was fetched with success. -/
theorem fetched_of_returned (run : Run step (new batchSize concurrency) past last)
    (found : last.loads[index]? = some load) (returned : load.phase = .returned) {key : Key}
    {batch : Nat} (handed : HandedTo past index key batch) :
    ∃ values, Fetched past batch (some values) := by
  have collected := allCollected_of_run run index load found
  obtain ⟨waiting, present, rfl, _⟩ :=
    (((allNoted_of_run run).each index load found).noted key batch).mp handed
  rw [← List.take_of_length_le (collected.returned returned)] at present
  obtain ⟨values, known⟩ := collected.fetched waiting present
  exact ⟨values, (fetched_iff_content run _ _).mpr known⟩

/-- The value of a key is that of the last batch of the call to find it. -/
theorem value_iff_lastFetch (run : Run step (new batchSize concurrency) past last)
    (found : last.loads[index]? = some load) (returned : load.phase = .returned) (key : Key)
    (value : Value) :
    load.results key = some value ↔
      ∃ batch values, HandedTo past index key batch ∧ Fetched past batch (some values) ∧
        values key = some value ∧
        ∀ later others, batch < later → HandedTo past index key later →
          Fetched past later (some others) → others key = none := by
  have collected := allCollected_of_run run index load found
  have noted := (allNoted_of_run run).each index load found
  have results := collected.results
  have fetched := collected.fetched
  rw [List.take_of_length_le (collected.returned returned)] at results fetched
  rw [results, gather_eq_some_iff _ noted.ordered]
  constructor
  · rintro ⟨waiting, present, held, gives, unbeaten⟩
    obtain ⟨values, known⟩ := fetched waiting present
    rw [valueOf_eq known] at gives
    refine ⟨waiting.result, values, (noted.noted key _).mpr ⟨waiting, present, rfl, held⟩,
      (fetched_iff_content run _ _).mpr known, gives, fun later others above handed there => ?_⟩
    obtain ⟨other, among, rfl, has⟩ := (noted.noted key later).mp handed
    rw [← valueOf_eq ((fetched_iff_content run _ _).mp there)]
    exact unbeaten other among above has
  · rintro ⟨batch, values, handed, there, gives, unbeaten⟩
    obtain ⟨waiting, present, rfl, held⟩ := (noted.noted key batch).mp handed
    refine ⟨waiting, present, held, ?_, fun later among above has => ?_⟩
    · rw [valueOf_eq ((fetched_iff_content run _ _).mp there)]
      exact gives
    · obtain ⟨others, known⟩ := fetched later among
      rw [valueOf_eq known]
      exact unbeaten _ others above ((noted.noted key _).mpr ⟨later, among, rfl, has⟩)
        ((fetched_iff_content run _ _).mpr known)

/-- A key has no value if no batch of the call found it. -/
theorem missing_iff (run : Run step (new batchSize concurrency) past last)
    (found : last.loads[index]? = some load) (returned : load.phase = .returned) (key : Key) :
    load.results key = none ↔
      ∀ batch values, HandedTo past index key batch → Fetched past batch (some values) →
        values key = none := by
  have collected := allCollected_of_run run index load found
  have noted := (allNoted_of_run run).each index load found
  have results := collected.results
  have fetched := collected.fetched
  rw [List.take_of_length_le (collected.returned returned)] at results fetched
  rw [results, gather_eq_none_iff]
  constructor
  · intro silent batch values handed there
    obtain ⟨waiting, present, rfl, held⟩ := (noted.noted key batch).mp handed
    rw [← valueOf_eq ((fetched_iff_content run _ _).mp there)]
    exact silent waiting present held
  · intro silent waiting present held
    obtain ⟨values, known⟩ := fetched waiting present
    rw [valueOf_eq known]
    exact silent _ values ((noted.noted key _).mpr ⟨waiting, present, rfl, held⟩)
      ((fetched_iff_content run _ _).mpr known)

/-- A call that has returned has handed all its items in. -/
theorem mem_items_iff_handedTo (run : Run step (new batchSize concurrency) past last)
    (found : last.loads[index]? = some load) (behind : isBehind load.phase = true) (key : Key) :
    key ∈ load.items ↔ ∃ batch, HandedTo past index key batch := by
  have noted := (allNoted_of_run run).each index load found
  constructor
  · intro present
    rw [← List.take_of_length_le (noted.handed behind)] at present
    obtain ⟨waiting, among, held⟩ := noted.covered key present
    exact ⟨waiting.result, (noted.noted key _).mpr ⟨waiting, among, rfl, held⟩⟩
  · rintro ⟨batch, handed⟩
    obtain ⟨waiting, among, _, held⟩ := (noted.noted key batch).mp handed
    exact noted.requested waiting among key held

theorem failed_iff (run : Run step (new batchSize concurrency) past last)
    (found : last.loads[index]? = some load)
    (finished : load.phase = .returned ∨ load.phase = .failed) :
    load.phase = .failed ↔
      ∃ key batch, HandedTo past index key batch ∧ FetchFailed past last batch := by
  have noted := (allNoted_of_run run).each index load found
  constructor
  · intro failed
    obtain ⟨waiting, present, broken⟩ := (allCollected_of_run run index load found).failed failed
    obtain ⟨key, held⟩ := noted.filled waiting present
    exact ⟨key, waiting.result, (noted.noted key _).mpr ⟨waiting, present, rfl, held⟩,
      fetchFailed_of_broken run broken⟩
  · rintro ⟨key, batch, handed, failure⟩
    rcases finished with returned | failed
    · obtain ⟨values, there⟩ := fetched_of_returned run found returned handed
      rcases failure with nothing | ⟨_, unfinished⟩
      · rw [fetched_iff_content run] at nothing there
        rw [nothing] at there
        cases there
      · exact absurd there (unfinished _)
    · exact failed

theorem finishes_of_step {moved : Load Key Value} (found : loader.loads[index]? = some load)
    (taken : loader.step (.wait index) = some (loader.setLoad index moved))
    (finished : moved.phase = .returned ∨ moved.phase = .failed) :
    ∃ steps after final done,
      follow step past loader (List.replicate steps (.wait index)) = some (after, final) ∧
      final.loads[index]? = some done ∧ (done.phase = .returned ∨ done.phase = .failed) := by
  have within := (List.getElem?_eq_some_iff.mp found).1
  refine ⟨1, (loader, .wait index) :: past, loader.setLoad index moved, moved, ?_,
    List.getElem?_set_self within, finished⟩
  simp only [List.replicate, follow, taken]

/-- A call that waits and whose batches have all been woken finishes by steps of its own. -/
theorem finishes_of_woken (found : loader.loads[index]? = some load)
    (phase : load.phase = .awaiting)
    (woken : ∀ waiting ∈ load.waiters,
      ∃ cell, loader.results[waiting.result]? = some cell ∧ cell.cancelled = true) :
    ∃ steps after final done,
      follow step past loader (List.replicate steps (.wait index)) = some (after, final) ∧
      final.loads[index]? = some done ∧ (done.phase = .returned ∨ done.phase = .failed) := by
  have within := (List.getElem?_eq_some_iff.mp found).1
  induction remaining : load.waiters.length - load.waited generalizing loader load past with
  | zero =>
      have done : load.waiters[load.waited]? = none := List.getElem?_eq_none (by omega)
      have taken : loader.step (.wait index) =
          some (loader.setLoad index { load with phase := .returned }) := by
        simp only [step, proceed, found, phase, if_true, wait, done]
      exact finishes_of_step found taken (.inl rfl)
  | succ count ih =>
      have waits : load.waiters[load.waited]? = some load.waiters[load.waited] :=
        List.getElem?_eq_getElem (by omega)
      obtain ⟨⟨values, guarded, cancelled⟩, read, rfl⟩ :=
        woken load.waiters[load.waited] (List.getElem_mem _)
      have fails (nothing : ∀ found, values ≠ some (some found)) :
          loader.step (.wait index) =
            some (loader.setLoad index { load with phase := .failed }) := by
        simp only [step, proceed, found, phase, if_true, wait, waits, read]
      by_cases success : ∃ found, values = some (some found)
      · obtain ⟨values, rfl⟩ := success
        have taken : loader.step (.wait index) = some (loader.setLoad index
            { load with
              waited := load.waited + 1
              results := extend load.results load.waiters[load.waited].keys values }) := by
          simp only [step, proceed, found, phase, if_true, wait, waits, read]
        have place : (loader.setLoad index
            { load with
              waited := load.waited + 1
              results := extend load.results load.waiters[load.waited].keys values
              }).loads[index]? = some
            { load with
              waited := load.waited + 1
              results := extend load.results load.waiters[load.waited].keys values } :=
          List.getElem?_set_self within
        obtain ⟨steps, after, final, done, followed, finished⟩ :=
          @ih _ ((loader, .wait index) :: past) _ place phase woken
            (by rw [setLoad, List.length_set]; exact within) (by dsimp only; omega)
        refine ⟨steps + 1, after, final, done, ?_, finished⟩
        rw [List.replicate_succ, follow, taken]
        exact followed
      · have taken := fails fun found same => success ⟨found, same⟩
        exact finishes_of_step found taken (.inr rfl)

end Returned

/-- In every interleaving: a call that has returned had each of its batches fetched with
success, has values only for its own keys, and has for each of them what the last of its
batches to find the key gave; a finished call has failed if and only if the fetch of one of
its batches failed, and a waiting call finishes once its batches have been woken.  Every
batch has between one and `batchSize` keys, is fetched at most once and gives one result, no
more fetches run at a time than the concurrency allows, and no task finds its cell
filled. -/
theorem loader_returns [DecidableEq Key] (batchSize concurrency : Nat)
    {past : List (DataLoader Key Value × LoadAction Key Value)} {last : DataLoader Key Value}
    (run : Run step (new batchSize concurrency) past last) :
    (∀ (index : Nat) (load : Load Key Value), last.loads[index]? = some load →
      (load.phase = .returned →
        (∀ key, key ∈ load.items ↔ ∃ batch, HandedTo past index key batch) ∧
        (∀ key batch, HandedTo past index key batch → ∃ values, Fetched past batch (some values)) ∧
        (∀ key, load.results key ≠ none → key ∈ load.items) ∧
        (∀ key value, load.results key = some value ↔
          ∃ batch values, HandedTo past index key batch ∧ Fetched past batch (some values) ∧
            values key = some value ∧
            ∀ later others, batch < later → HandedTo past index key later →
              Fetched past later (some others) → others key = none) ∧
        ∀ key, load.results key = none ↔
          ∀ batch values, HandedTo past index key batch → Fetched past batch (some values) →
            values key = none) ∧
      (load.phase = .returned ∨ load.phase = .failed →
        (load.phase = .failed ↔
          ∃ key batch, HandedTo past index key batch ∧ FetchFailed past last batch)) ∧
      (load.phase = .awaiting →
        (∀ key batch, HandedTo past index key batch →
          ∃ cell, last.results[batch]? = some cell ∧ cell.cancelled = true) →
        ∃ steps after final done,
          follow step past last (List.replicate steps (.wait index)) = some (after, final) ∧
          final.loads[index]? = some done ∧ (done.phase = .returned ∨ done.phase = .failed))) ∧
    (∀ index key batch, HandedTo past index key batch →
      ∃ keys, last.queue.batches[batch]? = some keys ∧ key ∈ keys) ∧
    (∀ keys ∈ last.queue.batches, 1 ≤ keys.card ∧ keys.card ≤ max batchSize 1) ∧
    last.queue.executed.Perm
      ((last.queue.tasks.filter fun task => task.phase.hasRun).map Task.batch) ∧
    (∀ batch result other, Fetched past batch result → Fetched past batch other →
      result = other) ∧
    last.queue.tasks.countP (fun task => task.phase.isExecuting) ≤ max concurrency 1 ∧
    last.clashed = false := by
  have kept := stored_of_run run
  refine ⟨fun index load found => ⟨fun returned => ?_, failed_iff run found, ?_⟩,
    fun index key batch => mem_batch_of_handedTo run, kept.sized, kept.sound.executed, ?_,
    kept.sound.executing_le, kept.clashed⟩
  · have own := mem_items_iff_handedTo run found (by rw [returned]; rfl)
    have values := value_iff_lastFetch run found returned
    refine ⟨own, fun key batch => fetched_of_returned run found returned, fun key known => ?_,
      values, missing_iff run found returned⟩
    obtain ⟨value, known⟩ := Option.ne_none_iff_exists'.mp known
    obtain ⟨batch, _, handed, _⟩ := (values key value).mp known
    exact (own key).mpr ⟨batch, handed⟩
  · intro waiting woken
    have noted := (allNoted_of_run run).each index load found
    refine finishes_of_woken found waiting fun entry present => ?_
    obtain ⟨key, held⟩ := noted.filled entry present
    exact woken key _ ((noted.noted key _).mpr ⟨entry, present, rfl, held⟩)
  · intro batch result other first second
    rw [fetched_iff_content run] at first second
    rw [first] at second
    exact Option.some.inj second

/-- A call with a key in two batches, and one whose batch the timer takes and whose fetch
has no success. -/
def repeatedActions : List (LoadAction Nat Nat) :=
  [.loadMany [1, 2, 1, 3], .loadMany [5], .acquire 0, .push 0, .push 0, .push 0, .push 0,
    .unlock 0, .acquire 1, .push 1, .unlock 1, .move .flush, .poll 0, .poll 1, .poll 2,
    .move (.begin 1), .complete 1 (some fun key => if key = 1 then some 111 else none),
    .move (.release 1), .move (.begin 0), .complete 0 (some fun key => some (10 * key)),
    .move (.release 0), .wake 0, .move (.begin 2), .complete 2 none, .move (.release 2), .wake 2,
    .wait 0, .wait 1, .wake 1, .wait 0, .wait 0]

theorem repeatedActions_return :
    ∃ past last, follow step [] (new 2 1) repeatedActions = some (past, last) ∧
      (∃ load, last.loads[0]? = some load ∧ load.phase = .returned ∧
        ∃ batch values, HandedTo past 0 1 batch ∧ Fetched past batch (some values) ∧
          values 1 = some 111) ∧
      ∃ load, last.loads[1]? = some load ∧ load.phase = .failed ∧
        ∃ key batch, HandedTo past 1 key batch ∧ FetchFailed past last batch := by
  have followed : ∃ after, follow step [] (new 2 1) repeatedActions = some after ∧
      (∃ load, after.2.loads[0]? = some load ∧ load.phase = .returned ∧
        load.results 1 = some 111) ∧
      ∃ load, after.2.loads[1]? = some load ∧ load.phase = .failed := by
    decide +kernel
  obtain ⟨⟨past, last⟩, taken, ⟨load, found, returned, value⟩, other, there, failed⟩ := followed
  obtain ⟨calls, -⟩ := loader_returns 2 1 (Run.start.follow taken)
  refine ⟨past, last, taken, ⟨load, found, returned, ?_⟩, other, there, failed, ?_⟩
  · obtain ⟨-, -, -, values, -⟩ := (calls 0 load found).1 returned
    obtain ⟨batch, map, handed, fetched, gives, -⟩ := (values 1 111).mp value
    exact ⟨batch, map, handed, fetched, gives⟩
  · exact ((calls 1 other there).2.1 (.inr failed)).mp failed

end ScuffleVideo.Batching.DataLoader
