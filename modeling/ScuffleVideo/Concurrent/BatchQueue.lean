import ScuffleVideo.Concurrent.Run

/-!
# Batches and the tasks that run them

What is handed in is collected in a current batch.  A batch that is full, or that a timer
takes, becomes a task of its own.  A task waits for one of a fixed number of permits, runs
its batch, and gives the permit back.  A task may be dropped: while it waits, and then its
batch is never run, or while it runs.

Batches keep their place: in the order in which they were begun, the tasks first and the
current batch behind them.
-/

namespace ScuffleVideo.Concurrent

/-- Where a task is.  In `releasing` its run is over and it still has its permit. -/
inductive TaskPhase where
  | spawned
  | executing
  | releasing
  | ended
  | dropped
  deriving DecidableEq, Repr

def TaskPhase.holdsPermit : TaskPhase → Bool
  | .executing => true
  | .releasing => true
  | _ => false

def TaskPhase.isExecuting : TaskPhase → Bool
  | .executing => true
  | _ => false

/-- The batch of the task has been run or is being run. -/
def TaskPhase.hasRun : TaskPhase → Bool
  | .spawned => false
  | .dropped => false
  | _ => true

/-- The run of the batch has come to its end. -/
def TaskPhase.isDone : TaskPhase → Bool
  | .releasing => true
  | .ended => true
  | _ => false

/-- The task is gone with all that it held. -/
def TaskPhase.isOver : TaskPhase → Bool
  | .ended => true
  | .dropped => true
  | _ => false

structure Task (β : Type) where
  batch : β
  phase : TaskPhase
  deriving DecidableEq, Repr

/-- The current batch, the tasks in the order in which they were spawned, the permits that
are free, and the batches that have been run, in the order of their runs. -/
structure BatchQueue (β : Type) where
  current : Option β
  tasks : List (Task β)
  permits : Nat
  executed : List β
  deriving DecidableEq, Repr

/-- The steps that do not hand anything in. -/
inductive QueueMove where
  | flush
  | begin (index : Nat)
  | complete (index : Nat)
  | release (index : Nat)
  | drop (index : Nat)
  deriving DecidableEq, Repr

namespace BatchQueue

variable {β : Type}

def new (permits : Nat) : BatchQueue β := ⟨none, [], permits, []⟩

/-- Leave a batch as the current one, or spawn a task for it. -/
def put (queue : BatchQueue β) (batch : β) (full : Bool) : BatchQueue β :=
  if full then { queue with current := none, tasks := queue.tasks ++ [⟨batch, .spawned⟩] }
  else { queue with current := some batch }

def step (queue : BatchQueue β) : QueueMove → Option (BatchQueue β)
  | .flush =>
      match queue.current with
      | some batch => some (queue.put batch true)
      | none => none
  | .begin index =>
      match queue.tasks[index]? with
      | some ⟨batch, .spawned⟩ =>
          if queue.permits = 0 then none
          else some { queue with
            tasks := queue.tasks.set index ⟨batch, .executing⟩
            permits := queue.permits - 1
            executed := queue.executed ++ [batch] }
      | _ => none
  | .complete index =>
      match queue.tasks[index]? with
      | some ⟨batch, .executing⟩ =>
          some { queue with tasks := queue.tasks.set index ⟨batch, .releasing⟩ }
      | _ => none
  | .release index =>
      match queue.tasks[index]? with
      | some ⟨batch, .releasing⟩ =>
          some { queue with
            tasks := queue.tasks.set index ⟨batch, .ended⟩, permits := queue.permits + 1 }
      | _ => none
  | .drop index =>
      match queue.tasks[index]? with
      | some ⟨batch, .spawned⟩ =>
          some { queue with tasks := queue.tasks.set index ⟨batch, .dropped⟩ }
      | some ⟨batch, .executing⟩ =>
          some { queue with tasks := queue.tasks.set index ⟨batch, .releasing⟩ }
      | _ => none

/-- All batches, the current one last. -/
def batches (queue : BatchQueue β) : List β := queue.tasks.map Task.batch ++ queue.current.toList

/-! ## What a step does -/

/-- The steps, one by one. -/
inductive Steps (queue : BatchQueue β) : QueueMove → BatchQueue β → Prop where
  | flush {batch : β} (found : queue.current = some batch) :
      Steps queue .flush (queue.put batch true)
  | begin {index : Nat} {batch : β} (found : queue.tasks[index]? = some ⟨batch, .spawned⟩)
      (free : queue.permits ≠ 0) :
      Steps queue (.begin index) { queue with
        tasks := queue.tasks.set index ⟨batch, .executing⟩
        permits := queue.permits - 1
        executed := queue.executed ++ [batch] }
  | complete {index : Nat} {batch : β} (found : queue.tasks[index]? = some ⟨batch, .executing⟩) :
      Steps queue (.complete index)
        { queue with tasks := queue.tasks.set index ⟨batch, .releasing⟩ }
  | release {index : Nat} {batch : β} (found : queue.tasks[index]? = some ⟨batch, .releasing⟩) :
      Steps queue (.release index) { queue with
        tasks := queue.tasks.set index ⟨batch, .ended⟩, permits := queue.permits + 1 }
  | dropWaiting {index : Nat} {batch : β}
      (found : queue.tasks[index]? = some ⟨batch, .spawned⟩) :
      Steps queue (.drop index) { queue with tasks := queue.tasks.set index ⟨batch, .dropped⟩ }
  | dropExecuting {index : Nat} {batch : β}
      (found : queue.tasks[index]? = some ⟨batch, .executing⟩) :
      Steps queue (.drop index) { queue with tasks := queue.tasks.set index ⟨batch, .releasing⟩ }

theorem steps_of_step {queue next : BatchQueue β} {move : QueueMove}
    (taken : queue.step move = some next) : Steps queue move next := by
  cases move with
  | flush =>
      simp only [step] at taken
      split at taken
      · rename_i batch found
        cases taken
        exact .flush found
      · cases taken
  | begin index =>
      simp only [step] at taken
      split at taken
      · rename_i batch found
        split at taken
        · cases taken
        · rename_i free
          cases taken
          exact .begin found free
      · cases taken
  | complete index =>
      simp only [step] at taken
      split at taken
      · rename_i batch found
        cases taken
        exact .complete found
      · cases taken
  | release index =>
      simp only [step] at taken
      split at taken
      · rename_i batch found
        cases taken
        exact .release found
      · cases taken
  | drop index =>
      simp only [step] at taken
      split at taken
      · rename_i batch found
        cases taken
        exact .dropWaiting found
      · rename_i batch found
        cases taken
        exact .dropExecuting found
      · cases taken

/-- A list around one of its places, and the same list with another entry there. -/
theorem split_at {α : Type} {tasks : List α} {index : Nat} {old : α}
    (found : tasks[index]? = some old) :
    ∃ before after, tasks = before ++ old :: after ∧
      ∀ new, tasks.set index new = before ++ new :: after := by
  obtain ⟨within, rfl⟩ := List.getElem?_eq_some_iff.mp found
  refine ⟨tasks.take index, tasks.drop (index + 1), ?_, fun new => ?_⟩
  · rw [List.getElem_cons_drop, List.take_append_drop]
  · rw [List.set_eq_take_append_cons_drop, if_pos within]

/-- What becomes of a task in one step: its batch stays, a run that is at its end stays so,
and a task that is over does not move. -/
theorem task_step {queue next : BatchQueue β} {move : QueueMove} {index : Nat} {task : Task β}
    (taken : queue.step move = some next) (found : queue.tasks[index]? = some task) :
    ∃ later, next.tasks[index]? = some later ∧ later.batch = task.batch ∧
      (task.phase.isDone = true → later.phase.isDone = true) ∧
      (task.phase.isOver = true → later = task) := by
  have replaced {place : Nat} {batch : β} {phase later : TaskPhase}
      (there : queue.tasks[place]? = some ⟨batch, phase⟩)
      (done : phase.isDone = true → later.isDone = true) (gone : phase.isOver = false) :
      ∃ moved, (queue.tasks.set place ⟨batch, later⟩)[index]? = some moved ∧
        moved.batch = task.batch ∧ (task.phase.isDone = true → moved.phase.isDone = true) ∧
        (task.phase.isOver = true → moved = task) := by
    by_cases same : place = index
    · subst same
      rw [found] at there
      cases there
      have within := (List.getElem?_eq_some_iff.mp found).1
      refine ⟨_, List.getElem?_set_self within, rfl, done, fun isOver => ?_⟩
      rw [gone] at isOver
      cases isOver
    · exact ⟨task, by rw [List.getElem?_set_ne same]; exact found, rfl, id, fun _ => rfl⟩
  cases steps_of_step taken with
  | flush known =>
      have within := (List.getElem?_eq_some_iff.mp found).1
      refine ⟨task, ?_, rfl, id, fun _ => rfl⟩
      simp only [put, if_true]
      rw [List.getElem?_append_left within]
      exact found
  | begin there free => exact replaced there nofun rfl
  | complete there => exact replaced there nofun rfl
  | release there => exact replaced there id rfl
  | dropWaiting there => exact replaced there nofun rfl
  | dropExecuting there => exact replaced there nofun rfl

/-! ## The batches -/

theorem batches_put (queue : BatchQueue β) (batch : β) (full : Bool) :
    (queue.put batch full).batches = queue.tasks.map Task.batch ++ [batch] := by
  cases full with
  | true => simp [put, batches]
  | false => simp [put, batches]

theorem map_batch_set {tasks : List (Task β)} {index : Nat} {batch : β} {phase : TaskPhase}
    (found : tasks[index]? = some ⟨batch, phase⟩) (later : TaskPhase) :
    (tasks.set index ⟨batch, later⟩).map Task.batch = tasks.map Task.batch := by
  obtain ⟨before, after, same, replaced⟩ := split_at found
  rw [replaced, same]
  simp

/-- The tasks and the timer leave all batches as they are. -/
theorem batches_step {queue next : BatchQueue β} {move : QueueMove}
    (taken : queue.step move = some next) : next.batches = queue.batches := by
  cases steps_of_step taken with
  | flush found => rw [batches_put, batches, found]; rfl
  | begin found free => rw [batches, batches, map_batch_set found]
  | complete found => rw [batches, batches, map_batch_set found]
  | release found => rw [batches, batches, map_batch_set found]
  | dropWaiting found => rw [batches, batches, map_batch_set found]
  | dropExecuting found => rw [batches, batches, map_batch_set found]

/-! ## Permits and runs -/

/-- The permits that are free and those that are held are all there are, and the batches
that have been run are those of the tasks that have run. -/
structure Sound (limit : Nat) (queue : BatchQueue β) : Prop where
  permits : queue.permits + queue.tasks.countP (fun task => task.phase.holdsPermit) = limit
  executed : queue.executed.Perm
    ((queue.tasks.filter fun task => task.phase.hasRun).map Task.batch)

theorem sound_new (limit : Nat) : Sound limit (new limit : BatchQueue β) where
  permits := rfl
  executed := .nil

theorem sound_put {limit : Nat} {queue : BatchQueue β} (sound : Sound limit queue) (batch : β)
    (full : Bool) : Sound limit (queue.put batch full) := by
  cases full with
  | false => exact ⟨sound.permits, sound.executed⟩
  | true =>
      constructor
      · simpa [put, TaskPhase.holdsPermit] using sound.permits
      · simpa [put, TaskPhase.hasRun] using sound.executed

/-- A task that moves, but does not start, with the permits that it takes or gives back. -/
theorem sound_set {limit permits : Nat} {queue : BatchQueue β} {index : Nat} {batch : β}
    {phase later : TaskPhase} (sound : Sound limit queue)
    (found : queue.tasks[index]? = some ⟨batch, phase⟩) (same : phase.hasRun = later.hasRun)
    (held : permits + later.holdsPermit.toNat = queue.permits + phase.holdsPermit.toNat) :
    Sound limit { queue with tasks := queue.tasks.set index ⟨batch, later⟩, permits := permits } := by
  obtain ⟨before, after, whole, replaced⟩ := split_at found
  have balance := sound.permits
  have earlier := sound.executed
  constructor
  · have change := @countP_set_of_getElem? _ queue.tasks index ⟨batch, later⟩ _
      (fun task => task.phase.holdsPermit) found
    dsimp only at change ⊢
    omega
  · rw [whole, List.filter_append, List.filter_cons] at earlier
    dsimp only at earlier ⊢
    rw [replaced, List.filter_append, List.filter_cons]
    dsimp only
    rw [← same]
    cases known : phase.hasRun with
    | true => simpa [known] using earlier
    | false => simpa [known] using earlier

theorem sound_begin {limit : Nat} {queue : BatchQueue β} {index : Nat} {batch : β}
    (sound : Sound limit queue) (found : queue.tasks[index]? = some ⟨batch, .spawned⟩)
    (free : queue.permits ≠ 0) :
    Sound limit { queue with
      tasks := queue.tasks.set index ⟨batch, .executing⟩
      permits := queue.permits - 1
      executed := queue.executed ++ [batch] } := by
  obtain ⟨before, after, whole, replaced⟩ := split_at found
  have balance := sound.permits
  have earlier := sound.executed
  constructor
  · have change := @countP_set_of_getElem? _ queue.tasks index ⟨batch, .executing⟩ _
      (fun task => task.phase.holdsPermit) found
    simp only [TaskPhase.holdsPermit, Bool.toNat_true, Bool.toNat_false] at change balance ⊢
    omega
  · dsimp only
    rw [replaced, List.filter_append, List.filter_cons_of_pos rfl, List.map_append, List.map_cons]
    rw [whole, List.filter_append, List.filter_cons_of_neg Bool.false_ne_true, List.map_append]
      at earlier
    exact (List.perm_append_singleton _ _).trans ((earlier.cons batch).trans List.perm_middle.symm)

theorem sound_step {limit : Nat} {queue next : BatchQueue β} {move : QueueMove}
    (taken : queue.step move = some next) (sound : Sound limit queue) : Sound limit next := by
  cases steps_of_step taken with
  | flush found => exact sound_put sound _ true
  | begin found free => exact sound_begin sound found free
  | complete found => exact sound_set sound found rfl rfl
  | release found => exact sound_set sound found rfl rfl
  | dropWaiting found => exact sound_set sound found rfl rfl
  | dropExecuting found => exact sound_set sound found rfl rfl

/-- At most as many batches are run at a time as there are permits. -/
theorem Sound.executing_le {limit : Nat} {queue : BatchQueue β} (sound : Sound limit queue) :
    queue.tasks.countP (fun task => task.phase.isExecuting) ≤ limit := by
  have balance := sound.permits
  have fewer : queue.tasks.countP (fun task => task.phase.isExecuting) ≤
      queue.tasks.countP fun task => task.phase.holdsPermit := by
    apply List.countP_mono_left
    intro task _ executing
    cases known : task.phase <;> rw [known] at executing <;> first | rfl | cases executing
  omega

/-- The batches that have been run are among all batches, each as often as it is there. -/
theorem Sound.executed_subperm {limit : Nat} {queue : BatchQueue β} (sound : Sound limit queue) :
    ∃ run, run.Sublist queue.batches ∧ queue.executed.Perm run := by
  refine ⟨_, ?_, sound.executed⟩
  exact ((List.filter_sublist).map Task.batch).trans (List.sublist_append_left _ _)

/-- Fewer batches hold fewer entries. -/
theorem flatten_sublist {α : Type} {part whole : List (List α)} (fewer : part.Sublist whole) :
    part.flatten.Sublist whole.flatten := by
  induction fewer with
  | slnil => exact .slnil
  | cons batch _ ih => exact ih.trans (List.sublist_append_right _ _)
  | cons_cons batch _ ih => exact (List.Sublist.refl batch).append ih

end BatchQueue

end ScuffleVideo.Concurrent
