import ScuffleVideo.Context.Tracker

/-!
# Shutting a handler down

A shutdown stops the handler and then waits until no context is left.  It is not
stranded: when the count is zero and no drop is under way, a shutdown that waits has been
notified.  It returns only after the count has been zero, provided that when it stops the
handler no drop from before is still on its way to a notification while there are
contexts again.
-/

namespace ScuffleVideo.Context.Handler

open Concurrent (Run visited getElem?_set_cases getElem?_append_cases)

variable {handler next : Handler} {action : Action}

/-! ## Drops under way -/

theorem settled_append (settled : handler.Settled) {phase : TrackerPhase}
    (idle : phase.isDropping = false) (count : Nat) :
    ({ handler with activeCount := count, trackers := handler.trackers ++ [phase] } : Handler).Settled := by
  intro found present
  rcases List.mem_append.mp present with old | new
  · exact settled found old
  · rw [List.mem_singleton.mp new]
    exact idle

theorem settled_setTracker (settled : handler.Settled) {phase : TrackerPhase}
    (idle : phase.isDropping = false) (place : Nat) : (handler.setTracker place phase).Settled := by
  intro found present
  rcases List.mem_or_eq_of_mem_set present with old | rfl
  · exact settled found old
  · exact idle

/-! ## Stranded calls -/

/-- Some drop is between its decrement and its notification. -/
def Dropping (handler : Handler) : Prop :=
  ∃ phase ∈ handler.trackers, phase.isDropping = true

theorem not_settled_iff : ¬handler.Settled ↔ handler.Dropping := by
  unfold Settled Dropping
  simp only [Classical.not_forall, Bool.not_eq_false, exists_prop]

/-- A stranded call of one of the kinds has contexts or a drop to wait for. -/
def Covered (kinds : CallKind → Prop) (handler : Handler) : Prop :=
  ∀ (index : Nat) (call : Call), handler.calls[index]? = some call → kinds call.kind →
    call.isStranded = true → handler.activeCount ≠ 0 ∨ handler.Dropping

/-- A drop that finds the handler running ends without a notification. -/
def EndsSilently (handler : Handler) (action : Action) : Prop :=
  ∃ index, action = .tracker index ∧ handler.trackers[index]? = some .checking ∧
    handler.stopped = false

/-- A drop stays under way when a tracker moves, unless it is its own and it ends. -/
theorem dropping_set {place : Nat} {old phase : TrackerPhase}
    (found : handler.trackers[place]? = some old)
    (same : old.isDropping = true → phase.isDropping = true) (dropping : handler.Dropping) :
    (handler.setTracker place phase).Dropping := by
  obtain ⟨current, present, busy⟩ := dropping
  obtain ⟨index, read⟩ := List.mem_iff_getElem?.mp present
  by_cases equal : index = place
  · subst equal
    rw [read] at found
    cases found
    have within := (List.getElem?_eq_some_iff.mp read).1
    exact ⟨phase, List.mem_of_getElem? (List.getElem?_set_self within), same busy⟩
  · refine ⟨current, List.mem_of_getElem? (?_ : _[index]? = _), busy⟩
    rw [← read]
    exact List.getElem?_set_ne fun other => equal other.symm

variable {kinds : CallKind → Prop}

theorem covered_setTracker {place : Nat} {old phase : TrackerPhase}
    (covered : Covered kinds handler) (found : handler.trackers[place]? = some old)
    (same : old.isDropping = true → phase.isDropping = true) :
    Covered kinds (handler.setTracker place phase) := by
  intro index call read kind stranded
  rcases covered index call read kind stranded with some | dropping
  · exact .inl some
  · exact .inr (dropping_set found same dropping)

theorem covered_setCall {place : Nat} {call : Call} (covered : Covered kinds handler)
    (awake : call.isStranded = true → handler.activeCount ≠ 0) :
    Covered kinds (handler.setCall place call) := by
  intro index found read kind stranded
  rcases getElem?_set_cases read with ⟨_, rfl⟩ | ⟨_, old⟩
  · exact .inl (awake stranded)
  · exact covered index found old kind stranded

/-- A step keeps the stranded calls covered unless it is a drop that ends silently. -/
theorem covered_step (taken : handler.step action = some next)
    (tallied : handler.activeCount = handler.trackers.countP counted)
    (covered : Covered kinds handler) (heard : ¬EndsSilently handler action) :
    Covered kinds next := by
  cases steps_of_step taken with
  | child => exact fun _ _ _ _ _ => .inl (Nat.succ_ne_zero _)
  | created found => exact covered_setTracker covered found fun busy => absurd busy Bool.false_ne_true
  | decremented found others =>
      have positive : 0 < handler.trackers.countP counted :=
        List.countP_pos_iff.mpr ⟨_, List.mem_of_getElem? found, rfl⟩
      intro _ _ _ _ _
      left
      simp only [setTracker]
      omega
  | @emptied index found last =>
      have within := (List.getElem?_eq_some_iff.mp found).1
      exact fun _ _ _ _ _ =>
        .inr ⟨.checking, List.mem_of_getElem? (List.getElem?_set_self within), rfl⟩
  | foundStopped found flag => exact covered_setTracker covered found fun _ => rfl
  | @foundRunning index found flag => exact absurd ⟨index, rfl, found, flag⟩ heard
  | notifies found =>
      intro index call read kind stranded
      obtain ⟨old, _, rfl⟩ := getElem?_map_notify read
      rw [Call.notify_not_stranded] at stranded
      cases stranded
  | call =>
      intro index call read kind stranded
      rcases getElem?_append_cases read with ⟨_, rfl⟩ | old
      · rw [Call.new_not_stranded] at stranded
        cases stranded
      · exact covered index call old kind stranded
  | stops found phase =>
      exact @covered_setCall { handler with stopped := true } _ _ _ covered fun stranded =>
        absurd stranded Bool.false_ne_true
  | @cancels index call found phase =>
      refine @covered_setCall { handler with tokenCancelled := true } _ _ _ covered ?_
      intro stranded
      unfold Call.isStranded at stranded
      cases known : call.kind <;> simp [known] at stranded
  | passesToken found phase cancelled =>
      exact covered_setCall covered fun stranded => absurd stranded Bool.false_ne_true
  | registers found phase =>
      exact covered_setCall covered fun stranded => absurd stranded Bool.false_ne_true
  | findsNone found phase none =>
      exact covered_setCall covered fun stranded => absurd stranded Bool.false_ne_true
  | suspends found phase some => exact covered_setCall covered fun _ => some
  | wakes found phase notified =>
      exact covered_setCall covered fun stranded => absurd stranded Bool.false_ne_true
  | cancelToken => exact covered

/-! ## Not stranded -/

/-- What holds of the shutdowns in every state. -/
structure Guarded (handler : Handler) : Prop where
  tallied : handler.activeCount = handler.trackers.countP counted
  passed : Passed .shutdown stopped handler
  covered : Covered (· = .shutdown) handler

theorem guarded_new : Guarded new where
  tallied := rfl
  passed := nofun
  covered := nofun

theorem guarded_step (taken : handler.step action = some next) (guarded : Guarded handler) :
    Guarded next where
  tallied := activeCount_step taken guarded.tallied
  passed := passed_stop_step taken guarded.passed
  covered := by
    by_cases silent : EndsSilently handler action
    · -- The handler is running, so no shutdown has come to its wait.
      obtain ⟨place, rfl, found, flag⟩ := silent
      cases steps_of_step taken with
      | created other => rw [found] at other; cases other
      | decremented other _ => rw [found] at other; cases other
      | emptied other _ => rw [found] at other; cases other
      | foundStopped other set => rw [flag] at set; cases set
      | notifies other => rw [found] at other; cases other
      | foundRunning _ _ =>
          intro index call read shutdown stranded
          have set := guarded.passed index call read shutdown
            (by rw [Call.phase_of_isStranded stranded]; nofun)
          rw [flag] at set
          cases set
    · exact covered_step taken guarded.tallied guarded.covered silent

/-- In every run, when the count is zero and no drop is under way, no shutdown waits
without having been notified. -/
theorem shutdown_not_stranded {past : List (Handler × Action)} {last : Handler}
    (run : Run step new past last) (none : last.activeCount = 0) (settled : last.Settled)
    {index : Nat} {call : Call} (found : last.calls[index]? = some call)
    (shutdown : call.kind = .shutdown) : call.isStranded = false := by
  have guarded := run.invariant Guarded guarded_new guarded_step
  cases stranded : call.isStranded with
  | false => rfl
  | true =>
      rcases guarded.covered index call found shutdown stranded with some | dropping
      · exact absurd none some
      · exact absurd settled (not_settled_iff.mpr dropping)

/-! ## Not early -/

/-- The count has been zero in a state of the run in which the call had stopped the
handler. -/
def SawZero (past : List (Handler × Action)) (last : Handler) (index : Nat) : Prop :=
  ∃ handler ∈ visited past last, ∃ call ∈ handler.calls[index]?,
    call.isBeforeStop = false ∧ handler.activeCount = 0

instance (past : List (Handler × Action)) (last : Handler) (index : Nat) :
    Decidable (SawZero past last index) :=
  inferInstanceAs (Decidable (∃ handler ∈ visited past last, ∃ call ∈ handler.calls[index]?,
    call.isBeforeStop = false ∧ handler.activeCount = 0))

/-- When a shutdown stops the handler, there are no contexts, or no drop from before is on
its way to a notification. -/
def StopsInOrder (handler : Handler) : Action → Prop
  | .proceed index => ∀ call ∈ handler.calls[index]?,
      call.kind = .shutdown ∧ call.phase = .stopping → handler.activeCount = 0 ∨ handler.Settled
  | _ => True

instance (handler : Handler) (action : Action) : Decidable (StopsInOrder handler action) := by
  unfold StopsInOrder
  cases action <;> infer_instance

/-- The call has not been woken. -/
def Unwoken (call : Call) : Prop :=
  call.phase ≠ .returned ∧
    (call.phase = .registered ∨ call.phase = .suspended → call.notified = false)

theorem SawZero.later {past : List (Handler × Action)} {index : Nat}
    (saw : SawZero past handler index) (action : Action) (next : Handler) :
    SawZero ((handler, action) :: past) next index := by
  obtain ⟨state, reached, shown⟩ := saw
  exact ⟨state, List.mem_cons_of_mem _ reached, shown⟩

theorem SawZero.now {past : List (Handler × Action)} {index : Nat} {call : Call}
    (found : handler.calls[index]? = some call) (started : call.isBeforeStop = false)
    (none : handler.activeCount = 0) : SawZero past handler index :=
  ⟨handler, List.mem_cons_self, call, found, started, none⟩

/-- A shutdown that is past its first step has seen the count at zero, or nothing that
could wake it is under way. -/
def Patient (past : List (Handler × Action)) (last : Handler) : Prop :=
  ∀ (index : Nat) (call : Call), last.calls[index]? = some call → call.kind = .shutdown →
    call.isBeforeStop = false → SawZero past last index ∨ (last.Settled ∧ Unwoken call)

theorem patient_step {past : List (Handler × Action)} (taken : handler.step action = some next)
    (patient : Patient past handler) (ordered : StopsInOrder handler action) :
    Patient ((handler, action) :: past) next := by
  intro index call read shutdown started
  by_cases none : next.activeCount = 0
  · exact .inl (.now read started none)
  have carried {old : Call} (older : handler.calls[index]? = some old) (kind : old.kind = .shutdown)
      (before : old.isBeforeStop = false)
      (kept : handler.Settled → Unwoken old → next.Settled ∧ Unwoken call) :
      SawZero ((handler, action) :: past) next index ∨ (next.Settled ∧ Unwoken call) := by
    rcases patient index old older kind before with saw | ⟨settled, unwoken⟩
    · exact .inl (saw.later action next)
    · exact .inr (kept settled unwoken)
  have moved {place : Nat} {old new : Call} (found : handler.calls[place]? = some old)
      (read : (handler.calls.set place new)[index]? = some call)
      (same : next.trackers = handler.trackers) (kind : new.kind = old.kind)
      (before : old.isBeforeStop = false)
      (unwoken : old.kind = .shutdown → Unwoken old → Unwoken new) :
      SawZero ((handler, action) :: past) next index ∨ (next.Settled ∧ Unwoken call) := by
    have settled : handler.Settled → next.Settled := by
      unfold Settled
      rw [same]
      exact id
    rcases getElem?_set_cases read with ⟨rfl, rfl⟩ | ⟨_, older⟩
    · exact carried found (kind ▸ shutdown) before fun quiet asleep => ⟨settled quiet, unwoken (kind ▸ shutdown) asleep⟩
    · exact carried older shutdown started fun quiet asleep => ⟨settled quiet, asleep⟩
  cases steps_of_step taken with
  | child =>
      exact carried read shutdown started fun quiet asleep => ⟨settled_append quiet rfl _, asleep⟩
  | created found =>
      exact carried read shutdown started fun quiet asleep =>
        ⟨settled_setTracker quiet rfl _, asleep⟩
  | decremented found others =>
      exact carried read shutdown started fun quiet asleep =>
        ⟨@settled_setTracker { handler with activeCount := handler.activeCount - 1 } quiet .gone rfl _,
          asleep⟩
  | emptied found last => exact absurd rfl none
  | foundStopped found flag =>
      exact carried read shutdown started fun quiet _ => nomatch quiet _ (List.mem_of_getElem? found)
  | foundRunning found flag =>
      exact carried read shutdown started fun quiet _ => nomatch quiet _ (List.mem_of_getElem? found)
  | notifies found =>
      obtain ⟨old, older, rfl⟩ := getElem?_map_notify read
      refine carried older (old.notify_kind ▸ shutdown) ?_ fun quiet _ => nomatch quiet _ (List.mem_of_getElem? found)
      unfold Call.isBeforeStop at started ⊢
      rwa [old.notify_phase] at started
  | @call kind =>
      rcases getElem?_append_cases read with ⟨_, rfl⟩ | older
      · cases kind with
        | shutdown => cases started
        | done => cases shutdown
        | wait => cases shutdown
        | cancel => cases shutdown
      · exact carried older shutdown started fun quiet asleep => ⟨quiet, asleep⟩
  | @stops place old found phase =>
      rcases getElem?_set_cases read with ⟨rfl, rfl⟩ | ⟨_, older⟩
      · rcases ordered old found ⟨shutdown, phase⟩ with zero | quiet
        · exact absurd zero none
        · exact .inr ⟨quiet, nofun, nofun⟩
      · exact carried older shutdown started fun quiet asleep => ⟨quiet, asleep⟩
  | @cancels place old found phase =>
      refine moved found read rfl rfl (Call.isBeforeStop_of_phase phase nofun) fun kind _ => ?_
      rw [kind, if_neg (show CallKind.shutdown ≠ .cancel from nofun)]
      exact ⟨nofun, nofun⟩
  | passesToken found phase cancelled =>
      exact moved found read rfl rfl (Call.isBeforeStop_of_phase phase nofun)
        fun _ _ => ⟨nofun, nofun⟩
  | registers found phase =>
      exact moved found read rfl rfl (Call.isBeforeStop_of_phase phase nofun)
        fun _ _ => ⟨nofun, fun _ => rfl⟩
  | findsNone found phase zero => exact absurd zero none
  | suspends found phase some =>
      exact moved found read rfl rfl (Call.isBeforeStop_of_phase phase nofun)
        fun _ asleep => ⟨nofun, fun _ => asleep.2 (.inl phase)⟩
  | wakes found phase notified =>
      refine moved found read rfl rfl (Call.isBeforeStop_of_phase phase nofun) fun _ asleep => ?_
      rw [asleep.2 (.inr phase)] at notified
      cases notified
  | cancelToken => exact carried read shutdown started fun quiet asleep => ⟨quiet, asleep⟩

theorem patient_of_run {past : List (Handler × Action)} {last : Handler}
    (run : Run step new past last) (ordered : ∀ taken ∈ past, StopsInOrder taken.1 taken.2) :
    Patient past last := by
  induction run with
  | start => exact nofun
  | next before taken ih =>
      rw [List.forall_mem_cons] at ordered
      exact patient_step taken (ih ordered.2) ordered.1

/-- In every run the count is that of the trackers, and no shutdown is stranded.  If no
drop from before a shutdown's stop is still on its way to a notification while there are
contexts, then a shutdown that has returned has seen the count at zero. -/
theorem shutdown_waits {past : List (Handler × Action)} {last : Handler}
    (run : Run step new past last) :
    last.activeCount + last.trackers.countP TrackerPhase.isDropping =
        last.trackers.countP TrackerPhase.isAlive + last.trackers.countP TrackerPhase.isCreating ∧
      (last.activeCount = 0 → last.Settled → ∀ (index : Nat) (call : Call),
        last.calls[index]? = some call → call.kind = .shutdown → call.isStranded = false) ∧
      ((∀ taken ∈ past, StopsInOrder taken.1 taken.2) → ∀ (index : Nat) (call : Call),
        last.calls[index]? = some call → call.kind = .shutdown → call.phase = .returned →
          SawZero past last index) := by
  refine ⟨activeCount_of_run run, ?_, ?_⟩
  · intro none settled index call found shutdown
    exact shutdown_not_stranded run none settled found shutdown
  · intro ordered index call found shutdown returned
    rcases patient_of_run run ordered index call found shutdown
      (Call.isBeforeStop_of_phase returned nofun) with saw | ⟨_, unwoken⟩
    · exact saw
    · exact absurd returned unwoken.1

/-- A context is dropped while a shutdown waits for it. -/
def orderlyActions : List Action :=
  [.child, .tracker 0, .call .shutdown, .proceed 0, .proceed 0, .proceed 0, .proceed 0, .proceed 0,
    .tracker 0, .tracker 0, .tracker 0, .proceed 0]

theorem orderlyActions_wait :
    ∃ past last, Run step new past last ∧ (∀ taken ∈ past, StopsInOrder taken.1 taken.2) ∧
      last.calls[0]? = some ⟨.shutdown, .returned, true⟩ ∧ SawZero past last 0 := by
  obtain ⟨⟨past, last⟩, followed⟩ :
      ∃ reached, Concurrent.follow step [] new orderlyActions = some reached := ⟨_, rfl⟩
  have run : Run step new past last := Run.start.follow followed
  have ordered : ∀ taken ∈ past, StopsInOrder taken.1 taken.2 := by
    cases followed
    decide
  have found : last.calls[0]? = some ⟨.shutdown, .returned, true⟩ := by
    cases followed
    rfl
  exact ⟨past, last, run, ordered, found, (shutdown_waits run).2.2 ordered 0 _ found rfl rfl⟩

/-- A drop has taken the count to zero, a new context is made, and a shutdown stops the
handler before the drop looks at the flag. -/
def hastyActions : List Action :=
  [.child, .tracker 0, .tracker 0, .child, .tracker 1, .call .shutdown, .proceed 0, .proceed 0,
    .proceed 0, .proceed 0, .proceed 0, .tracker 0, .tracker 0, .proceed 0]

/-- The shutdown returns although the new context has been there since before its stop. -/
theorem hastyActions_return_early :
    ∃ past last, Run step new past last ∧ last.calls[0]? = some ⟨.shutdown, .returned, true⟩ ∧
      last.activeCount = 1 ∧ ¬SawZero past last 0 := by
  obtain ⟨⟨past, last⟩, followed⟩ :
      ∃ reached, Concurrent.follow step [] new hastyActions = some reached := ⟨_, rfl⟩
  refine ⟨past, last, Run.start.follow followed, ?_⟩
  cases followed
  exact ⟨rfl, rfl, by decide⟩

end ScuffleVideo.Context.Handler
