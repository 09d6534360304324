import ScuffleVideo.Concurrent.Run

/-!
# Contexts and their handler

A handler counts the contexts that belong to it.  Each context owns a tracker: making
one adds to the count, and dropping it takes from the count and, if it was the last
and the handler has been stopped, notifies everyone who waits.  The calls on the handler
are tasks of their own, and every atomic operation, every notification and every wait is
a step, taken in any order with the others.

A `Notified` future gets every notification that is sent after it was made.  The token is
cancelled by the handler, by an ancestor, or by the guard that drops it.
-/

namespace ScuffleVideo.Context

/-- Where a tracker is.  In `checking` its drop has taken the count to zero and has not
looked at the flag; in `notifying` it has found the flag set. -/
inductive TrackerPhase where
  | creating
  | live
  | checking
  | notifying
  | gone
  deriving DecidableEq, Repr

inductive CallKind where
  | shutdown
  | done
  | wait
  | cancel
  deriving DecidableEq, Repr

/-- Where a call on the handler is.  From `registered` on it has its `Notified` future. -/
inductive CallPhase where
  | stopping
  | cancelling
  | awaitingToken
  | entering
  | registered
  | suspended
  | returned
  deriving DecidableEq, Repr

structure Call where
  kind : CallKind
  phase : CallPhase
  notified : Bool
  deriving DecidableEq, Repr

/-- A call at its first step.  Only `cancel` and `shutdown` stop the handler, and only
`wait` does not wait for the token. -/
def Call.new : CallKind → Call
  | .shutdown => ⟨.shutdown, .stopping, false⟩
  | .done => ⟨.done, .awaitingToken, false⟩
  | .wait => ⟨.wait, .entering, false⟩
  | .cancel => ⟨.cancel, .stopping, false⟩

/-- What `notify_waiters` does to a call. -/
def Call.notify (call : Call) : Call :=
  if call.phase = .registered ∨ call.phase = .suspended then { call with notified := true }
  else call

/-- A handler with its trackers and the calls on it. -/
structure Handler where
  stopped : Bool
  activeCount : Nat
  tokenCancelled : Bool
  trackers : List TrackerPhase
  calls : List Call
  deriving DecidableEq, Repr

inductive Action where
  | child
  | tracker (index : Nat)
  | call (kind : CallKind)
  | proceed (index : Nat)
  | cancelToken
  deriving DecidableEq, Repr

namespace Handler

def new : Handler := ⟨false, 0, false, [], []⟩

def setTracker (handler : Handler) (index : Nat) (phase : TrackerPhase) : Handler :=
  { handler with trackers := handler.trackers.set index phase }

def setCall (handler : Handler) (index : Nat) (call : Call) : Handler :=
  { handler with calls := handler.calls.set index call }

/-- The steps of making and dropping a tracker. -/
def moveTracker (handler : Handler) (index : Nat) : Option Handler :=
  match handler.trackers[index]? with
  | some .creating => some (handler.setTracker index .live)
  | some .live =>
      some ({ handler with activeCount := handler.activeCount - 1 }.setTracker index
        (if handler.activeCount = 1 then .checking else .gone))
  | some .checking => some (handler.setTracker index (if handler.stopped then .notifying else .gone))
  | some .notifying =>
      some ({ handler with calls := handler.calls.map Call.notify }.setTracker index .gone)
  | some .gone => none
  | none => none

/-- The steps of a call.  It is undefined where the call waits and when it has returned. -/
def proceed (handler : Handler) (index : Nat) : Option Handler :=
  match handler.calls[index]? with
  | none => none
  | some call =>
      match call.phase with
      | .stopping =>
          some ({ handler with stopped := true }.setCall index { call with phase := .cancelling })
      | .cancelling =>
          some ({ handler with tokenCancelled := true }.setCall index
            { call with
              phase := if call.kind = CallKind.cancel then .returned else .awaitingToken })
      | .awaitingToken =>
          if handler.tokenCancelled then some (handler.setCall index { call with phase := .entering })
          else none
      | .entering =>
          some (handler.setCall index { call with phase := .registered, notified := false })
      | .registered =>
          some (handler.setCall index
            { call with phase := if handler.activeCount = 0 then .returned else .suspended })
      | .suspended =>
          if call.notified then some (handler.setCall index { call with phase := .returned })
          else none
      | .returned => none

def step (handler : Handler) : Action → Option Handler
  | .child =>
      some { handler with
        activeCount := handler.activeCount + 1, trackers := handler.trackers ++ [.creating] }
  | .tracker index => handler.moveTracker index
  | .call kind => some { handler with calls := handler.calls ++ [Call.new kind] }
  | .proceed index => handler.proceed index
  | .cancelToken => some { handler with tokenCancelled := true }

end Handler

/-- The drop of a tracker is between its decrement and its end. -/
def TrackerPhase.isDropping : TrackerPhase → Bool
  | .checking => true
  | .notifying => true
  | _ => false

/-- The tracker exists: it has been made and its drop has not ended. -/
def TrackerPhase.isAlive : TrackerPhase → Bool
  | .live => true
  | .checking => true
  | .notifying => true
  | _ => false

def TrackerPhase.isCreating : TrackerPhase → Bool
  | .creating => true
  | _ => false

/-- The call waits for a notification and has got none. -/
def Call.isStranded (call : Call) : Bool := call.phase = .suspended && !call.notified

/-- The call has not yet stopped the handler. -/
def Call.isBeforeStop (call : Call) : Bool := call.phase = .stopping

theorem Call.notify_kind (call : Call) : call.notify.kind = call.kind := by
  unfold Call.notify
  split <;> rfl

theorem Call.notify_phase (call : Call) : call.notify.phase = call.phase := by
  unfold Call.notify
  split <;> rfl

theorem Call.notify_not_stranded (call : Call) : call.notify.isStranded = false := by
  unfold Call.notify Call.isStranded
  split
  · simp
  · rename_i elsewhere
    rw [not_or] at elsewhere
    simp [elsewhere.2]

theorem Call.phase_of_isStranded {call : Call} (stranded : call.isStranded = true) :
    call.phase = .suspended := by
  unfold Call.isStranded at stranded
  simp only [Bool.and_eq_true, decide_eq_true_eq] at stranded
  exact stranded.1

theorem Call.new_not_stranded (kind : CallKind) : (Call.new kind).isStranded = false := by
  cases kind <;> rfl

theorem Call.isBeforeStop_of_phase {call : Call} {phase : CallPhase} (known : call.phase = phase)
    (other : phase ≠ .stopping) : call.isBeforeStop = false := by
  unfold Call.isBeforeStop
  rw [known]
  exact decide_eq_false other

namespace Handler

/-- No drop is between its decrement and its notification. -/
def Settled (handler : Handler) : Prop := ∀ phase ∈ handler.trackers, phase.isDropping = false

instance (handler : Handler) : Decidable handler.Settled :=
  inferInstanceAs (Decidable (∀ phase ∈ handler.trackers, phase.isDropping = false))

/-! ## What a step does -/

/-- The steps, one by one. -/
inductive Steps (handler : Handler) : Action → Handler → Prop where
  | child : Steps handler .child { handler with
      activeCount := handler.activeCount + 1, trackers := handler.trackers ++ [.creating] }
  | created {index : Nat} (found : handler.trackers[index]? = some .creating) :
      Steps handler (.tracker index) (handler.setTracker index .live)
  | decremented {index : Nat} (found : handler.trackers[index]? = some .live)
      (others : handler.activeCount ≠ 1) :
      Steps handler (.tracker index)
        ({ handler with activeCount := handler.activeCount - 1 }.setTracker index .gone)
  | emptied {index : Nat} (found : handler.trackers[index]? = some .live)
      (last : handler.activeCount = 1) :
      Steps handler (.tracker index) ({ handler with activeCount := 0 }.setTracker index .checking)
  | foundStopped {index : Nat} (found : handler.trackers[index]? = some .checking)
      (flag : handler.stopped = true) :
      Steps handler (.tracker index) (handler.setTracker index .notifying)
  | foundRunning {index : Nat} (found : handler.trackers[index]? = some .checking)
      (flag : handler.stopped = false) :
      Steps handler (.tracker index) (handler.setTracker index .gone)
  | notifies {index : Nat} (found : handler.trackers[index]? = some .notifying) :
      Steps handler (.tracker index)
        ({ handler with calls := handler.calls.map Call.notify }.setTracker index .gone)
  | call {kind : CallKind} :
      Steps handler (.call kind) { handler with calls := handler.calls ++ [Call.new kind] }
  | stops {index : Nat} {call : Call} (found : handler.calls[index]? = some call)
      (phase : call.phase = .stopping) :
      Steps handler (.proceed index)
        ({ handler with stopped := true }.setCall index { call with phase := .cancelling })
  | cancels {index : Nat} {call : Call} (found : handler.calls[index]? = some call)
      (phase : call.phase = .cancelling) :
      Steps handler (.proceed index) ({ handler with tokenCancelled := true }.setCall index
        { call with phase := if call.kind = CallKind.cancel then .returned else .awaitingToken })
  | passesToken {index : Nat} {call : Call} (found : handler.calls[index]? = some call)
      (phase : call.phase = .awaitingToken) (cancelled : handler.tokenCancelled = true) :
      Steps handler (.proceed index) (handler.setCall index { call with phase := .entering })
  | registers {index : Nat} {call : Call} (found : handler.calls[index]? = some call)
      (phase : call.phase = .entering) :
      Steps handler (.proceed index)
        (handler.setCall index { call with phase := .registered, notified := false })
  | findsNone {index : Nat} {call : Call} (found : handler.calls[index]? = some call)
      (phase : call.phase = .registered) (none : handler.activeCount = 0) :
      Steps handler (.proceed index) (handler.setCall index { call with phase := .returned })
  | suspends {index : Nat} {call : Call} (found : handler.calls[index]? = some call)
      (phase : call.phase = .registered) (some : handler.activeCount ≠ 0) :
      Steps handler (.proceed index) (handler.setCall index { call with phase := .suspended })
  | wakes {index : Nat} {call : Call} (found : handler.calls[index]? = some call)
      (phase : call.phase = .suspended) (notified : call.notified = true) :
      Steps handler (.proceed index) (handler.setCall index { call with phase := .returned })
  | cancelToken : Steps handler .cancelToken { handler with tokenCancelled := true }

theorem steps_of_moveTracker {handler next : Handler} {index : Nat}
    (taken : handler.moveTracker index = some next) : Steps handler (.tracker index) next := by
  unfold moveTracker at taken
  split at taken
  · rename_i found
    cases taken
    exact .created found
  · rename_i found
    cases taken
    by_cases last : handler.activeCount = 1
    · rw [if_pos last, last]
      exact .emptied found last
    · rw [if_neg last]
      exact .decremented found last
  · rename_i found
    cases taken
    cases flag : handler.stopped with
    | true => exact .foundStopped found flag
    | false => exact .foundRunning found flag
  · rename_i found
    cases taken
    exact .notifies found
  · cases taken
  · cases taken

theorem steps_of_proceed {handler next : Handler} {index : Nat}
    (taken : handler.proceed index = some next) : Steps handler (.proceed index) next := by
  unfold proceed at taken
  split at taken
  · cases taken
  · rename_i call found
    split at taken
    · rename_i phase
      cases taken
      exact .stops found phase
    · rename_i phase
      cases taken
      exact .cancels found phase
    · rename_i phase
      split at taken
      · rename_i cancelled
        cases taken
        exact .passesToken found phase cancelled
      · cases taken
    · rename_i phase
      cases taken
      exact .registers found phase
    · rename_i phase
      cases taken
      by_cases none : handler.activeCount = 0
      · rw [if_pos none]
        exact .findsNone found phase none
      · rw [if_neg none]
        exact .suspends found phase none
    · rename_i phase
      split at taken
      · rename_i notified
        cases taken
        exact .wakes found phase notified
      · cases taken
    · cases taken

/-- Every step is one of them. -/
theorem steps_of_step {handler next : Handler} {action : Action}
    (taken : handler.step action = some next) : Steps handler action next := by
  cases action with
  | child =>
      cases taken
      exact .child
  | tracker index => exact steps_of_moveTracker taken
  | call kind =>
      cases taken
      exact .call
  | proceed index => exact steps_of_proceed taken
  | cancelToken =>
      cases taken
      exact .cancelToken

/-! ## The calls -/

open Concurrent (getElem?_set_cases getElem?_append_cases)

/-- A call of the handler after `notify_waiters` is an old one, notified. -/
theorem getElem?_map_notify {calls : List Call} {index : Nat} {call : Call}
    (read : (calls.map Call.notify)[index]? = some call) :
    ∃ old, calls[index]? = some old ∧ call = old.notify := by
  rw [List.getElem?_map, Option.map_eq_some_iff] at read
  obtain ⟨old, found, same⟩ := read
  exact ⟨old, found, same.symm⟩

/-- A call behind a step is new, or it was there before, in the same phase unless the step
was its own. -/
theorem call_of_step {handler next : Handler} {action : Action} {index : Nat} {call : Call}
    (taken : handler.step action = some next) (read : next.calls[index]? = some call) :
    (∃ kind, call = Call.new kind) ∨
      ∃ old, handler.calls[index]? = some old ∧ old.kind = call.kind ∧
        (old.phase = call.phase ∨ action = .proceed index) := by
  have moved {place : Nat} {old new : Call} (found : handler.calls[place]? = some old)
      (read : (handler.calls.set place new)[index]? = some call) (kind : old.kind = new.kind) :
      ∃ old, handler.calls[index]? = some old ∧ old.kind = call.kind ∧
        (old.phase = call.phase ∨ Action.proceed place = .proceed index) := by
    rcases getElem?_set_cases read with ⟨rfl, rfl⟩ | ⟨_, older⟩
    · exact ⟨old, found, kind, .inr rfl⟩
    · exact ⟨call, older, rfl, .inl rfl⟩
  cases steps_of_step taken with
  | child => exact .inr ⟨call, read, rfl, .inl rfl⟩
  | created found => exact .inr ⟨call, read, rfl, .inl rfl⟩
  | decremented found others => exact .inr ⟨call, read, rfl, .inl rfl⟩
  | emptied found last => exact .inr ⟨call, read, rfl, .inl rfl⟩
  | foundStopped found flag => exact .inr ⟨call, read, rfl, .inl rfl⟩
  | foundRunning found flag => exact .inr ⟨call, read, rfl, .inl rfl⟩
  | notifies found =>
      obtain ⟨old, older, rfl⟩ := getElem?_map_notify read
      exact .inr ⟨old, older, old.notify_kind.symm, .inl old.notify_phase.symm⟩
  | @call kind =>
      rcases getElem?_append_cases read with ⟨_, rfl⟩ | older
      · exact .inl ⟨kind, rfl⟩
      · exact .inr ⟨call, older, rfl, .inl rfl⟩
  | stops found phase => exact .inr (moved found read rfl)
  | cancels found phase => exact .inr (moved found read rfl)
  | passesToken found phase cancelled => exact .inr (moved found read rfl)
  | registers found phase => exact .inr (moved found read rfl)
  | findsNone found phase none => exact .inr (moved found read rfl)
  | suspends found phase some => exact .inr (moved found read rfl)
  | wakes found phase notified => exact .inr (moved found read rfl)
  | cancelToken => exact .inr ⟨call, read, rfl, .inl rfl⟩

/-- The calls of a kind that have left their first phase have seen a flag set. -/
def Passed (kind : CallKind) (flag : Handler → Bool) (handler : Handler) : Prop :=
  ∀ (index : Nat) (call : Call), handler.calls[index]? = some call → call.kind = kind →
    call.phase ≠ (Call.new kind).phase → flag handler = true

/-- A flag that stays set, and that is set when a call leaves its first phase. -/
theorem passed_step {kind : CallKind} {flag : Handler → Bool} {handler next : Handler}
    {action : Action} (taken : handler.step action = some next) (passed : Passed kind flag handler)
    (stays : flag handler = true → flag next = true)
    (leaves : ∀ {index call}, action = .proceed index → handler.calls[index]? = some call →
      call.kind = kind → call.phase = (Call.new kind).phase → flag next = true) :
    Passed kind flag next := by
  intro index call read known left
  rcases call_of_step taken read with ⟨fresh, rfl⟩ | ⟨old, older, same, how⟩
  · have isKind : fresh = kind := by
      cases fresh <;> exact known
    exact absurd (by rw [isKind]) left
  · by_cases first : old.phase = (Call.new kind).phase
    · rcases how with still | own
      · exact absurd (still ▸ first) left
      · exact leaves own older (same.trans known) first
    · exact stays (passed index old older (same.trans known) first)

/-- Nothing takes back the stop, and a shutdown starts with it. -/
theorem passed_stop_step {handler next : Handler} {action : Action}
    (taken : handler.step action = some next) (passed : Passed .shutdown stopped handler) :
    Passed .shutdown stopped next := by
  apply passed_step taken passed
  · intro set
    cases steps_of_step taken with
    | stops found phase => rfl
    | _ => exact set
  · rintro index call rfl found known first
    cases steps_of_step taken with
    | stops other phase => rfl
    | cancels other phase | passesToken other phase | registers other phase
    | findsNone other phase | suspends other phase | wakes other phase =>
        rw [found] at other
        cases other
        rw [first] at phase
        cases phase

/-- Nothing takes back the cancellation of the token, and `done` starts by waiting for
it. -/
theorem passed_token_step {handler next : Handler} {action : Action}
    (taken : handler.step action = some next) (passed : Passed .done tokenCancelled handler) :
    Passed .done tokenCancelled next := by
  apply passed_step taken passed
  · intro set
    cases steps_of_step taken with
    | cancels found phase => rfl
    | cancelToken => rfl
    | _ => exact set
  · rintro index call rfl found known first
    cases steps_of_step taken with
    | passesToken other phase cancelled => exact cancelled
    | stops other phase | cancels other phase | registers other phase
    | findsNone other phase | suspends other phase | wakes other phase =>
        rw [found] at other
        cases other
        rw [first] at phase
        cases phase

/-! ## The count -/

/-- The trackers that are counted. -/
def counted : TrackerPhase → Bool
  | .creating => true
  | .live => true
  | _ => false

theorem activeCount_step {handler next : Handler} {action : Action}
    (taken : handler.step action = some next)
    (tallied : handler.activeCount = handler.trackers.countP counted) :
    next.activeCount = next.trackers.countP counted := by
  have replaced {index : Nat} {old new : TrackerPhase}
      (found : handler.trackers[index]? = some old) :=
    @Concurrent.countP_set_of_getElem? _ handler.trackers index new old counted found
  have kept {index : Nat} {old new : TrackerPhase} (found : handler.trackers[index]? = some old)
      (same : counted old = counted new) :
      handler.activeCount = (handler.trackers.set index new).countP counted := by
    have moved := @replaced _ _ new found
    rw [same] at moved
    omega
  cases steps_of_step taken with
  | child =>
      rw [List.countP_append, ← tallied]
      rfl
  | created found => exact kept found rfl
  | decremented found others =>
      have moved := @replaced _ _ .gone found
      simp only [counted, Bool.toNat_true, Bool.toNat_false] at moved
      simp only [setTracker]
      omega
  | emptied found last =>
      have moved := @replaced _ _ .checking found
      simp only [counted, Bool.toNat_true, Bool.toNat_false] at moved
      simp only [setTracker]
      omega
  | foundStopped found flag => exact kept found rfl
  | foundRunning found flag => exact kept found rfl
  | notifies found => exact kept found rfl
  | call => exact tallied
  | stops found phase => exact tallied
  | cancels found phase => exact tallied
  | passesToken found phase cancelled => exact tallied
  | registers found phase => exact tallied
  | findsNone found phase none => exact tallied
  | suspends found phase some => exact tallied
  | wakes found phase notified => exact tallied
  | cancelToken => exact tallied

/-- A tracker that exists is counted until its drop begins. -/
theorem counted_balance (trackers : List TrackerPhase) :
    trackers.countP counted + trackers.countP TrackerPhase.isDropping =
      trackers.countP TrackerPhase.isAlive + trackers.countP TrackerPhase.isCreating := by
  induction trackers with
  | nil => rfl
  | cons phase trackers ih =>
      simp only [List.countP_cons]
      cases phase <;>
        simp only [counted, TrackerPhase.isDropping, TrackerPhase.isAlive, TrackerPhase.isCreating,
          if_true, Bool.false_eq_true, if_false] <;> omega

/-- In every run the count is the number of the trackers that exist and of those that are
being made, less those that are being dropped. -/
theorem activeCount_of_run {past : List (Handler × Action)} {last : Handler}
    (run : Concurrent.Run step new past last) :
    last.activeCount + last.trackers.countP TrackerPhase.isDropping =
      last.trackers.countP TrackerPhase.isAlive + last.trackers.countP TrackerPhase.isCreating := by
  have tallied : last.activeCount = last.trackers.countP counted :=
    run.invariant (fun handler => handler.activeCount = handler.trackers.countP counted) rfl
      activeCount_step
  rw [tallied, counted_balance]

end Handler

end ScuffleVideo.Context
