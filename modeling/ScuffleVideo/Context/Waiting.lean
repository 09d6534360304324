import ScuffleVideo.Context.Shutdown

/-!
# Waiting for the contexts of a handler

`wait` and `done` are to return when all contexts are gone, whoever has cancelled the
handler, and `wait` even if nobody has.  The drop of the last context notifies them only
if the handler itself has been stopped.  A run therefore leaves one of them stranded
exactly when a drop that has taken the count to zero finds the handler running, with
nobody left to notify the calls that wait.
-/

namespace ScuffleVideo.Context.Handler

open Concurrent (Run visited)

variable {handler next : Handler} {action : Action}

/-- When the count is zero and no drop is under way, neither a `wait` nor a `done` with a
cancelled token is suspended without having been notified. -/
def NoneStranded (handler : Handler) : Prop :=
  handler.activeCount = 0 → handler.Settled → ∀ call ∈ handler.calls,
    call.kind = .wait ∨ (call.kind = .done ∧ handler.tokenCancelled = true) →
      call.isStranded = false

/-- A drop that has taken the count to zero finds the handler stopped, or there is nothing
for it to do: there are contexts again, another drop is under way, or no `wait` and no
`done` is suspended without having been notified. -/
def FindsStopped (handler : Handler) : Action → Prop
  | .tracker index => handler.trackers[index]? = some .checking → handler.stopped = true ∨
      handler.activeCount ≠ 0 ∨ ¬(handler.setTracker index .gone).Settled ∨
      ∀ call ∈ handler.calls, call.kind = .wait ∨ call.kind = .done → call.isStranded = false
  | _ => True

instance (handler : Handler) : (action : Action) → Decidable (FindsStopped handler action)
  | .tracker index => inferInstanceAs (Decidable (handler.trackers[index]? = some .checking →
      handler.stopped = true ∨ handler.activeCount ≠ 0 ∨
      ¬(handler.setTracker index .gone).Settled ∨
      ∀ call ∈ handler.calls, call.kind = .wait ∨ call.kind = .done → call.isStranded = false))
  | .child | .call _ | .proceed _ | .cancelToken => .isTrue trivial

/-- What holds of the waiting calls in every state of a run in which the drops find the
handler stopped. -/
structure Attended (handler : Handler) : Prop where
  tallied : handler.activeCount = handler.trackers.countP counted
  covered : Covered (fun kind => kind = .wait ∨ kind = .done) handler

theorem attended_step (taken : handler.step action = some next)
    (found : FindsStopped handler action) (attended : Attended handler) : Attended next where
  tallied := activeCount_step taken attended.tallied
  covered := by
    by_cases silent : EndsSilently handler action
    · obtain ⟨place, rfl, checking, flag⟩ := silent
      obtain rfl : handler.setTracker place .gone = next := by
        simpa [step, moveTracker, checking, flag] using taken
      intro index call read kind stranded
      rcases found checking with stopped | some | busy | none
      · rw [flag] at stopped
        cases stopped
      · exact .inl some
      · exact .inr (not_settled_iff.mp busy)
      · rw [none call (List.mem_of_getElem? read) kind] at stranded
        cases stranded
    · exact covered_step taken attended.tallied attended.covered silent

theorem Attended.noneStranded (attended : Attended handler) : NoneStranded handler := by
  intro none settled call present kind
  obtain ⟨index, found⟩ := List.mem_iff_getElem?.mp present
  cases stranded : call.isStranded with
  | false => rfl
  | true =>
      rcases attended.covered index call found (kind.imp id And.left) stranded with some | dropping
      · exact absurd none some
      · exact absurd settled (not_settled_iff.mpr dropping)

/-- A step after which nobody is stranded has found the handler stopped. -/
theorem findsStopped_of_noneStranded (taken : handler.step action = some next)
    (passed : Passed .done tokenCancelled handler) (none : NoneStranded next) :
    FindsStopped handler action := by
  cases action with
  | tracker place =>
      intro checking
      cases flag : handler.stopped with
      | true => exact .inl rfl
      | false =>
          obtain rfl : handler.setTracker place .gone = next := by
            simpa [step, moveTracker, checking, flag] using taken
          by_cases zero : handler.activeCount = 0
          · by_cases settled : (handler.setTracker place .gone).Settled
            · refine .inr (.inr (.inr fun call present kind => ?_))
              cases stranded : call.isStranded with
              | false => rfl
              | true =>
                  rw [← stranded]
                  apply none zero settled call present
                  apply kind.imp id
                  intro done
                  obtain ⟨index, found⟩ := List.mem_iff_getElem?.mp present
                  exact ⟨done, passed index call found done
                    (by rw [Call.phase_of_isStranded stranded]; nofun)⟩
            · exact .inr (.inr (.inl settled))
          · exact .inr (.inl zero)
  | child => trivial
  | call kind => trivial
  | proceed index => trivial
  | cancelToken => trivial

/-- A run strands no `wait` and no `done` exactly when every drop that has taken the count
to zero finds the handler stopped or has nobody to notify. -/
theorem noneStranded_iff_findsStopped {past : List (Handler × Action)} {last : Handler}
    (run : Run step new past last) :
    (∀ state ∈ visited past last, NoneStranded state) ↔
      ∀ taken ∈ past, FindsStopped taken.1 taken.2 := by
  have passed {past : List (Handler × Action)} {last : Handler} (run : Run step new past last) :
      Passed .done tokenCancelled last :=
    run.invariant (Passed .done tokenCancelled) nofun passed_token_step
  constructor
  · intro woken
    induction run with
    | start => exact nofun
    | next before taken ih =>
        rw [List.forall_mem_cons]
        unfold visited at woken
        rw [List.forall_mem_cons] at woken
        exact ⟨findsStopped_of_noneStranded taken (passed before) woken.1, ih woken.2⟩
  · intro found
    have attended : Attended last ∧ ∀ state ∈ visited past last, NoneStranded state := by
      induction run with
      | start =>
          have first : Attended new := ⟨rfl, nofun⟩
          exact ⟨first, List.forall_mem_singleton.mpr first.noneStranded⟩
      | next before taken ih =>
          rw [List.forall_mem_cons] at found
          obtain ⟨earlier, woken⟩ := ih found.2
          have now := attended_step taken found.1 earlier
          exact ⟨now, List.forall_mem_cons.mpr ⟨now.noneStranded, woken⟩⟩
    exact attended.2

/-- A context is dropped while a `wait` waits for it and nobody has cancelled the handler. -/
def abandonedActions : List Action :=
  [.child, .tracker 0, .call .wait, .proceed 0, .proceed 0, .tracker 0, .tracker 0]

/-- The `wait` is stranded: the context is gone and nothing will notify it. -/
theorem abandonedActions_strand :
    ∃ past last, Run step new past last ∧ last.activeCount = 0 ∧ last.Settled ∧
      last.calls[0]? = some ⟨.wait, .suspended, false⟩ ∧ ¬NoneStranded last := by
  obtain ⟨⟨past, last⟩, followed⟩ :
      ∃ reached, Concurrent.follow step [] new abandonedActions = some reached := ⟨_, rfl⟩
  refine ⟨past, last, Run.start.follow followed, ?_⟩
  cases followed
  refine ⟨rfl, by decide, rfl, fun none => ?_⟩
  have heard := none rfl (by decide) ⟨.wait, .suspended, false⟩ (by decide) (.inl rfl)
  cases heard

/-- The handler is cancelled while its last context is still there. -/
def cancelledActions : List Action :=
  [.child, .tracker 0, .call .wait, .proceed 0, .proceed 0, .call .cancel, .proceed 1, .proceed 1,
    .tracker 0, .tracker 0, .tracker 0, .proceed 0]

theorem cancelledActions_noneStranded :
    ∃ past last, Run step new past last ∧ last.calls[0]? = some ⟨.wait, .returned, true⟩ ∧
      (∀ taken ∈ past, FindsStopped taken.1 taken.2) ∧
      ∀ state ∈ visited past last, NoneStranded state := by
  obtain ⟨⟨past, last⟩, followed⟩ :
      ∃ reached, Concurrent.follow step [] new cancelledActions = some reached := ⟨_, rfl⟩
  have run : Run step new past last := Run.start.follow followed
  have found : ∀ taken ∈ past, FindsStopped taken.1 taken.2 := by
    cases followed
    decide
  refine ⟨past, last, run, ?_, found, (noneStranded_iff_findsStopped run).mpr found⟩
  cases followed
  rfl

end ScuffleVideo.Context.Handler
