/-!
# Interleaved steps

Tasks that share a state move it by single steps, in any order.  An action names the
task that moves, and a step is undefined where the task has to wait.  A run keeps its
past, the newest step first: each state it has been in with the action taken there.
-/

namespace ScuffleVideo.Concurrent

variable {State Action : Type} {step : State → Action → Option State} {start : State}

inductive Run (step : State → Action → Option State) (start : State) :
    List (State × Action) → State → Prop where
  | start : Run step start [] start
  | next {past : List (State × Action)} {state last : State} {action : Action}
      (before : Run step start past state) (taken : step state action = some last) :
      Run step start ((state, action) :: past) last

/-- The states of a run. -/
def visited (past : List (State × Action)) (last : State) : List State :=
  last :: past.map Prod.fst

/-- What the start has and every step keeps holds at the end of every run. -/
theorem Run.invariant {past : List (State × Action)} {last : State}
    (run : Run step start past last) (holds : State → Prop) (first : holds start)
    (kept : ∀ {state action next}, step state action = some next → holds state → holds next) :
    holds last := by
  induction run with
  | start => exact first
  | next before taken ih => exact kept taken ih

/-- Take actions one after the other, and keep the past. -/
def follow (step : State → Action → Option State) :
    List (State × Action) → State → List Action → Option (List (State × Action) × State)
  | past, state, [] => some (past, state)
  | past, state, action :: actions =>
      match step state action with
      | none => none
      | some next => follow step ((state, action) :: past) next actions

theorem Run.follow {past after : List (State × Action)} {state last : State}
    {actions : List Action} (run : Run step start past state)
    (followed : follow step past state actions = some (after, last)) :
    Run step start after last := by
  induction actions generalizing past state with
  | nil =>
      cases followed
      exact run
  | cons action actions ih =>
      unfold Concurrent.follow at followed
      split at followed
      · cases followed
      · rename_i next taken
        exact ih (.next run taken) followed

/-! ## Tasks in a list -/

variable {α : Type} {tasks : List α} {place index : Nat} {task found : α}

/-- A task of a list in which one has been replaced is the new one or an old one. -/
theorem getElem?_set_cases (read : (tasks.set place task)[index]? = some found) :
    (index = place ∧ found = task) ∨ (index ≠ place ∧ tasks[index]? = some found) := by
  by_cases same : index = place
  · subst same
    rw [List.getElem?_set] at read
    simp only [if_true] at read
    split at read
    · cases read
      exact .inl ⟨rfl, rfl⟩
    · cases read
  · rw [List.getElem?_set_ne fun equal => same equal.symm] at read
    exact .inr ⟨same, read⟩

theorem getElem?_append_cases (read : (tasks ++ [task])[index]? = some found) :
    (index = tasks.length ∧ found = task) ∨ tasks[index]? = some found := by
  rw [List.getElem?_append] at read
  split at read
  · exact .inr read
  · rename_i beyond
    obtain ⟨within, same⟩ := List.getElem?_eq_some_iff.mp read
    rw [List.length_singleton] at within
    have place : index - tasks.length = 0 := by omega
    simp only [place, List.getElem_cons_zero] at same
    exact .inl ⟨by omega, same.symm⟩

/-- Replacing a task moves the number of the tasks of a kind by what the two are. -/
theorem countP_set_of_getElem? {kind : α → Bool} (read : tasks[place]? = some found) :
    (tasks.set place task).countP kind + (kind found).toNat =
      tasks.countP kind + (kind task).toNat := by
  obtain ⟨within, rfl⟩ := List.getElem?_eq_some_iff.mp read
  have positive : (kind tasks[place]).toNat ≤ tasks.countP kind := by
    cases known : kind tasks[place] with
    | false => exact Nat.zero_le _
    | true => exact List.countP_pos_iff.mpr ⟨_, List.getElem_mem within, known⟩
  rw [List.countP_set within]
  cases known : kind tasks[place] <;> cases kind task <;>
    simp only [known, Bool.toNat_true, Bool.toNat_false, Bool.false_eq_true, if_true, if_false]
      at positive ⊢ <;> omega

end ScuffleVideo.Concurrent
