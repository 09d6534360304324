import Mathlib.Data.List.Basic

/-!
# Incremental machines

An incremental machine looks at the unread input and either waits, faults, or
moves past a positive number of symbols, with outputs in the last two cases.  Its one law of interest is stability:
input that arrives later does not change a decision already possible.  From it
follows that the way the input is cut into pieces is unobservable.
-/

namespace ScuffleVideo.Wire

/-- One attempt to make progress on the input at hand. -/
inductive Progress (σ ο ε : Type) where
  | starved
  | advance (next : σ) (count : Nat) (output : List ο)
  | fault (output : List ο) (error : ε)

structure Machine (σ β ο ε : Type) where
  step : σ → List β → Progress σ ο ε
  positive : ∀ {state buffer next count output},
    step state buffer = .advance next count output → 0 < count
  present : ∀ {state buffer next count output},
    step state buffer = .advance next count output → count ≤ buffer.length
  waits : ∀ state, step state [] = .starved
  stable : ∀ state buffer after,
    step state buffer = .starved ∨ step state (buffer ++ after) = step state buffer

/-- Where a machine stands when it cannot go on. -/
inductive Status (σ β ε : Type) where
  | waiting (state : σ) (unread : List β)
  | halted (error : ε)

namespace Machine

variable {σ β ο ε : Type} (machine : Machine σ β ο ε)

/-- Step until the machine waits or faults. -/
def drain (state : σ) (buffer : List β) : List ο × Status σ β ε :=
  match _step : machine.step state buffer with
  | .starved => ([], .waiting state buffer)
  | .fault output error => (output, .halted error)
  | .advance next count output =>
      let rest := drain next (buffer.drop count)
      (output ++ rest.1, rest.2)
termination_by buffer.length
decreasing_by
  have positive := machine.positive _step
  have present := machine.present _step
  rw [List.length_drop]
  omega

/-- Append the pieces one by one and drain the machine after each of them. -/
def feed (state : σ) (unread : List β) : List (List β) → List ο × Status σ β ε
  | [] => ([], .waiting state unread)
  | piece :: pieces =>
      match machine.drain state (unread ++ piece) with
      | (output, .halted error) => (output, .halted error)
      | (output, .waiting next left) =>
          let rest := feed next left pieces
          (output ++ rest.1, rest.2)

variable {machine}

theorem drain_starved {state : σ} {buffer : List β}
    (step : machine.step state buffer = .starved) :
    machine.drain state buffer = ([], .waiting state buffer) := by
  rw [drain]
  split
  · rfl
  · rename_i other; rw [step] at other; cases other
  · rename_i other; rw [step] at other; cases other

theorem drain_fault {state : σ} {buffer : List β} {output : List ο} {error : ε}
    (step : machine.step state buffer = .fault output error) :
    machine.drain state buffer = (output, .halted error) := by
  rw [drain]
  split
  · rename_i other; rw [step] at other; cases other
  · rename_i other; rw [step] at other; cases other; rfl
  · rename_i other; rw [step] at other; cases other

theorem drain_advance {state next : σ} {buffer : List β} {count : Nat} {output : List ο}
    (step : machine.step state buffer = .advance next count output) :
    machine.drain state buffer =
      (output ++ (machine.drain next (buffer.drop count)).1,
        (machine.drain next (buffer.drop count)).2) := by
  conv_lhs => rw [drain]
  split
  · rename_i other; rw [step] at other; cases other
  · rename_i other; rw [step] at other; cases other
  · rename_i other; rw [step] at other; cases other; rfl

/-- A machine that waits after draining is starved on what it left unread. -/
theorem step_of_drain_waiting {state next : σ} {buffer left : List β}
    (drained : (machine.drain state buffer).2 = .waiting next left) :
    machine.step next left = .starved := by
  induction size : buffer.length using Nat.strongRecOn generalizing state buffer with
  | ind length ih =>
      cases step : machine.step state buffer with
      | starved =>
          rw [drain_starved step] at drained
          cases drained
          exact step
      | fault output error =>
          rw [drain_fault step] at drained
          cases drained
      | advance after count emitted =>
          rw [drain_advance step] at drained
          have positive := machine.positive step
          have present := machine.present step
          refine ih _ ?_ drained rfl
          rw [List.length_drop]
          omega

/-- Draining a concatenation is draining its first part and, unless that
faults, draining the leftover followed by the second part. -/
theorem drain_append (state : σ) (buffer after : List β) :
    machine.drain state (buffer ++ after) =
      match machine.drain state buffer with
      | (output, .halted error) => (output, .halted error)
      | (output, .waiting next left) =>
          (output ++ (machine.drain next (left ++ after)).1,
            (machine.drain next (left ++ after)).2) := by
  induction size : buffer.length using Nat.strongRecOn generalizing state buffer with
  | ind length ih =>
      cases step : machine.step state buffer with
      | starved => simp only [drain_starved step, List.nil_append]
      | fault output error =>
          have same := (machine.stable state buffer after).resolve_left (by simp [step])
          rw [drain_fault step, drain_fault (same.trans step)]
      | advance next count output =>
          have same := (machine.stable state buffer after).resolve_left (by simp [step])
          have positive := machine.positive step
          have present := machine.present step
          have shorter : (buffer.drop count).length < length := by
            rw [List.length_drop]
            omega
          rw [drain_advance step, drain_advance (same.trans step),
            List.drop_append_of_le_length present, ih _ shorter next _ rfl]
          cases machine.drain next (buffer.drop count) with
          | mk emitted status =>
              cases status with
              | halted error => rfl
              | waiting last left => simp only [List.append_assoc]

/-- Feeding pieces to a machine that waits on `unread` is draining everything
at once. -/
theorem feed_eq_drain {state : σ} {unread : List β}
    (starved : machine.step state unread = .starved) (pieces : List (List β)) :
    machine.feed state unread pieces = machine.drain state (unread ++ pieces.flatten) := by
  induction pieces generalizing state unread with
  | nil => simp only [feed, List.flatten_nil, List.append_nil, drain_starved starved]
  | cons piece pieces ih =>
      rw [List.flatten_cons, ← List.append_assoc, drain_append, feed]
      cases drained : machine.drain state (unread ++ piece) with
      | mk output status =>
          cases status with
          | halted error => rfl
          | waiting next left => simp only [ih (step_of_drain_waiting (congrArg Prod.snd drained))]

/-- The cut into pieces is unobservable: a fresh machine fed piece by piece
emits the same outputs and ends in the same status as on the whole input. -/
theorem feed_nil_eq_drain (state : σ) (pieces : List (List β)) :
    machine.feed state [] pieces = machine.drain state pieces.flatten :=
  feed_eq_drain (machine.waits state) pieces

end Machine

end ScuffleVideo.Wire
