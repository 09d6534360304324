/-!
# Reactive machines

A reactive machine answers each call and moves on.  Two rules carry a property
of one call to every sequence of calls: an invariant between the state, what the
calls have put in and what the answers have handed out, and a relation between
two states under which the answers hand out the same.
-/

namespace ScuffleVideo.Wire.Reactive

variable {σ ι ο κ δ : Type} (step : σ → ι → ο × σ)

/-- The answers of a sequence of calls and the state they lead to. -/
def run (state : σ) : List ι → List ο × σ
  | [] => ([], state)
  | call :: calls =>
      let (answer, next) := step state call
      let (answers, last) := run next calls
      (answer :: answers, last)

theorem run_cons (state : σ) (call : ι) (calls : List ι) :
    run step state (call :: calls) =
      ((step state call).1 :: (run step (step state call).2 calls).1,
        (run step (step state call).2 calls).2) :=
  rfl

theorem filterMap_cons (given : ο → Option δ) (answer : ο) (answers : List ο) :
    (answer :: answers).filterMap given = (given answer).toList ++ answers.filterMap given := by
  cases shown : given answer with
  | none => rw [List.filterMap_cons_none shown]; rfl
  | some value => rw [List.filterMap_cons_some shown]; rfl

variable {step}

/-- What one call keeps between the state, everything put in and everything handed
out, every sequence of calls keeps. -/
theorem run_invariant (put : ι → List κ) (given : ο → Option δ)
    {invariant : σ → List κ → List δ → Prop}
    (kept : ∀ {state before after}, invariant state before after → ∀ call,
      invariant (step state call).2 (before ++ put call)
        (after ++ (given (step state call).1).toList))
    {state : σ} {before : List κ} {after : List δ} (holds : invariant state before after)
    (calls : List ι) :
    invariant (run step state calls).2 (before ++ calls.flatMap put)
      (after ++ (run step state calls).1.filterMap given) := by
  induction calls generalizing state before after with
  | nil =>
      change invariant state (before ++ []) (after ++ [])
      rw [List.append_nil, List.append_nil]
      exact holds
  | cons call calls ih =>
      have later := ih (kept holds call)
      rw [List.append_assoc, List.append_assoc] at later
      rw [run_cons, filterMap_cons, List.flatMap_cons]
      exact later

/-- States between which one call keeps a relation and hands out the same hand out
the same in every sequence of calls. -/
theorem run_related (given : ο → Option δ) {related : σ → σ → Prop}
    (kept : ∀ {first second}, related first second → ∀ call,
      given (step first call).1 = given (step second call).1 ∧
        related (step first call).2 (step second call).2)
    {first second : σ} (holds : related first second) (calls : List ι) :
    (run step first calls).1.filterMap given = (run step second calls).1.filterMap given := by
  induction calls generalizing first second with
  | nil => rfl
  | cons call calls ih =>
      obtain ⟨same, next⟩ := kept holds call
      rw [run_cons, run_cons, filterMap_cons, filterMap_cons, same, ih next]

end ScuffleVideo.Wire.Reactive
