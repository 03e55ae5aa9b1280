/-!
# Walks that carry out tasks

A walk has a state and a list of tasks.  It carries out the first task, which changes the state and
leads to tasks of its own, and those come before the others.  Every task leaves fewer places to
enter, or no more of them and tasks of less weight than its own, so a walk ends when nothing is left
to do.
-/

namespace TypedRpc

variable {σ τ : Type}

namespace Worklist

/-- The weight of several tasks. -/
def weights (weight : τ → Nat) : List τ → Nat
  | [] => 0
  | task :: rest => weight task + weights weight rest

@[simp] theorem weights_nil (weight : τ → Nat) : weights weight [] = 0 := rfl

@[simp] theorem weights_cons (weight : τ → Nat) (task : τ) (rest : List τ) :
    weights weight (task :: rest) = weight task + weights weight rest := rfl

@[simp] theorem weights_append (weight : τ → Nat) (tasks others : List τ) :
    weights weight (tasks ++ others) = weights weight tasks + weights weight others := by
  induction tasks with
  | nil => simp
  | cons task rest ih => simp [ih, Nat.add_assoc]

end Worklist

/-- How a walk carries out its tasks, and why it ends. -/
structure Worklist (σ τ : Type) where
  /-- What a task does to the state, and what it leads to. -/
  step : σ → τ → σ × List τ
  /-- How many places are left to enter. -/
  places : σ → Nat
  /-- An upper bound of the steps that a task takes without entering a place. -/
  weight : τ → Nat
  decreases : ∀ state task,
    places (step state task).1 < places state ∨
      places (step state task).1 ≤ places state ∧
        Worklist.weights weight (step state task).2 < weight task

namespace Worklist

/-- Every step brings the end nearer: places count first, and then the weight of what is left. -/
theorem lex_step (walk : Worklist σ τ) (state : σ) (task : τ) (rest : List τ) :
    Prod.Lex (· < ·) (· < ·)
      (walk.places (walk.step state task).1,
        weights walk.weight ((walk.step state task).2 ++ rest))
      (walk.places state, weights walk.weight (task :: rest)) := by
  rcases walk.decreases state task with fewer | ⟨noMore, lighter⟩
  · exact .left _ _ fewer
  · rcases Nat.lt_or_eq_of_le noMore with fewer | same
    · exact .left _ _ fewer
    · rw [same, weights_append, weights_cons]
      exact .right _ (Nat.add_lt_add_right lighter _)

/-- Carries out tasks until none is left. -/
def run (walk : Worklist σ τ) (state : σ) : List τ → σ
  | [] => state
  | task :: rest =>
    let after := walk.step state task
    run walk after.1 (after.2 ++ rest)
termination_by tasks => (walk.places state, weights walk.weight tasks)
decreasing_by exact walk.lex_step state task rest

end Worklist
end TypedRpc
