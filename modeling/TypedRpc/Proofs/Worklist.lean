import Mathlib.Logic.Relation
import Mathlib.Order.WellFounded
import TypedRpc.Worklist

/-!
# The end of a walk

However a walk takes its tasks, it does not go on forever, and `Worklist.run` is where it ends.
What every step keeps holds at the end, and walks whose steps are alike end alike.
-/

namespace TypedRpc
namespace Worklist

variable {σ τ : Type}

/-- Carrying out the first of some tasks: what it leads to comes before the others. -/
def Next (step : σ → τ → σ × List τ) (after before : σ × List τ) : Prop :=
  ∃ task rest, before.2 = task :: rest ∧
    after = ((step before.1 task).1, (step before.1 task).2 ++ rest)

/-- **No walk goes on forever**, whatever is left to do. -/
theorem next_wellFounded (walk : Worklist σ τ) : WellFounded (Next walk.step) := by
  let measure : σ × List τ → Nat × Nat := fun left =>
    (walk.places left.1, weights walk.weight left.2)
  refine Subrelation.wf ?_ (InvImage.wf measure (Prod.lex Nat.lt_wfRel Nat.lt_wfRel).wf)
  rintro _ ⟨state, _⟩ ⟨task, rest, rfl, rfl⟩
  exact walk.lex_step state task rest

variable {walk : Worklist σ τ} {state : σ} {tasks : List τ}

/-- What holds at the start and is kept by every step holds at the end. -/
theorem run_induction {P : σ → List τ → Prop}
    (keeps : ∀ state task rest, P state (task :: rest) →
      P (walk.step state task).1 ((walk.step state task).2 ++ rest))
    (h : P state tasks) : P (walk.run state tasks) [] := by
  fun_induction run walk state tasks with
  | case1 state => exact h
  | case2 state task rest after ih => exact ih (keeps state task rest h)

/-- A whole walk carries out tasks until none is left. -/
theorem next_run (walk : Worklist σ τ) (state : σ) (tasks : List τ) :
    Relation.ReflTransGen (fun before after => Next walk.step after before) (state, tasks)
      (walk.run state tasks, []) :=
  run_induction
    (P := fun after left =>
      Relation.ReflTransGen (fun before after => Next walk.step after before) (state, tasks)
        (after, left))
    (fun _ task rest reached => reached.tail ⟨task, rest, rfl, rfl⟩) .refl

/-- Walks come to the same when they carry out alike what they begin with and what that leads
to. -/
theorem run_congr {other : Worklist σ τ} {Q : τ → Prop}
    (alike : ∀ state task, Q task → walk.step state task = other.step state task ∧
      ∀ next ∈ (walk.step state task).2, Q next)
    (begun : ∀ task ∈ tasks, Q task) : walk.run state tasks = other.run state tasks := by
  fun_induction run walk state tasks with
  | case1 state => rw [run]
  | case2 state task rest after ih =>
    obtain ⟨first, others⟩ := List.forall_mem_cons.mp begun
    obtain ⟨same, next⟩ := alike state task first
    rw [run, ← same]
    exact ih (List.forall_mem_append.mpr ⟨next, others⟩)

end Worklist
end TypedRpc
