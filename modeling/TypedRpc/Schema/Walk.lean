import TypedRpc.Schema.Unvisited
import TypedRpc.Worklist

/-!
# Walks through the types of a schema

What the walks through a schema have in common.  A union leads to its members, and a struct to its
fields and to the resource that it is an instance of.  What a type leads to is weighed by the size
of the types inside it, three for each node.
-/

namespace TypedRpc

open Worklist (weights weights_cons)

variable {τ : Type} {weight : τ → Nat}

namespace TypeRef

theorem weights_members {task : String × TypeRef → τ}
    (light : ∀ member, weight (task member) ≤ 3 * member.2.size + 3)
    (members : List (String × TypeRef)) :
    weights weight (members.map task) ≤ 3 * sizeMembers members := by
  induction members with
  | nil => simp [sizeMembers]
  | cons member rest ih =>
    have first := light member
    simp only [List.map_cons, weights_cons, sizeMembers]
    omega

theorem weights_fields {task : FieldSpec → τ}
    (light : ∀ field, weight (task field) ≤ 3 * field.type.size + 3) (fields : List FieldSpec) :
    weights weight (fields.map task) ≤ 3 * sizeFields fields := by
  induction fields with
  | nil => simp [sizeFields]
  | cons field rest ih =>
    have first := light field
    simp only [List.map_cons, weights_cons, sizeFields]
    omega

end TypeRef

namespace Schema

/-- The task for the resource that a struct is an instance of, if there is such a resource. -/
def instanceTasks (schema : Schema) (task : String → τ) (instanceOf : Option String) : List τ :=
  match given? instanceOf with
  | some id => if (schema.resource? id).isSome then [task id] else []
  | none => []

theorem mem_instanceTasks {schema : Schema} {task : String → τ} {instanceOf : Option String}
    {listed : τ} :
    listed ∈ schema.instanceTasks task instanceOf ↔
      ∃ id, given? instanceOf = some id ∧ (schema.resource? id).isSome ∧ listed = task id := by
  unfold instanceTasks
  cases given? instanceOf with
  | none => simp
  | some id => by_cases known : (schema.resource? id).isSome <;> simp [known]

theorem weights_instanceTasks (schema : Schema) {task : String → τ} {bound : Nat}
    (light : ∀ id, weight (task id) ≤ bound) (instanceOf : Option String) :
    weights weight (schema.instanceTasks task instanceOf) ≤ bound := by
  unfold instanceTasks
  split
  · split <;> simp [light]
  · simp

end Schema
end TypedRpc
