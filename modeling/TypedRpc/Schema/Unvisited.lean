import TypedRpc.Schema.Basic

/-!
# Resources that have not been visited

Whatever walks through a schema marks the resources it has been at and never goes back to them.  The
number of resources that are left is what makes such a walk end: marking an id never raises it, and
marking the id of a resource that has not been visited lowers it.
-/

namespace TypedRpc
namespace Schema

/-- The number of resources that have not been visited. -/
def unvisitedCount (schema : Schema) (visited : List String) : Nat :=
  (schema.resources.filter fun resource => !visited.contains resource.id).length

theorem filter_unvisited_append (schema : Schema) (visited : List String) (id : String) :
    (schema.resources.filter fun r => !(visited ++ [id]).contains r.id) =
      (schema.resources.filter fun r => !visited.contains r.id).filter fun r => r.id != id := by
  rw [List.filter_filter]
  apply List.filter_congr
  intro r _
  by_cases h : r.id = id <;> simp [h]

/-- Marking an id leaves no more resources to visit. -/
theorem unvisitedCount_append_le (schema : Schema) (visited : List String) (id : String) :
    schema.unvisitedCount (visited ++ [id]) ≤ schema.unvisitedCount visited := by
  unfold unvisitedCount
  rw [filter_unvisited_append]
  exact List.length_filter_le _ _

/-- Marking a resource for the first time leaves fewer resources to visit. -/
theorem unvisitedCount_append_lt {schema : Schema} {visited : List String} {id : String}
    {resource : Resource} (fresh : visited.contains id = false)
    (h : schema.resource? id = some resource) :
    schema.unvisitedCount (visited ++ [id]) < schema.unvisitedCount visited := by
  have same := id_of_resource? h
  have member := mem_of_resource? h
  unfold unvisitedCount
  rw [filter_unvisited_append]
  apply List.length_filter_lt_length_iff_exists.2
  refine ⟨resource, ?_, by simp [same]⟩
  rw [List.mem_filter]
  exact ⟨member, by simpa [same] using fresh⟩

end Schema
end TypedRpc
