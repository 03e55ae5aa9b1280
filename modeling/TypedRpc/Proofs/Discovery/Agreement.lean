import TypedRpc.Client.Plan
import TypedRpc.Proofs.Discovery.Reachability
import TypedRpc.Proofs.Schema.Agreement

/-!
# Traversals of schemas that agree

A traversal of two schemas that agree takes the same steps in both, as long as what it begins with
names ids on which they agree.  It never comes to another id, because a step from such ids leads to
such ids again.

* `step_agree`, `within_step`: one step.
* `discover_agree`, `Schema.discovery_agree`: whole traversals, and what they note.
-/

namespace TypedRpc
namespace Discovery

variable {known : String → Prop} {schema other : Schema} {found : Discovery}

/-- Whether a task comes to ids of some set only. -/
def Task.Within (known : String → Prop) : Task → Prop
  | .value type _ _ => type.Within known
  | .reference id _ | .resource id _ => known id

/-- Whether what has been noted names ids of some set only. -/
structure Inside (known : String → Prop) (found : Discovery) : Prop where
  members : ∀ union ∈ found.unionOccurrences, ∀ entry ∈ union.members, entry.2.Within known
  references : ∀ reference ∈ found.references, known reference.id

/-- Nothing has been noted at first. -/
theorem inside_start (known : String → Prop) (schema : Schema) (exposed : List String) :
    Inside known (start schema exposed) := by
  obtain ⟨-, unions, references⟩ := findings_eq_nil_iff.mp (findings_start schema exposed)
  refine ⟨?_, ?_⟩
  · rw [unions]
    exact List.forall_mem_nil _
  · rw [references]
    exact List.forall_mem_nil _

/-! ## One step -/

theorem typeStep_agree (agree : Schema.AgreeOn known schema other) {type : TypeRef}
    (within : type.Within known) (found : Discovery) (owner : String) (path : AccessPath) :
    typeStep schema found owner path type = typeStep other found owner path type ∧
      ∀ task ∈ (typeStep schema found owner path type).2, task.Within known := by
  cases type with
  | primitive | enum | unknown => exact ⟨rfl, fun _ listed => absurd listed List.not_mem_nil⟩
  | array item constraints =>
    refine ⟨rfl, fun task listed => ?_⟩
    rw [List.mem_singleton.mp listed]
    exact within.item
  | union members name =>
    refine ⟨rfl, fun task listed => ?_⟩
    obtain ⟨entry, member, rfl⟩ := List.mem_map.mp listed
    exact within.member member
  | struct container fields instanceOf renames =>
    have same := Schema.instanceTasks_agree agree (fun _ given => within.instanceOf given)
      (Task.reference · path)
    refine ⟨by rw [typeStep, typeStep, same], fun task listed => ?_⟩
    rcases List.mem_append.mp listed with listed | listed
    · obtain ⟨id, given, -, rfl⟩ := Schema.mem_instanceTasks.mp listed
      exact within.instanceOf given
    · obtain ⟨field, member, rfl⟩ := List.mem_map.mp listed
      exact within.field member
  | resource id =>
    refine ⟨rfl, fun task listed => ?_⟩
    rw [List.mem_singleton.mp listed]
    exact within.reference

theorem resourceTasks_agree (agree : Schema.AgreeOn known schema other) {resource : Resource}
    (within : resource.Within known) (path : AccessPath) :
    resourceTasks schema resource path = resourceTasks other resource path ∧
      ∀ task ∈ resourceTasks schema resource path, task.Within known := by
  have aggregates (aggregate : Aggregate) := Schema.aggregateType_agree agree within aggregate
  refine ⟨by simp only [resourceTasks, aggregates], fun task listed => ?_⟩
  simp only [resourceTasks, List.mem_append, List.mem_map] at listed
  rcases listed with ((⟨stored, shown, rfl⟩ | ⟨calculation, shown, rfl⟩) |
    ⟨aggregate, -, rfl⟩) | ⟨relationship, shown, rfl⟩
  · exact within.stored (List.mem_of_mem_filter shown)
  · exact within.calculation (List.mem_of_mem_filter shown)
  · exact (aggregates aggregate).2
  · exact within.destinations relationship (List.mem_of_mem_filter shown)

/-- **A step is the same in both schemas**, and leads to ids on which they agree. -/
theorem step_agree (agree : Schema.AgreeOn known schema other) {task : Task}
    (within : task.Within known) (found : Discovery) :
    step schema found task = step other found task ∧
      ∀ next ∈ (step schema found task).2, next.Within known := by
  cases task with
  | value type owner path => exact typeStep_agree agree within found owner path
  | reference id path =>
    have here : known id := within
    simp only [step, referenceStep, ← agree.lookup here, true_and]
    cases named : schema.resource? id with
    | none => simp
    | some resource =>
      intro next listed
      rw [List.mem_singleton.mp listed]
      show known resource.id
      rwa [Schema.id_of_resource? named]
  | resource id path =>
    have here : known id := within
    have same : unvisited? schema found.visited id = unvisited? other found.visited id := by
      rw [unvisited?, unvisited?, agree.lookup here]
    simp only [step, ← same]
    cases fresh : unvisited? schema found.visited id with
    | none => simp
    | some resource =>
      have closed := agree.closed here (resource?_of_unvisited? fresh).2
      obtain ⟨same, next⟩ := resourceTasks_agree agree closed path
      exact ⟨by simp only [same], next⟩

/-- What a step notes names ids of the set only. -/
theorem inside_step (inside : Inside known found) {task : Task} (within : task.Within known) :
    Inside known (step schema found task).1 := by
  cases task with
  | value type owner path =>
    cases type with
    | primitive | enum | unknown | array | struct | resource =>
      exact ⟨inside.members, inside.references⟩
    | union members name =>
      refine ⟨fun union listed => ?_, inside.references⟩
      rcases List.mem_append.mp listed with before | here
      · exact inside.members union before
      · rw [List.mem_singleton.mp here]
        exact fun entry listed => TypeRef.Within.member within listed
  | reference id path =>
    refine ⟨?_, ?_⟩
    · rw [step, unionOccurrences_referenceStep]
      exact inside.members
    · rw [step, references_referenceStep]
      exact List.forall_mem_append.mpr ⟨inside.references, List.forall_mem_singleton.mpr within⟩
  | resource id path =>
    simp only [step]
    cases unvisited? schema found.visited id <;> exact ⟨inside.members, inside.references⟩

/-! ## Whole traversals -/

/-- A traversal is the same in both schemas. -/
theorem run_agree (agree : Schema.AgreeOn known schema other) {tasks : List Task}
    (within : ∀ task ∈ tasks, task.Within known) :
    (walk schema).run found tasks = (walk other).run found tasks :=
  Worklist.run_congr (Q := Task.Within known)
    (fun found _ within => step_agree agree within found) within

theorem inside_run (agree : Schema.AgreeOn known schema other) (inside : Inside known found)
    {tasks : List Task} (within : ∀ task ∈ tasks, task.Within known) :
    Inside known ((walk schema).run found tasks) := by
  have along : Inside known ((walk schema).run found tasks) ∧ ∀ task ∈ ([] : List Task),
      task.Within known := by
    refine Worklist.run_induction (P := fun found tasks =>
      Inside known found ∧ ∀ task ∈ tasks, Task.Within known task)
      (fun found task rest ⟨inside, within⟩ => ?_) ⟨inside, within⟩
    obtain ⟨first, others⟩ := List.forall_mem_cons.mp within
    have next := (step_agree agree first found).2
    exact ⟨inside_step inside first, List.forall_mem_append.mpr ⟨next, others⟩⟩
  exact along.1

variable {exposed : List String} {roots : List TypeRoot}

/-- **A traversal from ids on which schemas agree finds the same in both**, and comes to such ids
only. -/
theorem discover_agree (agree : Schema.AgreeOn known schema other)
    (given : ∀ id ∈ exposed, known id) (within : ∀ root ∈ roots, root.type.Within known) :
    discover schema exposed roots = discover other exposed roots ∧
      Inside known (discover schema exposed roots) ∧
      ∀ id ∈ (discover schema exposed roots).allResources, known id := by
  have existing_agree : existing schema exposed = existing other exposed :=
    (Schema.filterMap_resource?_agree agree given).1
  have absent : (exposed.filter fun id => (schema.resource? id).isNone) =
      exposed.filter fun id => (other.resource? id).isNone :=
    List.filter_congr fun id listed => by rw [agree.lookup (given id listed)]
  have tasks : ∀ task ∈ startTasks schema exposed roots, task.Within known := by
    intro task listed
    rw [startTasks, List.mem_append, List.mem_map, List.mem_map] at listed
    rcases listed with ⟨resource, listed, rfl⟩ | ⟨root, listed, rfl⟩
    · obtain ⟨id, listed, named⟩ := List.mem_filterMap.mp listed
      show known resource.id
      rw [Schema.id_of_resource? named]
      exact given id listed
    · exact within root listed
  have inside : Inside known (discover schema exposed roots) :=
    inside_run agree (inside_start known schema exposed) tasks
  refine ⟨?_, inside, fun id listed => ?_⟩
  · rw [discover, discover, run_agree agree tasks, start, start, startTasks, startTasks,
      existing_agree, absent]
  · have met := (mem_visited_iff_met.mp (mem_allResources_discover.mp listed)).1
    rcases List.mem_append.mp met with here | noted
    · exact given id here
    · obtain ⟨reference, here, rfl⟩ := List.mem_map.mp noted
      exact inside.references reference here

end Discovery

variable {known : String → Prop} {schema other : Schema}

/-- What clients see of the metadata of an action is metadata of the action. -/
theorem mem_metadata_of_mem_exposedMetadata {action : Action} {rpcAction : RpcAction}
    {field : FieldSpec} (shown : field ∈ exposedMetadata action rpcAction) :
    field ∈ action.metadata := by
  unfold exposedMetadata at shown
  split at shown
  · exact shown
  · exact shown
  · exact absurd shown List.not_mem_nil
  · exact List.mem_of_mem_filter shown

/-- The types that an exposed action mentions. -/
theorem ExposedAction.Within.roots {exposed : ExposedAction} (within : exposed.Within known) :
    ∀ root ∈ exposed.roots, root.type.Within known := by
  intro root listed
  rw [ExposedAction.roots, List.mem_append, List.mem_append, List.mem_map, List.mem_map] at listed
  rcases listed with (⟨argument, shown, rfl⟩ | listed) | ⟨field, shown, rfl⟩
  · exact within.argument shown
  · unfold returnRoots at listed
    split at listed
    · next type generic returned =>
      rw [List.mem_singleton.mp listed]
      exact within.result returned
    · exact absurd listed List.not_mem_nil
  · exact within.metadata (mem_metadata_of_mem_exposedMetadata shown)

/-- Schemas that expose alike lead to the same discovery. -/
theorem Schema.discovery_agree (alike : ExposeAlike known schema other) :
    schema.discovery = other.discovery ∧ Discovery.Inside known schema.discovery ∧
      ∀ id ∈ schema.discovery.allResources, known id := by
  obtain ⟨same, within⟩ := exposedActions_agree alike
  rw [discovery, discovery, ← same, ← exposedResourceIds_agree alike]
  refine Discovery.discover_agree alike.toAgreeOn (fun id listed => ?_) fun root listed => ?_
  · obtain ⟨entry, here, rfl⟩ := List.mem_map.mp (mem_firstOccurrences.mp listed)
    exact alike.entries entry here
  · obtain ⟨exposed, listed, here⟩ := List.mem_flatMap.mp listed
    exact (within exposed listed).roots root here

end TypedRpc
