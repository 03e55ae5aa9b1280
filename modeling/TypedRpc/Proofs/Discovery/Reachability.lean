import Mathlib
import TypedRpc.Proofs.Discovery.Graph
import TypedRpc.Proofs.Discovery.Reached
import TypedRpc.Proofs.Worklist

/-!
# A traversal visits what can be reached

`discover` visits the resources that can be reached in the graph of a schema, lists each of them
once, and lists those that it was given first.  Resources may lead back to themselves, so what holds
along a traversal is said about the resources that are marked and the tasks that are left together.

* `Next`: carrying out one task.
* `Tracked`: a resource that has been met is marked, or its traversal is left to do.
* `Exploring`: everything that holds along a traversal.
* `discover_visits_reachable`: the statement about whole traversals.

The empty id counts as none where a struct says what it is an instance of, also where a resource has
it; `empty_instance_not_followed` shows such a schema.
-/

namespace TypedRpc
namespace Discovery

/-! ## The end of a traversal -/

/-- Carrying out the first of some tasks: what it leads to comes before the others. -/
def Next (schema : Schema) (after before : Discovery × List Task) : Prop :=
  ∃ task rest, before.2 = task :: rest ∧
    after = ((step schema before.1 task).1, (step schema before.1 task).2 ++ rest)

/-! ## Marks and tasks -/

/-- Whether an id has been met and names a resource. -/
def Met (schema : Schema) (exposed : List String) (found : Discovery) (id : String) : Prop :=
  id ∈ metIds exposed found ∧ (schema.resource? id).isSome

/-- Whether the fields of a resource are left to be traversed. -/
def Pending (tasks : List Task) (id : String) : Prop :=
  ∃ path, .resource id path ∈ tasks

/-- **Marked or left to do.**  The resources that have been met are those that are marked and those
whose traversal is left to do. -/
def Tracked (schema : Schema) (exposed : List String) (found : Discovery) (tasks : List Task) :
    Prop :=
  ∀ id, Met schema exposed found id ↔ id ∈ found.visited ∨ Pending tasks id

@[simp] theorem pending_nil (id : String) : ¬ Pending [] id := by
  simp [Pending]

@[simp] theorem pending_value (type : TypeRef) (owner : String) (path : AccessPath)
    (rest : List Task) (id : String) :
    Pending (.value type owner path :: rest) id ↔ Pending rest id := by
  simp [Pending]

@[simp] theorem pending_reference (other : String) (path : AccessPath) (rest : List Task)
    (id : String) : Pending (.reference other path :: rest) id ↔ Pending rest id := by
  simp [Pending]

@[simp] theorem pending_resource (other : String) (path : AccessPath) (rest : List Task)
    (id : String) : Pending (.resource other path :: rest) id ↔ id = other ∨ Pending rest id := by
  simp [Pending, exists_or, and_comm, eq_comm]

/-- A resource that is not traversed, and exists, has been traversed before. -/
theorem visited_of_unvisited?_eq_none {schema : Schema} {visited : List String} {id : String}
    (h : unvisited? schema visited id = none) (existing : (schema.resource? id).isSome) :
    id ∈ visited := by
  unfold unvisited? at h
  split at h
  · next marked => simpa using marked
  · simp [h] at existing

theorem pending_append (tasks others : List Task) (id : String) :
    Pending (tasks ++ others) id ↔ Pending tasks id ∨ Pending others id := by
  simp [Pending, exists_or]

theorem not_pending_instanceTasks (schema : Schema) (path : AccessPath)
    (instanceOf : Option String) (id : String) :
    ¬ Pending (schema.instanceTasks (.reference · path) instanceOf) id := by
  rintro ⟨other, listed⟩
  obtain ⟨_, -, -, same⟩ := Schema.mem_instanceTasks.mp listed
  cases same

theorem not_pending_typeStep (schema : Schema) (found : Discovery) (owner : String)
    (path : AccessPath) (type : TypeRef) (id : String) :
    ¬ Pending (typeStep schema found owner path type).2 id := by
  cases type with
  | primitive | enum | unknown => simp [typeStep]
  | array | resource => simp [typeStep]
  | union members name => simp [typeStep, Pending, memberTasks]
  | struct container fields instanceOf renames =>
    simp only [typeStep, pending_append, not_pending_instanceTasks, false_or]
    simp [Pending, fieldTasks]

theorem not_pending_resourceTasks (schema : Schema) (resource : Resource) (path : AccessPath)
    (id : String) : ¬ Pending (resourceTasks schema resource path) id := by
  simp [Pending, resourceTasks]

theorem tracked_step {schema : Schema} {exposed : List String} {found : Discovery} {task : Task}
    {rest : List Task} (h : Tracked schema exposed found (task :: rest)) :
    Tracked schema exposed (step schema found task).1 ((step schema found task).2 ++ rest) := by
  intro id
  have before := h id
  cases task with
  | value type owner path =>
    rw [pending_value] at before
    simp only [step, pending_append, not_pending_typeStep, false_or, visited_typeStep, ← before]
    cases type <;> rfl
  | reference other path =>
    rw [pending_reference] at before
    simp only [step, pending_append, visited_referenceStep]
    rw [or_left_comm, ← before]
    simp only [Met, metIds_referenceStep, List.mem_append, List.mem_singleton]
    unfold referenceStep
    cases named : schema.resource? other with
    | none =>
      simp only [pending_nil, false_or]
      constructor
      · rintro ⟨listed | rfl, existing⟩
        · exact ⟨listed, existing⟩
        · simp [named] at existing
      · exact fun met => ⟨.inl met.1, met.2⟩
    | some resource =>
      simp only [pending_resource, pending_nil, or_false, Schema.id_of_resource? named]
      constructor
      · rintro ⟨listed | rfl, existing⟩
        · exact .inr ⟨listed, existing⟩
        · exact .inl rfl
      · rintro (rfl | ⟨listed, existing⟩)
        · exact ⟨.inr rfl, by simp [named]⟩
        · exact ⟨.inl listed, existing⟩
  | resource other path =>
    rw [pending_resource] at before
    simp only [step]
    cases fresh : unvisited? schema found.visited other with
    | none =>
      -- nothing is done: the resource is marked already, or there is none
      show Met schema exposed found id ↔ id ∈ found.visited ∨ Pending rest id
      rw [before]
      constructor
      · rintro (marked | rfl | left)
        · exact .inl marked
        · exact .inl (visited_of_unvisited?_eq_none fresh (before.mpr (.inr (.inl rfl))).2)
        · exact .inr left
      · exact fun h => h.elim .inl fun left => .inr (.inr left)
    | some resource =>
      show Met schema exposed found id ↔
        id ∈ found.visited ++ [other] ∨ Pending (resourceTasks schema resource path ++ rest) id
      rw [before, pending_append, List.mem_append, List.mem_singleton]
      simp only [not_pending_resourceTasks, false_or, or_assoc]

theorem tracked_start (schema : Schema) (exposed : List String) (roots : List TypeRoot) :
    Tracked schema exposed (start schema exposed) (startTasks schema exposed roots) := by
  intro id
  rw [visited_start, Met, metIds, references_start]
  simp only [List.map_nil, List.append_nil, List.not_mem_nil, false_or]
  constructor
  · rintro ⟨listed, existing⟩
    obtain ⟨resource, named⟩ := Option.isSome_iff_exists.mp existing
    refine ⟨[resource.shortName], ?_⟩
    rw [startTasks, List.mem_append, List.mem_map]
    exact .inl ⟨resource, List.mem_filterMap.mpr ⟨id, listed, named⟩,
      by rw [Schema.id_of_resource? named]⟩
  · rintro ⟨path, listed⟩
    rw [startTasks, List.mem_append, List.mem_map, List.mem_map] at listed
    rcases listed with ⟨resource, listed, same⟩ | ⟨root, -, same⟩
    · obtain ⟨other, listed, named⟩ := List.mem_filterMap.mp listed
      have id_eq : resource.id = id := by injection same
      rw [← id_eq, Schema.id_of_resource? named]
      exact ⟨listed, by simp [named]⟩
    · exact absurd same (by simp)

/-! ## Whole traversals -/

/-- What holds all along a traversal. -/
structure Exploring (schema : Schema) (exposed : List String) (roots : List TypeRoot)
    (found : Discovery) (tasks : List Task) : Prop where
  balanced : Balanced schema roots found tasks
  tracked : Tracked schema exposed found tasks
  listed : Listed schema exposed found
  distinct : found.visited.Nodup
  grounded : ∀ id ∈ found.visited, schema.Reaches NotEmpty exposed roots id

variable {schema : Schema} {exposed : List String} {roots : List TypeRoot}

/-- A resource leads to another exactly when it holds a reference to it. -/
theorem reference_mem_visitFindings {ids : List String} {id : String}
    (existing : (schema.resource? id).isSome) :
    .reference id ∈ visitFindings schema ids ↔ ∃ source ∈ ids, schema.Leads NotEmpty source id := by
  rw [mem_visitFindings]
  simp only [mem_resourceFindings_iff_refers existing, Schema.Leads, existing, and_true]

/-- Whatever has been met can be reached: it was given, or a root or a marked resource leads to
it. -/
theorem reaches_of_met {found : Discovery} {tasks : List Task}
    (h : Exploring schema exposed roots found tasks) {id : String}
    (met : Met schema exposed found id) : schema.Reaches NotEmpty exposed roots id := by
  obtain ⟨listed, existing⟩ := met
  rw [metIds, List.mem_append, ← reference_mem_findings] at listed
  rcases listed with given | noted
  · exact ⟨id, ⟨.inl given, existing⟩, .refl⟩
  · have held : Finding.reference id ∈
        (↑(rootFindings schema roots) + ↑(visitFindings schema found.visited) :
          Multiset Finding) := by
      rw [← h.balanced, Multiset.mem_add]
      exact .inl (Multiset.mem_coe.mpr noted)
    rw [Multiset.mem_add, Multiset.mem_coe, Multiset.mem_coe, reference_mem_rootFindings existing,
      reference_mem_visitFindings existing] at held
    rcases held with mentioned | ⟨source, marked, leads⟩
    · exact ⟨id, ⟨.inr mentioned, existing⟩, .refl⟩
    · obtain ⟨first, begun, path⟩ := h.grounded source marked
      exact ⟨first, begun, path.tail leads⟩

/-- A step marks nothing, or the resource that it begins to traverse. -/
theorem visited_step (schema : Schema) (found : Discovery) (task : Task) :
    (step schema found task).1.visited = found.visited ∨
      ∃ id path, task = .resource id path ∧ id ∉ found.visited ∧
        (step schema found task).1.visited = found.visited ++ [id] := by
  cases task with
  | value type owner path => exact .inl (visited_typeStep ..)
  | reference id path => exact .inl (visited_referenceStep ..)
  | resource id path =>
    simp only [step]
    cases fresh : unvisited? schema found.visited id with
    | none => exact .inl rfl
    | some resource =>
      have unmarked := (resource?_of_unvisited? fresh).1
      exact .inr ⟨id, path, rfl, by simpa using unmarked, rfl⟩

theorem exploring_step {found : Discovery} {task : Task} {rest : List Task}
    (h : Exploring schema exposed roots found (task :: rest)) :
    Exploring schema exposed roots (step schema found task).1
      ((step schema found task).2 ++ rest) where
  balanced := balanced_step h.balanced
  tracked := tracked_step h.tracked
  listed := listed_step h.listed
  distinct := by
    rcases visited_step schema found task with same | ⟨id, path, -, fresh, more⟩
    · rw [same]
      exact h.distinct
    · rw [more, ← List.concat_eq_append]
      exact List.Nodup.concat fresh h.distinct
  grounded := by
    rcases visited_step schema found task with same | ⟨id, path, rfl, -, more⟩
    · rw [same]
      exact h.grounded
    · intro other marked
      rw [more, List.mem_append, List.mem_singleton] at marked
      rcases marked with marked | rfl
      · exact h.grounded other marked
      · exact reaches_of_met h ((h.tracked other).mpr (.inr ⟨path, List.mem_cons_self ..⟩))

theorem exploring_start (schema : Schema) (exposed : List String) (roots : List TypeRoot) :
    Exploring schema exposed roots (start schema exposed) (startTasks schema exposed roots) := by
  refine ⟨balanced_start schema exposed roots, tracked_start schema exposed roots,
    listed_start schema exposed, ?_, ?_⟩
  · rw [visited_start]
    exact List.nodup_nil
  · rw [visited_start]
    exact fun _ h => absurd h (List.not_mem_nil)

theorem exploring_discover (schema : Schema) (exposed : List String) (roots : List TypeRoot) :
    Exploring schema exposed roots (discover schema exposed roots) [] :=
  Worklist.run_induction (fun _ _ _ => exploring_step) (exploring_start schema exposed roots)

/-- In the end a resource is marked exactly when it has been met. -/
theorem mem_visited_iff_met {id : String} :
    id ∈ (discover schema exposed roots).visited ↔
      Met schema exposed (discover schema exposed roots) id := by
  rw [(exploring_discover schema exposed roots).tracked id]
  simp

theorem mem_findings_discover {finding : Finding} :
    finding ∈ (discover schema exposed roots).findings ↔
      finding ∈ rootFindings schema roots ∨
        finding ∈ visitFindings schema (discover schema exposed roots).visited := by
  rw [(findings_discover schema exposed roots).mem_iff, List.mem_append]

/-- **The visited resources are those that can be reached.** -/
theorem mem_visited_iff_reaches {id : String} :
    id ∈ (discover schema exposed roots).visited ↔
      schema.Reaches NotEmpty exposed roots id := by
  refine ⟨(exploring_discover schema exposed roots).grounded id, ?_⟩
  rintro ⟨first, ⟨begun, existing⟩, path⟩
  -- along a path from a resource that is begun with, each next one is referred to from a marked one
  induction path with
  | refl =>
    rw [mem_visited_iff_met, Met, metIds, List.mem_append, ← reference_mem_findings,
      mem_findings_discover, reference_mem_rootFindings existing]
    exact ⟨begun.imp_right .inl, existing⟩
  | tail _ leads marked =>
    have named := leads.2
    rw [mem_visited_iff_met, Met, metIds, List.mem_append, ← reference_mem_findings,
      mem_findings_discover, reference_mem_visitFindings named]
    exact ⟨.inr (.inr ⟨_, marked, leads⟩), named⟩

theorem isSome_resource?_of_isOfKind {embedded : Bool} {id : String}
    (kind : isOfKind schema embedded id) : (schema.resource? id).isSome := by
  unfold isOfKind at kind
  cases named : schema.resource? id with
  | none => simp [named] at kind
  | some resource => rfl

/-- The list of reached resources of one kind holds the visited ones of that kind. -/
theorem mem_reached_discover {embedded : Bool} {id : String} :
    id ∈ (discover schema exposed roots).reached embedded ↔
      id ∈ (discover schema exposed roots).visited ∧ isOfKind schema embedded id := by
  rw [(exploring_discover schema exposed roots).listed, mem_firstOccurrences, List.mem_filter,
    mem_visited_iff_met, Met, and_assoc]
  refine and_congr_right fun _ => ⟨fun kind => ⟨isSome_resource?_of_isOfKind kind, kind⟩, And.right⟩

/-- No resource is reached as one kind and as the other. -/
theorem nodup_allResources : (discover schema exposed roots).allResources.Nodup := by
  have distinct (embedded : Bool) :
      ((discover schema exposed roots).reached embedded).Nodup := by
    rw [(exploring_discover schema exposed roots).listed]
    exact nodup_firstOccurrences _
  refine List.nodup_append.mpr ⟨distinct false, distinct true, fun id left other right same => ?_⟩
  subst same
  have plain : _ ∧ isOfKind schema false id := mem_reached_discover.mp left
  have inside : _ ∧ isOfKind schema true id := mem_reached_discover.mp right
  obtain ⟨resource, named⟩ := Option.isSome_iff_exists.mp (isSome_resource?_of_isOfKind plain.2)
  rw [isOfKind_of_named named, beq_iff_eq] at plain inside
  exact absurd (plain.2.symm.trans inside.2) (by decide)

/-- A resource is listed exactly when it is visited. -/
theorem mem_allResources_discover {id : String} :
    id ∈ (discover schema exposed roots).allResources ↔
      id ∈ (discover schema exposed roots).visited := by
  simp only [mem_allResources, mem_reached_discover]
  refine ⟨fun ⟨_, visited, _⟩ => visited, fun visited => ?_⟩
  obtain ⟨resource, named⟩ := Option.isSome_iff_exists.mp (mem_visited_iff_met.mp visited).2
  exact ⟨resource.embedded, visited, by simp [isOfKind_of_named named]⟩

/-- Each list begins with the given resources of its kind. -/
theorem exposed_prefix_reached (embedded : Bool) :
    firstOccurrences (exposed.filter (isOfKind schema embedded)) <+:
      (discover schema exposed roots).reached embedded := by
  rw [(exploring_discover schema exposed roots).listed, metIds, List.filter_append]
  exact firstOccurrences_prefix _ _

/-- **A traversal ends, and visits what can be reached.**  Whatever the schema, no order of carrying
out tasks goes on forever, and `discover` is where it ends.  The visited resources are those that
the graph of the schema leads to from the given resources that exist and from what the roots
mention.  The lists of resources hold each of them once, in the list of its kind, and begin with
those that were given. -/
theorem discover_visits_reachable (schema : Schema) (exposed : List String)
    (roots : List TypeRoot) :
    let found := discover schema exposed roots
    (WellFounded (Next schema) ∧
      Relation.ReflTransGen (fun before after => Next schema after before)
        (start schema exposed, startTasks schema exposed roots) (found, [])) ∧
    (∀ id, id ∈ found.visited ↔ schema.Reaches NotEmpty exposed roots id) ∧
    found.visited.Nodup ∧
    found.allResources.Nodup ∧
    (∀ id, id ∈ found.allResources ↔ id ∈ found.visited) ∧
    (∀ id ∈ found.resources, ∃ resource,
      schema.resource? id = some resource ∧ resource.embedded = false) ∧
    (∀ id ∈ found.embedded, ∃ resource,
      schema.resource? id = some resource ∧ resource.embedded = true) ∧
    firstOccurrences (exposed.filter (isOfKind schema false)) <+: found.resources ∧
    firstOccurrences (exposed.filter (isOfKind schema true)) <+: found.embedded := by
  have kinds (embedded : Bool) (id : String)
      (listed : id ∈ (discover schema exposed roots).reached embedded) :
      ∃ resource, schema.resource? id = some resource ∧ resource.embedded = embedded := by
    have kind := (mem_reached_discover.mp listed).2
    obtain ⟨resource, named⟩ := Option.isSome_iff_exists.mp (isSome_resource?_of_isOfKind kind)
    exact ⟨resource, named, by simpa [isOfKind_of_named named] using kind⟩
  refine ⟨⟨(walk schema).next_wellFounded, (walk schema).next_run ..⟩,
    fun id => mem_visited_iff_reaches,
    (exploring_discover schema exposed roots).distinct, nodup_allResources,
    fun id => mem_allResources_discover, ?_, ?_, ?_, ?_⟩
  · exact kinds false
  · exact kinds true
  · exact exposed_prefix_reached false
  · exact exposed_prefix_reached true

/-- A schema where a struct is an instance of the empty id, which a resource has. -/
def blankInstanceSchema : Schema where
  resources := [
    { id := "A", attributes := [{ name := "s", type := .struct .map [] (some "") [] }] },
    { id := "", typeName := some "Blank" }]

/-- The empty id is not followed where a struct says what it is an instance of. -/
theorem empty_instance_not_followed :
    ¬ ∀ (schema : Schema) (exposed : List String) (roots : List TypeRoot) (id : String),
      id ∈ (discover schema exposed roots).visited ↔
        schema.Reaches (fun _ => True) exposed roots id := by
  intro claimed
  have visited : (discover blankInstanceSchema ["A"] []).visited = ["A"] := by cbv
  have reached := claimed blankInstanceSchema ["A"] [] ""
  rw [visited] at reached
  refine absurd (reached.mpr ⟨"A", ⟨.inl (by simp), by decide⟩, .single ?_⟩) (by decide)
  refine ⟨⟨_, rfl, .byAttribute _ (List.mem_singleton.mpr rfl) ?_⟩, by decide⟩
  exact .instanceOf _ _ _ trivial

end Discovery
end TypedRpc
