import Mathlib.Algebra.Order.Group.Multiset
import TypedRpc.Discovery.Traversal
import TypedRpc.Proofs.Worklist

/-!
# The ledger of a traversal

A traversal marks a resource before it looks at the fields, so while it goes on there are resources
that are marked and only partly traversed.  What it has noted so far says nothing about those.  The
invariant that carries every statement about whole traversals is therefore a balance: what has been
noted, together with what the tasks that are left will note, is what the roots hold together with
what the marked resources hold.

* `Finding`: what a traversal notes, without the path on which it is found.
* `typeFindings`, `resourceFindings`: what a type and a resource hold themselves, without anything
  that belongs to another resource.
* `Balanced`, `balanced_step`: the balance, and that every step keeps it.
* `findings_discover`: in the end each visited resource has been traversed exactly once.
* `memberFindings_subset_findings`: what the members of a found union hold has been found too.
-/

namespace TypedRpc
namespace Discovery

/-! ## What types and resources hold -/

/-- Something that a traversal notes. -/
inductive Finding where
  | enum (name : String) (values : List String)
  | union (name : String) (members : List (String × TypeRef))
  | reference (id : String)

/-- The reference of a struct to the resource that it is an instance of. -/
def instanceFindings (schema : Schema) (instanceOf : Option String) : List Finding :=
  match given? instanceOf with
  | some id => if (schema.resource? id).isSome then [.reference id] else []
  | none => []

mutual

/-- What is noted of a type held by a value of some name. -/
def typeFindings (schema : Schema) (owner : String) : TypeRef → List Finding
  | .enum values name => [.enum (enumName owner name) values]
  | .union members name =>
    .union (unionName owner name) members :: memberFindings schema members
  | .array item _ => typeFindings schema owner item
  | .struct _ fields instanceOf _ =>
    instanceFindings schema instanceOf ++ fieldFindings schema fields
  | .resource id => [.reference id]
  | .primitive _ _ | .unknown _ => []

/-- What is noted of the members of a union. -/
def memberFindings (schema : Schema) : List (String × TypeRef) → List Finding
  | [] => []
  | (tag, type) :: rest => typeFindings schema tag type ++ memberFindings schema rest

/-- What is noted of the fields of a struct. -/
def fieldFindings (schema : Schema) : List (Field TypeRef) → List Finding
  | [] => []
  | field :: rest => typeFindings schema field.name field.type ++ fieldFindings schema rest

end

/-- What is noted of the fields of a resource. -/
def resourceFindings (schema : Schema) (resource : Resource) : List Finding :=
  (resource.publicAttributes.flatMap fun stored => typeFindings schema stored.name stored.type) ++
    (resource.publicCalculations.flatMap fun calculation =>
      typeFindings schema calculation.name calculation.type) ++
    ((resource.publicAggregates.filter (·.hasBackingField)).flatMap fun aggregate =>
      typeFindings schema aggregate.name (schema.aggregateType resource aggregate)) ++
    resource.publicRelationships.map fun relationship => .reference relationship.destination

/-- What is noted of the fields of the resources that some ids name. -/
def visitFindings (schema : Schema) (ids : List String) : List Finding :=
  (ids.filterMap schema.resource?).flatMap (resourceFindings schema)

/-- What is noted of some roots. -/
def rootFindings (schema : Schema) (roots : List TypeRoot) : List Finding :=
  roots.flatMap fun root => typeFindings schema root.owner root.type

/-- What a task will note, resources that it leads to apart. -/
def Task.findings (schema : Schema) : Task → List Finding
  | .value type owner _ => typeFindings schema owner type
  | .reference id _ => [.reference id]
  | .resource _ _ => []

/-- What several tasks will note. -/
def taskFindings (schema : Schema) (tasks : List Task) : List Finding :=
  tasks.flatMap (Task.findings schema)

/-- What has been noted. -/
def findings (found : Discovery) : List Finding :=
  found.enumOccurrences.map (fun occurrence => .enum occurrence.name occurrence.values) ++
    found.unionOccurrences.map (fun occurrence => .union occurrence.name occurrence.members) ++
    found.references.map fun reference => .reference reference.id

theorem enum_mem_findings {found : Discovery} {name : String} {values : List String} :
    .enum name values ∈ found.findings ↔
      ∃ enum ∈ found.enumOccurrences, enum.name = name ∧ enum.values = values := by
  simp [findings]

theorem union_mem_findings {found : Discovery} {name : String}
    {members : List (String × TypeRef)} :
    .union name members ∈ found.findings ↔
      ∃ union ∈ found.unionOccurrences, union.name = name ∧ union.members = members := by
  simp [findings]

theorem reference_mem_findings {found : Discovery} {id : String} :
    .reference id ∈ found.findings ↔ id ∈ found.references.map (·.id) := by
  simp [findings]

/-- Nothing has been noted when every kind of notes is empty. -/
theorem findings_eq_nil_iff {found : Discovery} :
    found.findings = [] ↔
      found.enumOccurrences = [] ∧ found.unionOccurrences = [] ∧ found.references = [] := by
  simp [findings]

theorem memberFindings_eq_flatMap (schema : Schema) (members : List (String × TypeRef)) :
    memberFindings schema members =
      members.flatMap fun member => typeFindings schema member.1 member.2 := by
  induction members with
  | nil => simp [memberFindings]
  | cons member rest ih => simp [memberFindings, ih]

theorem fieldFindings_eq_flatMap (schema : Schema) (fields : List FieldSpec) :
    fieldFindings schema fields =
      fields.flatMap fun field => typeFindings schema field.name field.type := by
  induction fields with
  | nil => simp [fieldFindings]
  | cons field rest ih => simp [fieldFindings, ih]

mutual

/-- What the members of a union hold is held by any type that the union stands in. -/
theorem memberFindings_subset_type {schema : Schema} {name : String}
    {members : List (String × TypeRef)} :
    ∀ (type : TypeRef) (owner : String), .union name members ∈ typeFindings schema owner type →
      ∀ finding ∈ memberFindings schema members, finding ∈ typeFindings schema owner type
  | .primitive _ _, _, h | .unknown _, _, h | .enum _ _, _, h | .resource _, _, h => by
    simp [typeFindings] at h
  | .array item _, owner, h => by
    rw [typeFindings] at h ⊢
    exact memberFindings_subset_type item owner h
  | .union others own, owner, h => by
    intro finding held
    rw [typeFindings, List.mem_cons] at h ⊢
    rcases h with same | inside
    · obtain ⟨-, rfl⟩ := Finding.union.inj same
      exact .inr held
    · exact .inr (memberFindings_subset_members others inside finding held)
  | .struct _ fields instanceOf _, _, h => by
    intro finding held
    rw [typeFindings, List.mem_append] at h ⊢
    rcases h with instances | inside
    · unfold instanceFindings at instances
      split at instances
      · split at instances <;> simp at instances
      · simp at instances
    · exact .inr (memberFindings_subset_fields fields inside finding held)

theorem memberFindings_subset_members {schema : Schema} {name : String}
    {members : List (String × TypeRef)} :
    ∀ others : List (String × TypeRef), .union name members ∈ memberFindings schema others →
      ∀ finding ∈ memberFindings schema members, finding ∈ memberFindings schema others
  | [], h => by simp [memberFindings] at h
  | (tag, type) :: rest, h => by
    intro finding held
    rw [memberFindings, List.mem_append] at h ⊢
    rcases h with here | there
    · exact .inl (memberFindings_subset_type type tag here finding held)
    · exact .inr (memberFindings_subset_members rest there finding held)

theorem memberFindings_subset_fields {schema : Schema} {name : String}
    {members : List (String × TypeRef)} :
    ∀ fields : List (Field TypeRef), .union name members ∈ fieldFindings schema fields →
      ∀ finding ∈ memberFindings schema members, finding ∈ fieldFindings schema fields
  | [], h => by simp [fieldFindings] at h
  | field :: rest, h => by
    intro finding held
    rw [fieldFindings, List.mem_append] at h ⊢
    rcases h with here | there
    · exact .inl (memberFindings_subset_type field.type field.name here finding held)
    · exact .inr (memberFindings_subset_fields rest there finding held)

end

theorem memberFindings_subset_resource {schema : Schema} {name : String}
    {members : List (String × TypeRef)} {resource : Resource}
    (h : .union name members ∈ resourceFindings schema resource) :
    ∀ finding ∈ memberFindings schema members, finding ∈ resourceFindings schema resource := by
  intro finding held
  simp only [resourceFindings, List.mem_append, List.mem_flatMap, List.mem_map] at h ⊢
  rcases h with ((⟨stored, shown, h⟩ | ⟨calculation, shown, h⟩) | ⟨aggregate, shown, h⟩) |
    ⟨relationship, -, h⟩
  · exact .inl (.inl (.inl ⟨stored, shown, memberFindings_subset_type _ _ h finding held⟩))
  · exact .inl (.inl (.inr ⟨calculation, shown, memberFindings_subset_type _ _ h finding held⟩))
  · exact .inl (.inr ⟨aggregate, shown, memberFindings_subset_type _ _ h finding held⟩)
  · cases h

@[simp] theorem taskFindings_nil (schema : Schema) : taskFindings schema [] = [] := rfl

@[simp] theorem taskFindings_cons (schema : Schema) (task : Task) (rest : List Task) :
    taskFindings schema (task :: rest) = task.findings schema ++ taskFindings schema rest := rfl

@[simp] theorem taskFindings_append (schema : Schema) (tasks others : List Task) :
    taskFindings schema (tasks ++ others) =
      taskFindings schema tasks ++ taskFindings schema others := by
  simp [taskFindings]

theorem taskFindings_memberTasks (schema : Schema) (path : AccessPath)
    (members : List (String × TypeRef)) :
    taskFindings schema (memberTasks path members) = memberFindings schema members := by
  rw [memberFindings_eq_flatMap, taskFindings, memberTasks, List.flatMap_map]
  rfl

theorem taskFindings_fieldTasks (schema : Schema) (path : AccessPath) (fields : List FieldSpec) :
    taskFindings schema (fieldTasks path fields) = fieldFindings schema fields := by
  rw [fieldFindings_eq_flatMap, taskFindings, fieldTasks, List.flatMap_map]
  rfl

theorem taskFindings_instanceTasks (schema : Schema) (path : AccessPath)
    (instanceOf : Option String) :
    taskFindings schema (schema.instanceTasks (.reference · path) instanceOf) =
      instanceFindings schema instanceOf := by
  unfold Schema.instanceTasks instanceFindings
  cases given? instanceOf with
  | none => rfl
  | some id => by_cases h : (schema.resource? id).isSome <;> simp [h, Task.findings]

theorem taskFindings_resourceTasks (schema : Schema) (resource : Resource) (path : AccessPath) :
    taskFindings schema (resourceTasks schema resource path) =
      resourceFindings schema resource := by
  simp only [resourceTasks, taskFindings_append, resourceFindings]
  simp only [taskFindings, List.flatMap_map, Task.findings]
  rw [← List.map_eq_flatMap]

/-! ## The balance -/

/-- **The balance of a traversal.**  What has been noted and what is left to be noted are together
what was there to begin with and what the resources marked so far hold. -/
def Balanced (schema : Schema) (roots : List TypeRoot) (found : Discovery) (tasks : List Task) :
    Prop :=
  (↑found.findings + ↑(taskFindings schema tasks) : Multiset Finding) =
    ↑(rootFindings schema roots) + ↑(visitFindings schema found.visited)

theorem findings_typeStep (schema : Schema) (found : Discovery) (owner : String)
    (path : AccessPath) (type : TypeRef) :
    (↑(typeStep schema found owner path type).1.findings +
        ↑(taskFindings schema (typeStep schema found owner path type).2) : Multiset Finding) =
      ↑found.findings + ↑(typeFindings schema owner type) := by
  cases type with
  | primitive | unknown => simp [typeStep, typeFindings]
  | array => simp [typeStep, typeFindings, Task.findings]
  | resource => simp [typeStep, typeFindings, Task.findings]
  | struct _ fields instanceOf _ =>
    simp only [typeStep, typeFindings, taskFindings_append, taskFindings_instanceTasks,
      taskFindings_fieldTasks]
  | enum values name =>
    simp only [typeStep, typeFindings, addEnum, findings, taskFindings_nil, List.map_append,
      List.map_cons, List.map_nil, ← Multiset.coe_add, Multiset.coe_nil, add_zero]
    ac_rfl
  | union members name =>
    rw [typeFindings, ← List.singleton_append]
    simp only [typeStep, addUnion, findings, taskFindings_memberTasks, List.map_append,
      List.map_cons, List.map_nil, ← Multiset.coe_add]
    ac_rfl

@[simp] theorem findings_register (found : Discovery) (resource : Resource) :
    (found.register resource).findings = found.findings := by
  unfold register
  split <;> split <;> rfl

theorem findings_referenceStep (schema : Schema) (found : Discovery) (id : String)
    (path : AccessPath) :
    (↑(referenceStep schema found id path).1.findings +
        ↑(taskFindings schema (referenceStep schema found id path).2) : Multiset Finding) =
      ↑found.findings + ↑[Finding.reference id] := by
  have noted : (found.addReference ⟨id, path⟩).findings = found.findings ++ [.reference id] := by
    simp [addReference, findings]
  rw [Multiset.coe_add, Multiset.coe_add, ← noted]
  unfold referenceStep
  cases schema.resource? id with
  | none =>
    have same : ((found.addReference ⟨id, path⟩).addMissing ⟨id, path⟩).findings =
        (found.addReference ⟨id, path⟩).findings := rfl
    simp [same]
  | some resource => simp [Task.findings]

/-- Every step keeps the balance. -/
theorem balanced_step {schema : Schema} {roots : List TypeRoot} {found : Discovery} {task : Task}
    {rest : List Task} (h : Balanced schema roots found (task :: rest)) :
    Balanced schema roots (step schema found task).1 ((step schema found task).2 ++ rest) := by
  have kept : ∀ after : Discovery × List Task, after.1.visited = found.visited →
      (↑after.1.findings + ↑(taskFindings schema after.2) : Multiset Finding) =
        ↑found.findings + ↑(task.findings schema) →
      Balanced schema roots after.1 (after.2 ++ rest) := by
    intro after same noted
    unfold Balanced at h ⊢
    rw [taskFindings_append, ← Multiset.coe_add, ← add_assoc, noted, same, ← h,
      taskFindings_cons, ← Multiset.coe_add, add_assoc]
  cases task with
  | value type owner path =>
    exact kept _ (visited_typeStep ..) (findings_typeStep ..)
  | reference id path =>
    exact kept _ (visited_referenceStep ..) (findings_referenceStep ..)
  | resource id path =>
    cases fresh : unvisited? schema found.visited id with
    | none =>
      rw [step, fresh]
      exact kept (found, []) rfl rfl
    | some resource =>
      -- the only step that marks: what the resource holds appears on both sides
      have named := (resource?_of_unvisited? fresh).2
      have same : (found.visit id).findings = found.findings := rfl
      have more : visitFindings schema (found.visit id).visited =
          visitFindings schema found.visited ++ resourceFindings schema resource := by
        simp [visitFindings, visit, named]
      unfold Balanced at h ⊢
      simp only [taskFindings_cons, Task.findings, List.nil_append] at h
      simp only [step, fresh]
      rw [same, more, taskFindings_append, taskFindings_resourceTasks, ← Multiset.coe_add,
        ← Multiset.coe_add, ← add_assoc, ← add_assoc, ← h]
      ac_rfl

/-! ## Whole traversals -/

theorem findings_foldl_register (resources : List Resource) (found : Discovery) :
    (resources.foldl register found).findings = found.findings := by
  induction resources generalizing found with
  | nil => rfl
  | cons resource rest ih => rw [List.foldl_cons, ih, findings_register]

theorem visited_foldl_register (resources : List Resource) (found : Discovery) :
    (resources.foldl register found).visited = found.visited := by
  induction resources generalizing found with
  | nil => rfl
  | cons resource rest ih => rw [List.foldl_cons, ih, visited_register]

/-- Nothing has been noted at first. -/
theorem findings_start (schema : Schema) (exposed : List String) :
    (start schema exposed).findings = [] :=
  findings_foldl_register (existing schema exposed) {}

/-- Nothing has been marked at first. -/
theorem visited_start (schema : Schema) (exposed : List String) :
    (start schema exposed).visited = [] :=
  visited_foldl_register (existing schema exposed) {}

theorem balanced_start (schema : Schema) (exposed : List String) (roots : List TypeRoot) :
    Balanced schema roots (start schema exposed) (startTasks schema exposed roots) := by
  unfold Balanced
  have silent : taskFindings schema ((existing schema exposed).map fun resource =>
      Task.resource resource.id [resource.shortName]) = [] := by
    simp [taskFindings, Task.findings]
  have held : taskFindings schema (roots.map fun root =>
      Task.value root.type root.owner root.path) = rootFindings schema roots := by
    simp [taskFindings, Task.findings, List.flatMap_map, rootFindings]
  rw [findings_start, visited_start, startTasks, taskFindings_append, silent, held]
  simp [visitFindings]

/-- **Each visited resource is traversed exactly once.**  What a discovery has noted is, up to
order, what the roots hold and what each visited resource holds. -/
theorem findings_discover (schema : Schema) (exposed : List String) (roots : List TypeRoot) :
    (discover schema exposed roots).findings.Perm
      (rootFindings schema roots ++
        visitFindings schema (discover schema exposed roots).visited) := by
  have done : Balanced schema roots (discover schema exposed roots) [] :=
    Worklist.run_induction (fun _ _ _ => balanced_step) (balanced_start schema exposed roots)
  unfold Balanced at done
  rw [taskFindings_nil, Multiset.coe_nil, add_zero, Multiset.coe_add] at done
  exact Multiset.coe_eq_coe.mp done

/-- What the members of a union hold has been found wherever the union has been found. -/
theorem memberFindings_subset_findings {schema : Schema} {exposed : List String}
    {roots : List TypeRoot} {name : String} {members : List (String × TypeRef)}
    (h : .union name members ∈ (discover schema exposed roots).findings) :
    ∀ finding ∈ memberFindings schema members,
      finding ∈ (discover schema exposed roots).findings := by
  intro finding held
  rw [(findings_discover schema exposed roots).mem_iff, List.mem_append] at h ⊢
  rcases h with h | h <;> obtain ⟨source, listed, h⟩ := List.mem_flatMap.mp h
  · exact .inl (List.mem_flatMap.mpr
      ⟨source, listed, memberFindings_subset_type _ _ h finding held⟩)
  · exact .inr (List.mem_flatMap.mpr
      ⟨source, listed, memberFindings_subset_resource h finding held⟩)

end Discovery
end TypedRpc
