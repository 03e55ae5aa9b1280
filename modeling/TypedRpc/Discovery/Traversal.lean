import TypedRpc.Discovery.Basic
import TypedRpc.Schema.Walk

/-!
# Traversal

Types are followed depth first, from the resources that clients have access to and then from other
roots.  What is still to be done stands in a list of tasks; a task is replaced by the tasks that it
leads to, in front of all others.  A resource is marked before its fields are traversed, so a
resource that leads back to itself is traversed once.

The traversal ends: a task on a resource that has not been visited leaves fewer unvisited resources
of the schema, and every other task is replaced by tasks of less weight in all.
-/

namespace TypedRpc
namespace Discovery

open Worklist (weights)

/-- Something left to traverse. -/
inductive Task where
  /-- A type held by a value of some name. -/
  | value (type : TypeRef) (owner : String) (path : AccessPath)
  /-- A reference to a resource. -/
  | reference (id : String) (path : AccessPath)
  /-- The fields of a resource. -/
  | resource (id : String) (path : AccessPath)
  deriving Repr

/-- An upper bound of the steps that a task takes without entering a resource. -/
def Task.weight : Task → Nat
  | .value type _ _ => 3 * type.size
  | .reference _ _ => 2
  | .resource _ _ => 1

/-- The name of an enumeration: its own, or the one it gets from its owner. -/
def enumName (owner : String) (name : Option String) : String :=
  (given? name).getD (Naming.enumTypeName owner)

/-- The name of a union: its own, or the one it gets from its owner. -/
def unionName (owner : String) (name : Option String) : String :=
  (given? name).getD (Naming.unionTypeName owner)

/-- The tasks for the members of a union. -/
def memberTasks (path : AccessPath) (members : List (String × TypeRef)) : List Task :=
  members.map fun (tag, type) => .value type tag (path ++ [tag])

/-- The tasks for the fields of a struct. -/
def fieldTasks (path : AccessPath) (fields : List FieldSpec) : List Task :=
  fields.map fun field => .value field.type field.name (path ++ [field.name])

/-- The tasks for what a resource shows to clients. -/
def resourceTasks (schema : Schema) (resource : Resource) (path : AccessPath) : List Task :=
  (resource.publicAttributes.map fun stored =>
      Task.value stored.type stored.name (path ++ [stored.name])) ++
    (resource.publicCalculations.map fun calculation =>
      Task.value calculation.type calculation.name (path ++ [calculation.name])) ++
    ((resource.publicAggregates.filter (·.hasBackingField)).map fun aggregate =>
      Task.value (schema.aggregateType resource aggregate) aggregate.name
        (path ++ [aggregate.name])) ++
    (resource.publicRelationships.map fun relationship =>
      Task.reference relationship.destination (path ++ [relationship.name]))

/-- What a task on a type adds and leads to. -/
def typeStep (schema : Schema) (found : Discovery) (owner : String) (path : AccessPath) :
    TypeRef → Discovery × List Task
  | .enum values name => (found.addEnum ⟨enumName owner name, values, path⟩, [])
  | .union members name =>
    (found.addUnion ⟨unionName owner name, members, path⟩, memberTasks path members)
  | .array item _ => (found, [.value item owner (path ++ ["[]"])])
  | .struct _ fields instanceOf _ =>
    (found, schema.instanceTasks (.reference · path) instanceOf ++ fieldTasks path fields)
  | .resource id => (found, [.reference id path])
  | .primitive _ _ | .unknown _ => (found, [])

/-- What a reference adds and leads to. -/
def referenceStep (schema : Schema) (found : Discovery) (id : String) (path : AccessPath) :
    Discovery × List Task :=
  let noted := found.addReference ⟨id, path⟩
  match schema.resource? id with
  | none => (noted.addMissing ⟨id, path⟩, [])
  | some resource => (noted.register resource, [.resource resource.id path])

/-- The resource to traverse for an id, unless it has been traversed. -/
def unvisited? (schema : Schema) (visited : List String) (id : String) : Option Resource :=
  if visited.contains id then none else schema.resource? id

/-- What a task adds and leads to. -/
def step (schema : Schema) (found : Discovery) : Task → Discovery × List Task
  | .value type owner path => typeStep schema found owner path type
  | .reference id path => referenceStep schema found id path
  | .resource id path =>
    match unvisited? schema found.visited id with
    | none => (found, [])
    | some resource => (found.visit id, resourceTasks schema resource path)

/-! ## Every step brings the end nearer -/

theorem weights_typeStep (schema : Schema) (found : Discovery) (owner : String)
    (path : AccessPath) (type : TypeRef) :
    weights Task.weight (typeStep schema found owner path type).2 < 3 * type.size := by
  cases type with
  | primitive | enum | unknown => simp [typeStep, TypeRef.size]
  | array | resource => simp [typeStep, Task.weight, TypeRef.size]
  | union members _ =>
    have inner : weights Task.weight (memberTasks path members) ≤
        3 * TypeRef.sizeMembers members :=
      TypeRef.weights_members (fun _ => by simp [Task.weight]) members
    simp only [typeStep, TypeRef.size]
    omega
  | struct _ fields instanceOf _ =>
    have inner : weights Task.weight (fieldTasks path fields) ≤ 3 * TypeRef.sizeFields fields :=
      TypeRef.weights_fields (fun _ => by simp [Task.weight]) fields
    have instances :
        weights Task.weight (schema.instanceTasks (.reference · path) instanceOf) ≤ 2 :=
      schema.weights_instanceTasks (fun _ => by simp [Task.weight]) instanceOf
    simp only [typeStep, TypeRef.size, Worklist.weights_append]
    omega

theorem visited_typeStep (schema : Schema) (found : Discovery) (owner : String)
    (path : AccessPath) (type : TypeRef) :
    (typeStep schema found owner path type).1.visited = found.visited := by
  cases type <;> rfl

theorem visited_register (found : Discovery) (resource : Resource) :
    (found.register resource).visited = found.visited := by
  unfold register
  split <;> split <;> rfl

theorem visited_referenceStep (schema : Schema) (found : Discovery) (id : String)
    (path : AccessPath) : (referenceStep schema found id path).1.visited = found.visited := by
  unfold referenceStep
  split
  · rfl
  · simp [visited_register, addReference]

theorem weights_referenceStep (schema : Schema) (found : Discovery) (id : String)
    (path : AccessPath) : weights Task.weight (referenceStep schema found id path).2 < 2 := by
  unfold referenceStep
  split <;> simp [Task.weight]

/-- The resource that a visit is about has not been visited. -/
theorem resource?_of_unvisited? {schema : Schema} {visited : List String} {id : String}
    {resource : Resource} (h : unvisited? schema visited id = some resource) :
    visited.contains id = false ∧ schema.resource? id = some resource := by
  unfold unvisited? at h
  split at h
  · simp at h
  · next fresh => exact ⟨by simpa using fresh, h⟩

/-- A step leaves fewer unvisited resources, or as many and less weight. -/
theorem step_decreases (schema : Schema) (found : Discovery) (task : Task) :
    let after := step schema found task
    schema.unvisitedCount after.1.visited < schema.unvisitedCount found.visited ∨
      schema.unvisitedCount after.1.visited ≤ schema.unvisitedCount found.visited ∧
        weights Task.weight after.2 < task.weight := by
  cases task with
  | value type owner path =>
    exact .inr ⟨by simp only [step, visited_typeStep, Nat.le_refl], weights_typeStep ..⟩
  | reference id path =>
    exact .inr ⟨by simp only [step, visited_referenceStep, Nat.le_refl],
      weights_referenceStep ..⟩
  | resource id path =>
    simp only [step]
    split
    · exact .inr ⟨Nat.le_refl _, by simp [Task.weight]⟩
    · next h =>
      have ⟨fresh, found⟩ := resource?_of_unvisited? h
      exact .inl (Schema.unvisitedCount_append_lt fresh found)

/-! ## Whole traversals -/

/-- The traversal as a walk, whose places are the resources that have not been visited. -/
def walk (schema : Schema) : Worklist Discovery Task where
  step := step schema
  places found := schema.unvisitedCount found.visited
  weight := Task.weight
  decreases := step_decreases schema

/-- The ids of a list that name resources. -/
def existing (schema : Schema) (ids : List String) : List Resource :=
  ids.filterMap schema.resource?

/-- The state before the traversal: resources that clients have access to are reached, and those
that do not exist are missing. -/
def start (schema : Schema) (exposed : List String) : Discovery :=
  let absent := exposed.filter fun id => (schema.resource? id).isNone
  let found := (existing schema exposed).foldl register {}
  { found with missing := absent.map fun id => ⟨id, [id]⟩ }

/-- The tasks at the start of the traversal. -/
def startTasks (schema : Schema) (exposed : List String) (roots : List TypeRoot) : List Task :=
  ((existing schema exposed).map fun resource => .resource resource.id [resource.shortName]) ++
    roots.map fun root => .value root.type root.owner root.path

end Discovery

/-- Everything that can be reached from some resources and other roots. -/
def discover (schema : Schema) (exposed : List String) (roots : List TypeRoot) : Discovery :=
  (Discovery.walk schema).run (Discovery.start schema exposed)
    (Discovery.startTasks schema exposed roots)

end TypedRpc
