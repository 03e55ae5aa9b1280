import TypedRpc.Action.Exposed
import TypedRpc.Schema.Walk
import TypedRpc.Verification.Finding

/-!
# Names nested in the types of actions

The types that an action mentions are walked through for fields with illegal names: through arrays,
unions and structs, and through the public attributes and calculations of the resources that they
refer to.  Each resource is looked at once for an action, so the walk ends on any schema.
-/

namespace TypedRpc
namespace NestedNames

open Worklist (weights)

/-- Something left to look at. -/
inductive Task where
  | value (type : TypeRef) (location : String)
  /-- A field, and its name after the renames of the document. -/
  | field (name mapped : String) (type : TypeRef) (location : String)
  | resource (id : String) (location : String)
  deriving Repr

/-- What has been found, and the resources that have been looked at. -/
structure State where
  visited : List String := []
  faults : List Fault := []

/-- An upper bound of the steps that a task takes without entering a resource. -/
def Task.weight : Task → Nat
  | .value type _ => 3 * type.size
  | .field _ _ type _ => 3 * type.size + 1
  | .resource _ _ => 1

/-- A place one step further. -/
def below (location name : String) : String :=
  location ++ " -> " ++ name

/-- The tasks for the members of a union. -/
def memberTasks (location : String) (members : List (String × TypeRef)) : List Task :=
  members.map fun (tag, type) => .value type (below location tag)

/-- The tasks for some fields. -/
def fieldTasks (renames : Renames) (location : String) (fields : List FieldSpec) : List Task :=
  fields.map fun field =>
    .field field.name ((renames.lookup field.name).getD field.name) field.type location

/-- The tasks that a type leads to. -/
def typeTasks (schema : Schema) (location : String) : TypeRef → List Task
  | .array item _ => [.value item location]
  | .union members _ => memberTasks location members
  | .struct _ fields instanceOf renames =>
    schema.instanceTasks (.resource · location) instanceOf ++ fieldTasks renames location fields
  | .resource id => [.resource id location]
  | .primitive _ _ | .enum _ _ | .unknown _ => []

/-- The named values of a resource that can be nested in a type. -/
def nestedFields (resource : Resource) : List FieldSpec :=
  resource.publicAttributes.map (·.toField) ++ resource.publicCalculations.map (·.toField)

/-- The tasks for a resource. -/
def resourceTasks (resource : Resource) (location : String) : List Task :=
  fieldTasks resource.fieldNames (location ++ " (" ++ resource.shortName ++ ")")
    (nestedFields resource)

/-- The fault of an illegal name. -/
def nameFaults (place : ActionPlace) (location name mapped : String) : List Fault :=
  if Naming.isLegal mapped then [] else [.invalidNestedName place location name mapped]

/-- What a task finds and leads to. -/
def step (schema : Schema) (place : ActionPlace) (state : State) : Task → State × List Task
  | .value type location => (state, typeTasks schema location type)
  | .field name mapped type location =>
    ({ state with faults := state.faults ++ nameFaults place location name mapped },
      [.value type (below location name)])
  | .resource id location =>
    if state.visited.contains id then (state, [])
    else
      match schema.resource? id with
      | none => ({ state with visited := state.visited ++ [id] }, [])
      | some resource =>
        ({ state with visited := state.visited ++ [id] }, resourceTasks resource location)

/-! ## Every step brings the end nearer -/

theorem weights_typeTasks (schema : Schema) (location : String) (type : TypeRef) :
    weights Task.weight (typeTasks schema location type) < 3 * type.size := by
  cases type with
  | primitive | enum | unknown => simp [typeTasks, TypeRef.size]
  | array | resource => simp [typeTasks, Task.weight, TypeRef.size]
  | union members _ =>
    have inner : weights Task.weight (memberTasks location members) ≤
        3 * TypeRef.sizeMembers members :=
      TypeRef.weights_members (fun _ => by simp [Task.weight]) members
    simp only [typeTasks, TypeRef.size]
    omega
  | struct _ fields instanceOf renames =>
    have inner : weights Task.weight (fieldTasks renames location fields) ≤
        3 * TypeRef.sizeFields fields :=
      TypeRef.weights_fields (fun _ => by simp [Task.weight]) fields
    have instances :
        weights Task.weight (schema.instanceTasks (.resource · location) instanceOf) ≤ 1 :=
      schema.weights_instanceTasks (fun _ => by simp [Task.weight]) instanceOf
    simp only [typeTasks, TypeRef.size, Worklist.weights_append]
    omega

/-- A step leaves fewer unvisited resources, or no more of them and less weight. -/
theorem step_decreases (schema : Schema) (place : ActionPlace) (state : State) (task : Task) :
    let after := step schema place state task
    schema.unvisitedCount after.1.visited < schema.unvisitedCount state.visited ∨
      schema.unvisitedCount after.1.visited ≤ schema.unvisitedCount state.visited ∧
        weights Task.weight after.2 < task.weight := by
  cases task with
  | value type location => exact .inr ⟨Nat.le_refl _, weights_typeTasks ..⟩
  | field name mapped type location =>
    exact .inr ⟨Nat.le_refl _, by simp [step, Task.weight]⟩
  | resource id location =>
    simp only [step]
    split
    · exact .inr ⟨Nat.le_refl _, by simp [Task.weight]⟩
    · next fresh =>
      split
      · exact .inr ⟨Schema.unvisitedCount_append_le .., by simp [Task.weight]⟩
      · next h => exact .inl (Schema.unvisitedCount_append_lt (by simpa using fresh) h)

/-! ## Whole walks -/

/-- The walk, whose places are the resources that have not been looked at. -/
def walk (schema : Schema) (place : ActionPlace) : Worklist State Task where
  step := step schema place
  places state := schema.unvisitedCount state.visited
  weight := Task.weight
  decreases := step_decreases schema place

/-- The types of an action, with their places. -/
def startTasks (action : Action) : List Task :=
  (action.publicArguments.map fun argument =>
      .value argument.type ("argument " ++ argument.name)) ++
    (match action.kind, action.returns with
      | .generic, some type => [.value type "return type"]
      | _, _ => []) ++
    (action.metadata.map fun field => .value field.type ("metadata " ++ field.name))

end NestedNames

/-- The faults of names nested in the types of an exposed action. -/
def nestedNameFaults (schema : Schema) (place : ActionPlace) (action : Action) : List Fault :=
  ((NestedNames.walk schema place).run {} (NestedNames.startTasks action)).faults

end TypedRpc
