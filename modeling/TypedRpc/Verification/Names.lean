import TypedRpc.Text.Grouping
import TypedRpc.Typing.Property
import TypedRpc.Verification.NestedNames

/-!
# Checks of names

Every public field of a reached resource, and every field that an exposed action mentions, must have
a legal name after the renames of the document.  No two properties of a record and no two of an
input may have one name in the code.
-/

namespace TypedRpc

/-- The public members of a resource with their kinds. -/
def publicMembers (resource : Resource) : List (MemberKind × String) :=
  (resource.publicAttributes.map fun stored => (.stored, stored.name)) ++
    (resource.publicRelationships.map fun relationship => (.relationship, relationship.name)) ++
    (resource.publicCalculations.map fun calculation => (.calculation, calculation.name)) ++
    (resource.publicAggregates.map fun aggregate => (.aggregate, aggregate.name))

/-- The public members of a resource with illegal names. -/
def memberNameFaults (resource : Resource) : List Fault :=
  (publicMembers resource).filterMap fun (kind, name) =>
    let mapped := resource.mappedFieldName name
    if Naming.isLegal mapped then none
    else some (.invalidFieldName resource.id kind name mapped)

/-- The source names and the names in the code of the properties of a record. -/
def recordNames (resource : Resource) : List (String × String) :=
  (resource.publicAttributes.map (·.name) ++ resource.publicRelationships.map (·.name)).map
    fun name => (name, kotlinNameOf name (resource.fieldRename? name))

/-- The source names and the names in the code of the properties of an input. -/
def inputNames (shape : ActionShape) : List (String × String) :=
  shape.inputFields.map fun field =>
    (field.spec.name, kotlinNameOf field.spec.name (shape.inputNames.lookup field.spec.name))

/-- The faults of properties with one name in the code. -/
def sharedNameFaults (fault : (property : String) → (fields : List String) → Fault)
    (names : List (String × String)) : List Fault :=
  (clashes Prod.snd names).map fun (property, group) => fault property (group.map Prod.fst)

/-- The faults of the names of one resource. -/
def resourceNameFaults (resource : Resource) : List Fault :=
  memberNameFaults resource ++
    sharedNameFaults (.sharedRecordProperty resource.id) (recordNames resource)

/-- The faults of the names of all reached resources. -/
def fieldNameFaults (schema : Schema) (found : Discovery) : List Fault :=
  (found.allResources.filterMap schema.resource?).flatMap resourceNameFaults

/-- An exposed action as it is named in findings. -/
def ExposedAction.place (exposed : ExposedAction) : ActionPlace :=
  ⟨exposed.resource.id, exposed.rpcAction.name⟩

/-- The public arguments of an exposed action with illegal names. -/
def argumentNameFaults (exposed : ExposedAction) : List Fault :=
  exposed.action.publicArguments.filterMap fun argument =>
    let mapped := exposed.resource.mappedArgumentName exposed.action.name argument.name
    if Naming.isLegal mapped then none
    else some (.invalidArgumentName exposed.place argument.name mapped)

/-- The faults of the names of an exposed action. -/
def exposedNameFaults (schema : Schema) (exposed : ExposedAction) : List Fault :=
  argumentNameFaults exposed ++ nestedNameFaults schema exposed.place exposed.action ++
    sharedNameFaults (.sharedInputProperty exposed.place) (inputNames exposed.shape)

/-- The actions that the checks go through: those whose resource and action both exist. -/
def Schema.checkedActions (schema : Schema) : List ExposedAction :=
  schema.rpcResources.flatMap fun entry =>
    (schema.resource? entry.resource).toList.flatMap fun resource =>
      entry.actions.flatMap fun rpcAction =>
        (resource.action? rpcAction.action).toList.map fun action => ⟨resource, action, rpcAction⟩

/-- The checks go through the actions that clients may call, in the same order. -/
theorem Schema.checkedActions_eq (schema : Schema) :
    schema.checkedActions = schema.exposedActions := by
  unfold checkedActions exposedActions
  congr 1
  funext entry
  cases schema.resource? entry.resource with
  | none => rfl
  | some resource =>
    simp only [exposedOn, Option.toList_some, List.flatMap_singleton]
    induction entry.actions with
    | nil => rfl
    | cons rpcAction rest ih =>
      cases chosen : resource.action? rpcAction.action <;> simp [chosen, ih]

/-- The faults of the names of all exposed actions. -/
def actionTypeFaults (schema : Schema) : List Fault :=
  schema.checkedActions.flatMap (exposedNameFaults schema)

theorem actionTypeFaults_eq (schema : Schema) :
    actionTypeFaults schema = schema.exposedActions.flatMap (exposedNameFaults schema) := by
  rw [actionTypeFaults, schema.checkedActions_eq]

end TypedRpc
