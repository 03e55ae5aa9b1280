import TypedRpc.Client.Generation
import TypedRpc.Proofs.Client.Plan
import TypedRpc.Proofs.Verification.Agreement
import TypedRpc.Proofs.Verification.TypeNames

/-!
# Clients of schemas that agree

Two schemas that agree and expose alike have the same client.  Types are named after the resources
that they mention, so a type within the ids on which the names agree is written in one way; every
section is written from such types.

* `Typing.typeOf_agree`: types of fields.
* `Plan.sections_agree`, `generate_agree`: whole clients.
-/

namespace TypedRpc

variable {known : String → Prop} {schema other : Schema} {resource : Resource} {options : Options}
  {first second : String → Option String}

/-- Whether two ways to name resources agree on some ids. -/
def NameAlike (known : String → Prop) (first second : String → Option String) : Prop :=
  ∀ id, known id → first id = second id

theorem Schema.AgreeOn.names (agree : Schema.AgreeOn known schema other) :
    NameAlike known schema.typeName? other.typeName? := by
  intro id here
  rw [typeName?, typeName?, agree.lookup here]

namespace Typing

/-! ## Types of fields -/

theorem resourceName_agree (names : NameAlike known first second) {id : String} (here : known id) :
    resourceName ⟨options, first⟩ id = resourceName ⟨options, second⟩ id := by
  simp only [resourceName, names id here]

/-- **A type is written in one way** when the names of what it mentions agree. -/
theorem typeOf_agree (names : NameAlike known first second) (owner : Option String) :
    ∀ type : TypeRef, type.Within known →
      typeOf ⟨options, first⟩ owner type = typeOf ⟨options, second⟩ owner type
  | .array item _, within => by
    rw [typeOf, typeOf, typeOf_agree names owner item within.item]
  | .resource id, within => by
    simp only [typeOf, resourceName_agree names within.reference]
  | .struct container fields instanceOf _, within => by
    have same (isEmpty : Bool) : structType ⟨options, first⟩ container isEmpty instanceOf =
        structType ⟨options, second⟩ container isEmpty instanceOf := by
      unfold structType
      cases given : given? instanceOf with
      | none => rfl
      | some id => simp only [resourceName_agree names (within.instanceOf given)]
    simp only [typeOf, same]
  | .primitive _ _, _ | .enum _ _, _ | .union _ _, _ | .unknown _, _ => by
    rw [typeOf, typeOf]

theorem valueType_agree (names : NameAlike known first second) {type : TypeRef}
    (within : type.Within known) (name : String) (nullable : Bool) :
    valueType ⟨options, first⟩ name type nullable =
      valueType ⟨options, second⟩ name type nullable := by
  rw [valueType, valueType, typeOf_agree names _ type within]

theorem fieldType_agree (names : NameAlike known first second) {field : FieldSpec}
    (within : field.type.Within known) :
    fieldType ⟨options, first⟩ field = fieldType ⟨options, second⟩ field :=
  valueType_agree names within _ _

theorem recordType_agree (names : NameAlike known first second) {id : String} (here : known id) :
    recordType ⟨options, first⟩ id = recordType ⟨options, second⟩ id := by
  simp only [recordType, typeOf, resourceName_agree names here]

theorem relatedType_agree (names : NameAlike known first second) {id : String} (here : known id)
    (cardinality : Cardinality) :
    relatedType ⟨options, first⟩ id cardinality = relatedType ⟨options, second⟩ id cardinality := by
  cases cardinality <;> simp only [relatedType, recordType_agree names here]

/-! ## Records and unions -/

theorem record_agree (names : NameAlike known first second) (within : resource.Within known) :
    record ⟨options, first⟩ resource = record ⟨options, second⟩ resource := by
  have attributes : ∀ stored ∈ resource.publicAttributes,
      attributeProperty ⟨options, first⟩ resource stored =
        attributeProperty ⟨options, second⟩ resource stored := by
    intro stored shown
    have within := within.stored (List.mem_of_mem_filter shown)
    simp only [attributeProperty, fieldType_agree names within]
  have relationships : ∀ relationship ∈ resource.publicRelationships,
      relationshipProperty ⟨options, first⟩ resource relationship =
        relationshipProperty ⟨options, second⟩ resource relationship := by
    intro relationship shown
    have here := within.destinations relationship (List.mem_of_mem_filter shown)
    simp only [relationshipProperty, relatedType_agree names here]
  rw [record, record, List.map_congr_left attributes, List.map_congr_left relationships]

theorem memberProperties_agree (names : NameAlike known first second) (tag : String)
    {member : TypeRef} (within : member.Within known) :
    memberProperties ⟨options, first⟩ tag member =
      memberProperties ⟨options, second⟩ tag member := by
  have single : valueProperty ⟨options, first⟩ tag member =
      valueProperty ⟨options, second⟩ tag member := by
    rw [valueProperty, valueProperty, valueType_agree names within]
  cases member with
  | struct container fields instanceOf renames =>
    have inlined : ∀ field ∈ fields, structFieldProperty ⟨options, first⟩ renames field =
        structFieldProperty ⟨options, second⟩ renames field := by
      intro field listed
      simp only [structFieldProperty, fieldType_agree names (within.field listed)]
    simp only [memberProperties, single, List.map_congr_left inlined]
  | _ => simp only [memberProperties, single]

theorem union_agree (names : NameAlike known first second) {found : UnionDef}
    (within : ∀ entry ∈ found.members, entry.2.Within known) :
    union ⟨options, first⟩ found = union ⟨options, second⟩ found := by
  have variants : ∀ entry ∈ found.members,
      variant ⟨options, first⟩ found.name entry.1 entry.2 =
        variant ⟨options, second⟩ found.name entry.1 entry.2 := by
    intro entry listed
    rw [variant, variant, memberProperties_agree names entry.1 (within entry listed)]
  rw [union, union, List.map_congr_left variants]

/-! ## Types of single actions -/

variable {exposed : ExposedAction}

theorem pageResultText_agree (names : NameAlike known first second)
    (within : exposed.Within known) :
    pageResultText ⟨options, first⟩ exposed.shape =
      pageResultText ⟨options, second⟩ exposed.shape := by
  have same : recordType ⟨options, first⟩ exposed.shape.resourceId =
      recordType ⟨options, second⟩ exposed.shape.resourceId := recordType_agree names within.id
  simp only [pageResultText, same]
  rfl

theorem metadataText_agree (names : NameAlike known first second)
    (within : exposed.Within known) :
    metadataText ⟨options, first⟩ exposed.shape = metadataText ⟨options, second⟩ exposed.shape := by
  have properties : ∀ field ∈ exposed.shape.metadata,
      metadataProperty ⟨options, first⟩ exposed.shape field =
        metadataProperty ⟨options, second⟩ exposed.shape field := by
    intro field shown
    have inside := within.metadata (mem_metadata_of_mem_exposedMetadata shown)
    simp only [metadataProperty, fieldType_agree names inside]
  simp only [metadataText, metadataClass?, List.map_congr_left properties]

theorem successData_agree (agree : Schema.AgreeOn known schema other)
    (within : exposed.Within known) :
    successData ⟨options, schema.typeName?⟩ schema exposed.shape =
      successData ⟨options, other.typeName?⟩ other exposed.shape := by
  have record : recordType ⟨options, schema.typeName?⟩ exposed.shape.resourceId =
      recordType ⟨options, other.typeName?⟩ exposed.shape.resourceId :=
    recordType_agree agree.names within.id
  have here : known exposed.shape.resourceId := within.id
  have same : returnType? schema exposed.shape = returnType? other exposed.shape := by
    rw [returnType?, returnType?, agree.lookup here]
  simp only [successData, record, ← same]
  split
  · rfl
  · rfl
  · cases returned : returnType? schema exposed.shape with
    | none => rfl
    | some type =>
      simp only [returnType?, Option.bind_eq_bind, Option.bind_eq_some_iff] at returned
      obtain ⟨resource, named, action, found, returned⟩ := returned
      have inside := (agree.closed here named).types type
        (.result action type (List.mem_of_find?_eq_some found) returned)
      simp only [valueType_agree agree.names inside]
  · rfl
  · rfl

theorem resultText_agree (agree : Schema.AgreeOn known schema other)
    (within : exposed.Within known) :
    resultText ⟨options, schema.typeName?⟩ schema exposed.shape =
      resultText ⟨options, other.typeName?⟩ other exposed.shape := by
  simp only [resultText, successLines, successData_agree agree within]

/-- The types of the fields of an input are types of the resource. -/
theorem within_inputFields (within : exposed.Within known) :
    ∀ field ∈ exposed.shape.inputFields, field.spec.type.Within known := by
  intro field listed
  rcases List.mem_append.mp listed with listed | listed
  · obtain ⟨stored, accepted, rfl⟩ := List.mem_map.mp listed
    unfold acceptedAttributes at accepted
    split at accepted
    · obtain ⟨name, -, named⟩ := List.mem_filterMap.mp accepted
      exact within.resource.attribute? named
    · exact absurd accepted List.not_mem_nil
  · obtain ⟨argument, shown, rfl⟩ := List.mem_map.mp listed
    exact within.argument shown

theorem inputText_agree (names : NameAlike known first second) (within : exposed.Within known) :
    inputText ⟨options, first⟩ exposed.shape = inputText ⟨options, second⟩ exposed.shape := by
  have properties : ∀ field ∈ exposed.shape.inputFields,
      makeInputProperty ⟨options, first⟩ exposed.shape field.spec =
        makeInputProperty ⟨options, second⟩ exposed.shape field.spec := by
    intro field listed
    have same : fieldType ⟨options, first⟩ field.spec = fieldType ⟨options, second⟩ field.spec :=
      fieldType_agree names (within_inputFields within field listed)
    simp only [makeInputProperty, inputProperty, inputAnnotations, same]
  simp only [inputText, inputClass?, mapM_congr properties]

/-! ## Calls -/

theorem identityType_agree (names : NameAlike known first second) (shape : ActionShape)
    (within : resource.Within known) :
    identityType ⟨options, first⟩ shape resource =
      identityType ⟨options, second⟩ shape resource := by
  unfold identityType
  split
  · split
    · next key only =>
      have listed : key ∈ resource.primaryKey := by
        rw [only]
        exact List.mem_singleton.mpr rfl
      exact valueType_agree names (within.stored (List.mem_of_mem_filter listed)) _ _
    · rfl
  · rfl

theorem filterInputName_agree (names : NameAlike known first second) {id : String}
    (here : known id) :
    filterInputName ⟨options, first⟩ id = filterInputName ⟨options, second⟩ id := by
  rw [filterInputName, filterInputName, recordType_agree names here]

theorem actionText_agree (agree : Schema.AgreeOn known schema other)
    (within : exposed.Within known) :
    actionText ⟨options, schema.typeName?⟩ schema exposed.shape exposed.resource =
      actionText ⟨options, other.typeName?⟩ other exposed.shape exposed.resource := by
  have filter : filterInputName ⟨options, schema.typeName?⟩ exposed.shape.resourceId =
      filterInputName ⟨options, other.typeName?⟩ exposed.shape.resourceId :=
    filterInputName_agree agree.names within.id
  simp only [actionText, configRecord, commonFields, filterType, converterText, successArguments,
    convertedData, successData_agree agree within, filter,
    identityType_agree agree.names exposed.shape within.resource]

theorem validationText_agree (names : NameAlike known first second)
    (within : exposed.Within known) :
    validationText ⟨options, first⟩ exposed.shape exposed.resource =
      validationText ⟨options, second⟩ exposed.shape exposed.resource := by
  simp only [validationText, validationRecord, commonFields,
    identityType_agree names exposed.shape within.resource]

/-! ## Filters -/

theorem filterInput_agree (agree : Schema.AgreeOn known schema other) (allowed : List String)
    {id : String} (here : known id) (named : schema.resource? id = some resource) :
    filterInput ⟨options, schema.typeName?⟩ schema allowed resource =
      filterInput ⟨options, other.typeName?⟩ other allowed resource := by
  have within := agree.closed here named
  have own : filterInputName ⟨options, schema.typeName?⟩ resource.id =
      filterInputName ⟨options, other.typeName?⟩ resource.id := by
    rw [Schema.id_of_resource? named, filterInputName_agree agree.names here]
  have aggregates : aggregateFilter? schema resource = aggregateFilter? other resource := by
    funext aggregate
    rw [aggregateFilter?, aggregateFilter?, (Schema.aggregateType_agree agree within aggregate).1]
  have relationships : relationshipFilters ⟨options, schema.typeName?⟩ resource allowed =
      relationshipFilters ⟨options, other.typeName?⟩ resource allowed := by
    refine List.map_congr_left fun relationship listed => ?_
    have shown := List.mem_of_mem_filter (List.mem_of_mem_filter listed)
    rw [filterInputName_agree agree.names (within.destinations relationship shown)]
    rfl
  simp only [filterInput, aggregateFilters, own, aggregates, relationships]
  rfl

theorem filterTypesText_agree (agree : Schema.AgreeOn known schema other) {ids : List String}
    (here : ∀ id ∈ ids, known id) :
    filterTypesText ⟨options, schema.typeName?⟩ schema ids =
      filterTypesText ⟨options, other.typeName?⟩ other ids := by
  have inputs : filterInputs ⟨options, schema.typeName?⟩ schema ids =
      filterInputs ⟨options, other.typeName?⟩ other ids := by
    rw [filterInputs, filterInputs, ← (Schema.filterMap_resource?_agree agree here).1]
    refine List.map_congr_left fun resource found => ?_
    obtain ⟨id, listed, named⟩ := List.mem_filterMap.mp found
    exact filterInput_agree agree ids (here id listed) named
  rw [filterTypesText, filterTypesText, inputs]

/-! ## Typed queries -/

theorem selectedField_agree (agree : Schema.AgreeOn known schema other)
    (within : resource.Within known) (name : String) :
    selectedField ⟨options, schema.typeName?⟩ schema resource name =
      selectedField ⟨options, other.typeName?⟩ other resource name := by
  unfold selectedField
  cases stored : resource.storedField? name with
  | some field =>
    simp only [queryProperty, fieldType_agree agree.names (within.storedField? stored)]
  | none =>
    cases resource.aggregate? name with
    | some aggregate =>
      obtain ⟨same, inside⟩ := Schema.aggregateType_agree agree within aggregate
      simp only [queryProperty, ← same, valueType_agree agree.names inside]
    | none =>
      cases related : resource.relationship? name with
      | some relationship =>
        simp only [queryProperty, relatedType_agree agree.names (within.relationship? related)]
      | none => rfl

theorem selectedProperty_agree (agree : Schema.AgreeOn known schema other)
    (within : resource.Within known) (parent : String) (item : Selection) :
    selectedProperty ⟨options, schema.typeName?⟩ schema resource parent item =
      selectedProperty ⟨options, other.typeName?⟩ other resource parent item := by
  have related (name : String) :
      selectedRelationship ⟨options, schema.typeName?⟩ schema resource parent name =
        selectedRelationship ⟨options, other.typeName?⟩ other resource parent name := by
    rw [selectedRelationship, selectedRelationship,
      ← (Schema.destination?_agree agree within name).1]
    rfl
  cases item with
  | field name => simp only [selectedProperty, selectedField_agree agree within]
  | nested | unusable => simp only [selectedProperty, related]
  | stray => rfl

theorem selectedClass_agree (agree : Schema.AgreeOn known schema other)
    (within : resource.Within known) (name : String) (items : List Selection) :
    selectedClass ⟨options, schema.typeName?⟩ schema resource name items =
      selectedClass ⟨options, other.typeName?⟩ other resource name items := by
  rw [selectedClass, selectedClass, funext (selectedProperty_agree agree within name)]

mutual

theorem nestedClasses_agree (agree : Schema.AgreeOn known schema other) :
    ∀ (item : Selection) (resource : Resource) (parent : String), resource.Within known →
      nestedClasses ⟨options, schema.typeName?⟩ schema resource parent item =
        nestedClasses ⟨options, other.typeName?⟩ other resource parent item
  | .field _, _, _, _ | .stray _, _, _, _ => by rw [nestedClasses, nestedClasses]
  | .unusable key _, resource, _, within => by
    have same (name : String) := (Schema.destination?_agree agree within name).1
    rw [nestedClasses, nestedClasses]
    simp only [same]
  | .nested key inner, resource, parent, within => by
    rw [nestedClasses, nestedClasses]
    congr 1
    funext name
    obtain ⟨same, closed⟩ := Schema.destination?_agree agree within name
    rw [← same]
    cases led : schema.destination? resource name with
    | none => rfl
    | some pair =>
      have within := closed pair.1 pair.2 led
      simp only [selectedClass_agree agree within, nestedClassesOf_agree agree inner _ _ within]

theorem nestedClassesOf_agree (agree : Schema.AgreeOn known schema other) :
    ∀ (items : List Selection) (resource : Resource) (parent : String), resource.Within known →
      nestedClassesOf ⟨options, schema.typeName?⟩ schema resource parent items =
        nestedClassesOf ⟨options, other.typeName?⟩ other resource parent items
  | [], _, _, _ => by rw [nestedClassesOf, nestedClassesOf]
  | item :: rest, resource, parent, within => by
    rw [nestedClassesOf, nestedClassesOf, nestedClasses_agree agree item resource parent within,
      nestedClassesOf_agree agree rest resource parent within]

end

mutual

/-- The literal of a selection does not depend on the names of resources. -/
theorem itemLiteral_agree : ∀ item : Selection,
    itemLiteral ⟨options, first⟩ item = itemLiteral ⟨options, second⟩ item
  | .field _ => by
    rw [itemLiteral, itemLiteral]
    rfl
  | .unusable _ _ | .stray _ => by rw [itemLiteral, itemLiteral]
  | .nested key inner => by
    rw [itemLiteral, itemLiteral, itemLiterals_agree inner]
    rfl

theorem itemLiterals_agree : ∀ items : List Selection,
    itemLiterals ⟨options, first⟩ items = itemLiterals ⟨options, second⟩ items
  | [] => by rw [itemLiterals, itemLiterals]
  | item :: rest => by
    rw [itemLiterals, itemLiterals, itemLiteral_agree item, itemLiterals_agree rest]

end

theorem queryText_agree (agree : Schema.AgreeOn known schema other)
    (within : resource.Within known) (query : TypedQuery) :
    queryText ⟨options, schema.typeName?⟩ schema resource query =
      queryText ⟨options, other.typeName?⟩ other resource query := by
  have classes : queryClasses ⟨options, schema.typeName?⟩ schema resource query =
      queryClasses ⟨options, other.typeName?⟩ other resource query := by
    rw [queryClasses, queryClasses, selectedClass_agree agree within,
      nestedClassesOf_agree agree _ resource _ within]
  have literal : selectionLiteral ⟨options, schema.typeName?⟩ query =
      selectionLiteral ⟨options, other.typeName?⟩ query := by
    rw [selectionLiteral, selectionLiteral, itemLiterals_agree]
  rw [queryText, queryText, classes, literal]

theorem typedQueriesText_agree (alike : Schema.ExposeAlike known schema other) :
    typedQueriesText ⟨options, schema.typeName?⟩ schema =
      typedQueriesText ⟨options, other.typeName?⟩ other := by
  obtain ⟨same, within⟩ := Schema.queriedResources_agree alike
  have sections : ∀ queried ∈ schema.queriedResources,
      resourceQueriesText ⟨options, schema.typeName?⟩ schema queried.1 queried.2 =
        resourceQueriesText ⟨options, other.typeName?⟩ other queried.1 queried.2 := by
    intro queried listed
    rw [resourceQueriesText, resourceQueriesText,
      funext (queryText_agree alike.toAgreeOn (within queried listed))]
  rw [typedQueriesText, typedQueriesText, ← same, mapM_congr sections]

end Typing

/-! ## Whole clients -/

namespace Plan

variable {plan : Plan}

/-- Whether what has been planned names ids of some set only. -/
structure Within (known : String → Prop) (plan : Plan) : Prop where
  exposed : ∀ exposed ∈ plan.exposed, exposed.Within known
  discovered : Discovery.Inside known plan.discovered
  reached : ∀ id ∈ plan.discovered.allResources, known id

theorem within_make (alike : Schema.ExposeAlike known schema other)
    (made : Plan.make schema options = .ok plan) : plan.Within known := by
  obtain ⟨-, inside, reached⟩ := Schema.discovery_agree alike
  refine ⟨?_, ?_, ?_⟩
  · rw [exposed_eq made]
    exact (Schema.exposedActions_agree alike).2
  · rwa [discovered_eq made]
  · rwa [discovered_eq made]

theorem recordsText_agree (agree : Schema.AgreeOn known schema other) {ids : List String}
    (here : ∀ id ∈ ids, known id) :
    recordsText schema ⟨options, schema.typeName?⟩ ids =
      recordsText other ⟨options, other.typeName?⟩ ids := by
  obtain ⟨same, within⟩ := Schema.filterMap_resource?_agree agree here
  have records : ∀ resource ∈ ids.filterMap schema.resource?,
      (Typing.record ⟨options, schema.typeName?⟩ resource).text =
        (Typing.record ⟨options, other.typeName?⟩ resource).text := by
    intro resource found
    rw [Typing.record_agree agree.names (within resource found)]
  rw [recordsText, recordsText, ← same, List.map_congr_left records]

theorem unionsText_agree (names : NameAlike known first second) (within : plan.Within known)
    (kept : plan.discovered.Catalogued) :
    plan.unionsText ⟨options, first⟩ = plan.unionsText ⟨options, second⟩ := by
  have unions : ∀ union ∈ plan.discovered.unions,
      (Typing.union ⟨options, first⟩ union).text = (Typing.union ⟨options, second⟩ union).text := by
    intro union listed
    have occurs := mem_unionOccurrences_of_mem_unions kept listed
    rw [Typing.union_agree names (within.discovered.members union occurs)]
  rw [unionsText, unionsText, List.map_congr_left unions]

/-- What is written for the shapes of a plan is written for its exposed actions. -/
theorem forall_mem_shapes {p : ActionShape → Prop} :
    (∀ shape ∈ plan.shapes, p shape) ↔ ∀ exposed ∈ plan.exposed, p exposed.shape :=
  List.forall_mem_map

theorem paginationText_agree (names : NameAlike known first second) (within : plan.Within known) :
    plan.paginationText ⟨options, first⟩ = plan.paginationText ⟨options, second⟩ := by
  have pages : ∀ shape ∈ plan.shapes, Typing.pageResultText ⟨options, first⟩ shape =
      Typing.pageResultText ⟨options, second⟩ shape :=
    forall_mem_shapes.mpr fun exposed listed =>
      Typing.pageResultText_agree names (within.exposed exposed listed)
  rw [paginationText, paginationText, List.map_congr_left pages]

theorem inputsText_agree (names : NameAlike known first second) (within : plan.Within known) :
    plan.inputsText ⟨options, first⟩ = plan.inputsText ⟨options, second⟩ := by
  have inputs : ∀ shape ∈ plan.shapes, Typing.inputText ⟨options, first⟩ shape =
      Typing.inputText ⟨options, second⟩ shape :=
    forall_mem_shapes.mpr fun exposed listed =>
      Typing.inputText_agree names (within.exposed exposed listed)
  rw [inputsText, inputsText, mapM_congr inputs]

theorem validationsText_agree (names : NameAlike known first second)
    (within : plan.Within known) :
    plan.validationsText ⟨options, first⟩ = plan.validationsText ⟨options, second⟩ := by
  have validations : ∀ exposed ∈ plan.exposed.filter (·.shape.supportsValidation),
      Typing.validationText ⟨options, first⟩ exposed.shape exposed.resource =
        Typing.validationText ⟨options, second⟩ exposed.shape exposed.resource :=
    fun exposed listed => Typing.validationText_agree names
      (within.exposed exposed (List.mem_of_mem_filter listed))
  rw [validationsText, validationsText, List.map_congr_left validations]

/-- **Every section is the same for both schemas.** -/
theorem sections_agree (alike : Schema.ExposeAlike known schema other)
    (made : Plan.make schema options = .ok plan) :
    plan.sections schema (.ofSchema schema options) =
      plan.sections other (.ofSchema other options) := by
  have agree := alike.toAgreeOn
  have names := agree.names
  have within := within_make alike made
  have resources : ∀ id ∈ plan.discovered.resources, known id :=
    fun id listed => within.reached id (List.mem_append_left _ listed)
  have embedded : ∀ id ∈ plan.discovered.embedded, known id :=
    fun id listed => within.reached id (List.mem_append_right _ listed)
  have metadata : plan.shapes.map (Typing.metadataText ⟨options, schema.typeName?⟩) =
      plan.shapes.map (Typing.metadataText ⟨options, other.typeName?⟩) :=
    List.map_congr_left (forall_mem_shapes.mpr fun exposed listed =>
      Typing.metadataText_agree names (within.exposed exposed listed))
  have results : plan.shapes.map (Typing.resultText ⟨options, schema.typeName?⟩ schema) =
      plan.shapes.map (Typing.resultText ⟨options, other.typeName?⟩ other) :=
    List.map_congr_left (forall_mem_shapes.mpr fun exposed listed =>
      Typing.resultText_agree agree (within.exposed exposed listed))
  have actions : (plan.exposed.map fun exposed =>
        Typing.actionText ⟨options, schema.typeName?⟩ schema exposed.shape exposed.resource) =
      plan.exposed.map fun exposed =>
        Typing.actionText ⟨options, other.typeName?⟩ other exposed.shape exposed.resource :=
    List.map_congr_left fun exposed listed =>
      Typing.actionText_agree agree (within.exposed exposed listed)
  simp only [sections, Typing.ofSchema, recordsText_agree agree resources,
    recordsText_agree agree embedded, unionsText_agree names within (catalogued made),
    paginationText_agree names within, metadata, results, inputsText_agree names within,
    Typing.filterTypesText_agree agree resources, Typing.typedQueriesText_agree alike, actions,
    validationsText_agree names within]
  rfl

end Plan

/-- How work goes on matters for the result of its first step only. -/
theorem Logged.bind_congr_result {α β : Type} {work : Logged α} {f g : α → Logged β}
    (same : ∀ a, work.result = .ok a → f a = g a) : work >>= f = work >>= g := by
  obtain ⟨log, result⟩ := work
  cases result with
  | error breakdown => rfl
  | ok a =>
    simp only [bind, andThen, same a rfl]

/-- **The client of both schemas is the same**, and so is what is logged on the way. -/
theorem generate_agree (alike : Schema.ExposeAlike known schema other)
    (app : schema.app = other.app) : generate schema options = generate other options := by
  rw [generate, generate, ← Plan.make_agree alike options]
  refine Logged.bind_congr_result fun plan made => ?_
  have rendered : plan.render schema options = plan.render other options := by
    rw [Plan.render, Plan.render, Plan.clientText, Plan.clientText,
      Plan.sections_agree alike made, app]
  rw [rendered]

end TypedRpc
