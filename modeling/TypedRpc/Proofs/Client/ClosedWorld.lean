import TypedRpc.Client.Input
import TypedRpc.Proofs.Client.Plan

/-!
# The types that a client mentions are declared

A traversal names a union after the value that holds it, and so does, for itself, whoever writes the
type of that value.  In a plan without faults the two agree wherever a client mentions a type: what
is written for a reference is the name of a record that is rendered, and what is written for a union
is the name of a union that is rendered.

* `TypeRef.Shows`: an expression that shows a name inside the arrays of a type.
* `Closed`: what an expression for a type may show.
* `closed_of_held`: an expression is closed where the traversal has found what its type holds.
* `ClosedWorld`, `plan_closedWorld`: the statement about everything that a client mentions.

As in a traversal, the empty id does not count where a struct says what it is an instance of;
`empty_instance_open` shows a schema where this makes a difference.
-/

namespace TypedRpc

open Target (TypeExpr Property)

/-! ## Inside arrays -/

namespace TypeRef

/-- The type inside any number of arrays. -/
def core : TypeRef → TypeRef
  | .array item _ => item.core
  | type => type

/-- An expression inside as many lists as a type has arrays around it. -/
def inLists : TypeRef → TypeExpr → TypeExpr
  | .array item _, shown => .list (item.inLists shown)
  | _, shown => shown

/-- Whether an expression shows a name inside the arrays of a type.  It may admit null. -/
def Shows (type : TypeRef) (expression : TypeExpr) (name : String) : Prop :=
  expression = type.inLists (.named name) ∨ expression = .nullable (type.inLists (.named name))

end TypeRef

/-- The type of what a relationship leads to. -/
def Relationship.type (relationship : Relationship) : TypeRef :=
  match relationship.cardinality with
  | .one => .resource relationship.destination
  | .many => .array (.resource relationship.destination) {}

theorem Relationship.core_type (relationship : Relationship) :
    relationship.type.core = .resource relationship.destination := by
  unfold Relationship.type
  cases relationship.cardinality <;> rfl

/-- Whether an expression shows the record of an id, which is rendered. -/
def ShowsRecord (schema : Schema) (found : Discovery) (type : TypeRef) (expression : TypeExpr)
    (id : String) : Prop :=
  ∃ record ∈ found.records schema, record.id = id ∧ type.Shows expression record.declaredTypeName

/-- Whether an expression for the type of a value is closed.  References, and structs that are
instances of a resource, show a record that is rendered; unions show a union that is rendered, or
the open type when neither they nor their owners have names. -/
def Closed (counts : String → Prop) (schema : Schema) (found : Discovery) (owner : String)
    (type : TypeRef) (expression : TypeExpr) : Prop :=
  match type.core with
  | .resource id => ShowsRecord schema found type expression id
  | .struct _ _ (some id) _ =>
    counts id → (schema.resource? id).isSome → ShowsRecord schema found type expression id
  | .union _ name =>
    (∃ union ∈ found.unions, type.Shows expression union.name) ∨
      owner = "" ∧ given? name = none ∧ type.Shows expression "Any"
  | _ => True

/-! ## What types hold -/

namespace Discovery

variable {schema : Schema}

/-- Whether everything that some findings hold has been found. -/
def Holds (found : Discovery) (held : List Finding) : Prop :=
  ∀ finding ∈ held, finding ∈ found.findings

theorem Holds.mono {found : Discovery} {held others : List Finding} (h : found.Holds others)
    (inside : ∀ finding ∈ held, finding ∈ others) : found.Holds held :=
  fun finding listed => h finding (inside finding listed)

theorem typeFindings_core (type : TypeRef) (owner : String) :
    typeFindings schema owner type.core = typeFindings schema owner type := by
  induction type using TypeRef.core.induct with
  | case1 item constraints ih => rw [TypeRef.core, typeFindings, ih]
  | case2 type notArray => cases type <;> simp_all [TypeRef.core]

end Discovery

/-! ## What is written for types -/

namespace Typing

variable {typing : Typing}

theorem typeOf_eq (plain : typing.options.typeOverrides = []) (owner : Option String)
    (type : TypeRef) :
    typing.typeOf owner type = type.inLists (typing.typeOf owner type.core) := by
  have none (other : TypeRef) : typing.options.overrideOf? other = none := by
    simp [Options.overrideOf?, plain]
  induction type using TypeRef.core.induct with
  | case1 item constraints ih =>
    rw [typeOf, none, TypeRef.core, TypeRef.inLists, ← ih]
  | case2 type notArray => cases type <;> simp_all [TypeRef.core, TypeRef.inLists]

theorem typeOf_resource (plain : typing.options.typeOverrides = []) (owner : Option String)
    (id : String) : typing.typeOf owner (.resource id) = .named (typing.resourceName id) := by
  simp [typeOf, Options.overrideOf?, plain]

theorem typeOf_instance (plain : typing.options.typeOverrides = []) (owner : Option String)
    (container : Container) (fields : List FieldSpec) (renames : Renames) {id : String}
    (known : Discovery.NotEmpty id) :
    typing.typeOf owner (.struct container fields (some id) renames) =
      .named (typing.resourceName id) := by
  have given : given? (some id) = some id := Discovery.given?_eq_some.mpr ⟨rfl, known⟩
  simp [typeOf, structType, Options.overrideOf?, plain, given]

/-- What is written for a union is the name that a traversal gives it, or the open type when neither
it nor its owner has a name. -/
theorem typeOf_union (plain : typing.options.typeOverrides = []) (owner : String)
    (members : List (String × TypeRef)) (name : Option String) :
    typing.typeOf (some owner) (.union members name) = .named (Discovery.unionName owner name) ∨
      owner = "" ∧ given? name = none ∧
        typing.typeOf (some owner) (.union members name) = .named "Any" := by
  have written : typing.typeOf (some owner) (.union members name) =
      ((unionName? (some owner) name).map TypeExpr.named).getD Target.anyType := by
    simp [typeOf, Options.overrideOf?, plain]
  rw [written, unionName?, Discovery.unionName]
  cases given? name with
  | some own => exact .inl rfl
  | none =>
    by_cases empty : owner = ""
    · subst empty
      exact .inr ⟨rfl, rfl, rfl⟩
    · have given : given? (some owner) = some owner :=
        Discovery.given?_eq_some.mpr ⟨rfl, empty⟩
      rw [given]
      exact .inl rfl

end Typing

/-! ## Single expressions -/

section Expressions

open Discovery (NotEmpty Holds typeFindings)

variable {schema : Schema} {options : Options}

/-- What a found reference names is rendered. -/
theorem Schema.rendered_of_found {id : String} {record : Resource}
    (found : .reference id ∈ schema.discovery.findings)
    (named : schema.resource? id = some record) : record ∈ schema.discovery.records schema := by
  have met : id ∈ Discovery.metIds schema.exposedResourceIds schema.discovery :=
    List.mem_append_right _ (Discovery.reference_mem_findings.mp found)
  have visited : id ∈ schema.discovery.visited :=
    Discovery.mem_visited_iff_met.mpr ⟨met, by rw [named]; rfl⟩
  exact List.mem_filterMap.mpr ⟨id, Discovery.mem_allResources_discover.mpr visited, named⟩

/-- An expression with the name that a found reference stands for shows a record that is
rendered. -/
theorem showsRecord_of_reference {type : TypeRef} {expression : TypeExpr} {id : String}
    (known : ∀ reference ∈ schema.discovery.references, (schema.resource? reference.id).isSome)
    (found : .reference id ∈ schema.discovery.findings)
    (written : type.Shows expression ((Typing.ofSchema schema options).resourceName id)) :
    ShowsRecord schema schema.discovery type expression id := by
  obtain ⟨reference, noted, rfl⟩ := List.mem_map.mp (Discovery.reference_mem_findings.mp found)
  obtain ⟨record, named⟩ := Option.isSome_iff_exists.mp (known reference noted)
  have name_eq : (Typing.ofSchema schema options).resourceName reference.id =
      record.declaredTypeName := by
    simp [Typing.resourceName, Typing.ofSchema, Schema.typeName?, named]
  rw [name_eq] at written
  exact ⟨record, Schema.rendered_of_found found named, Schema.id_of_resource? named, written⟩

/-- **An expression is closed where the traversal has found what its type holds.** -/
theorem closed_of_held {owner : String} {type : TypeRef} {expression : TypeExpr}
    (plain : options.typeOverrides = [])
    (known : ∀ reference ∈ schema.discovery.references, (schema.resource? reference.id).isSome)
    (held : schema.discovery.Holds (typeFindings schema owner type))
    (written : expression = (Typing.ofSchema schema options).typeOf (some owner) type ∨
      expression = .nullable ((Typing.ofSchema schema options).typeOf (some owner) type)) :
    Closed NotEmpty schema schema.discovery owner type expression := by
  have plain' : (Typing.ofSchema schema options).options.typeOverrides = [] := plain
  rw [Typing.typeOf_eq plain'] at written
  rw [← Discovery.typeFindings_core] at held
  unfold Closed
  cases core : type.core with
  | primitive | array | enum | unknown => trivial
  | resource id =>
    rw [core] at held written
    have found : .reference id ∈ schema.discovery.findings :=
      held _ (by simp [typeFindings])
    rw [Typing.typeOf_resource plain'] at written
    exact showsRecord_of_reference known found written
  | struct container fields instanceOf renames =>
    rw [core] at held written
    cases instanceOf with
    | none => trivial
    | some id =>
      intro counts existing
      have found : .reference id ∈ schema.discovery.findings := by
        refine held _ ?_
        rw [typeFindings, List.mem_append, Discovery.reference_mem_instanceFindings]
        exact .inl ⟨rfl, counts, existing⟩
      rw [Typing.typeOf_instance plain' _ _ _ _ counts] at written
      exact showsRecord_of_reference known found written
  | union members name =>
    rw [core] at held written
    have found : .union (Discovery.unionName owner name) members ∈ schema.discovery.findings :=
      held _ (by simp [typeFindings])
    obtain ⟨union, occurs, name_eq, -⟩ := Discovery.union_mem_findings.mp found
    obtain ⟨first, listed, first_name, -⟩ := exists_union? (Discovery.catalogued_discover ..) occurs
    rcases Typing.typeOf_union plain' owner members name with shown | ⟨empty, undeclared, shown⟩
    · rw [shown, ← name_eq, ← first_name] at written
      exact .inl ⟨first, listed, written⟩
    · rw [shown] at written
      exact .inr ⟨empty, undeclared, written⟩

end Expressions

/-! ## What a traversal of a schema has found -/

namespace Schema

variable {schema : Schema}

/-- What a rendered record holds has been found. -/
theorem holds_of_record {record : Resource} (reached : record ∈ schema.discovery.records schema) :
    schema.discovery.Holds (Discovery.resourceFindings schema record) := by
  intro finding held
  obtain ⟨id, listed, named⟩ := List.mem_filterMap.mp reached
  refine Discovery.mem_findings_discover.mpr (.inr (Discovery.mem_visitFindings.mpr ?_))
  exact ⟨id, Discovery.mem_allResources_discover.mp listed, record, named, held⟩

/-- What the type of a public attribute of a rendered record holds has been found. -/
theorem holds_of_attribute {record : Resource} (reached : record ∈ schema.discovery.records schema)
    {stored : Attribute} (shown : stored ∈ record.publicAttributes) :
    schema.discovery.Holds (Discovery.typeFindings schema stored.name stored.type) := by
  refine (holds_of_record reached).mono fun finding held => ?_
  simp only [Discovery.resourceFindings, List.mem_append, List.mem_flatMap]
  exact .inl (.inl (.inl ⟨stored, shown, held⟩))

/-- Where a public relationship of a rendered record leads has been found. -/
theorem found_of_relationship {record : Resource}
    (reached : record ∈ schema.discovery.records schema) {relationship : Relationship}
    (shown : relationship ∈ record.publicRelationships) :
    .reference relationship.destination ∈ schema.discovery.findings := by
  refine holds_of_record reached _ ?_
  simp only [Discovery.resourceFindings, List.mem_append, List.mem_map]
  exact .inr ⟨relationship, shown, rfl⟩

/-- What a member of a rendered union holds has been found. -/
theorem holds_of_member {union : UnionDef} (listed : union ∈ schema.discovery.unions)
    {tag : String} {member : TypeRef} (inside : (tag, member) ∈ union.members) :
    schema.discovery.Holds (Discovery.typeFindings schema tag member) := by
  intro finding held
  have occurs := mem_unionOccurrences_of_mem_unions (Discovery.catalogued_discover ..) listed
  have found : .union union.name union.members ∈ schema.discovery.findings :=
    Discovery.union_mem_findings.mpr ⟨union, occurs, rfl, rfl⟩
  refine Discovery.memberFindings_subset_findings found finding ?_
  rw [Discovery.memberFindings_eq_flatMap]
  exact List.mem_flatMap.mpr ⟨_, inside, held⟩

/-- What a field of a struct holds that is a member of a rendered union has been found. -/
theorem holds_of_structField {union : UnionDef} (listed : union ∈ schema.discovery.unions)
    {tag : String} {container : Container} {fields : List FieldSpec} {instanceOf : Option String}
    {renames : Renames}
    (inside : (tag, .struct container fields instanceOf renames) ∈ union.members)
    {field : FieldSpec} (held : field ∈ fields) :
    schema.discovery.Holds (Discovery.typeFindings schema field.name field.type) := by
  refine (holds_of_member listed inside).mono fun finding noted => ?_
  rw [Discovery.typeFindings, List.mem_append, Discovery.fieldFindings_eq_flatMap]
  exact .inr (List.mem_flatMap.mpr ⟨field, held, noted⟩)

/-- What the types hold that an exposed action mentions has been found. -/
theorem holds_of_root {exposed : ExposedAction} (listed : exposed ∈ schema.exposedActions)
    {root : TypeRoot} (mentioned : root ∈ exposed.roots) :
    schema.discovery.Holds (Discovery.typeFindings schema root.owner root.type) := by
  intro finding held
  refine Discovery.mem_findings_discover.mpr (.inl (List.mem_flatMap.mpr ?_))
  exact ⟨root, List.mem_flatMap.mpr ⟨exposed, listed, mentioned⟩, held⟩

theorem holds_of_argument {exposed : ExposedAction} (listed : exposed ∈ schema.exposedActions)
    {argument : Argument} (shown : argument ∈ exposed.action.publicArguments) :
    schema.discovery.Holds (Discovery.typeFindings schema argument.name argument.type) := by
  have mentioned : TypeRoot.mk argument.name argument.type
      ([exposed.resource.shortName, exposed.rpcAction.name] ++ [argument.name]) ∈
        exposed.roots := by
    simp only [ExposedAction.roots, List.mem_append, List.mem_map]
    exact .inl (.inl ⟨argument, shown, rfl⟩)
  exact holds_of_root listed mentioned

theorem holds_of_return {exposed : ExposedAction} (listed : exposed ∈ schema.exposedActions)
    (generic : exposed.action.kind = .generic) {type : TypeRef}
    (returned : exposed.action.returns = some type) :
    schema.discovery.Holds (Discovery.typeFindings schema exposed.rpcAction.name type) := by
  have mentioned : TypeRoot.mk exposed.rpcAction.name type
      ([exposed.resource.shortName, exposed.rpcAction.name] ++ ["returns"]) ∈ exposed.roots := by
    simp only [ExposedAction.roots, List.mem_append]
    refine .inl (.inr ?_)
    rw [returnRoots, generic, returned]
    exact List.mem_singleton.mpr rfl
  exact holds_of_root listed mentioned

theorem holds_of_metadata {exposed : ExposedAction} (listed : exposed ∈ schema.exposedActions)
    {field : FieldSpec} (shown : field ∈ exposed.shape.metadata) :
    schema.discovery.Holds (Discovery.typeFindings schema field.name field.type) := by
  have mentioned : TypeRoot.mk field.name field.type
      ([exposed.resource.shortName, exposed.rpcAction.name] ++ [field.name]) ∈ exposed.roots := by
    simp only [ExposedAction.roots, List.mem_append, List.mem_map]
    exact .inr ⟨field, shown, rfl⟩
  exact holds_of_root listed mentioned

/-- The type that an exposed generic action returns is found again by the names in its shape. -/
theorem returnType?_shape {exposed : ExposedAction} (listed : exposed ∈ schema.exposedActions) :
    Typing.returnType? schema exposed.shape = exposed.action.returns := by
  obtain ⟨entry, -, named, -, chosen⟩ := mem_exposedActions_iff.mp listed
  have action_name : exposed.action.name = exposed.rpcAction.action := by
    simpa using List.find?_some chosen
  have named' : schema.resource? exposed.shape.resourceId = some exposed.resource := by
    rw [← named]
    exact congrArg schema.resource? (id_of_resource? named)
  have chosen' : exposed.resource.action? exposed.shape.actionName = some exposed.action := by
    rw [← chosen, ← action_name]
    rfl
  simp [Typing.returnType?, named', chosen']

end Schema

/-! ## The types of properties -/

namespace Target

/-- A type that admits null already is not made to admit it again. -/
theorem orNull_nullable (type : TypeExpr) : (TypeExpr.nullable type).orNull = .nullable type := by
  have admits : (TypeExpr.nullable type).admitsNull := by
    simp [TypeExpr.admitsNull, TypeExpr.text]
  rw [TypeExpr.orNull, if_pos admits]

theorem orNull_eq (type : TypeExpr) : type.orNull = type ∨ type.orNull = .nullable type := by
  unfold TypeExpr.orNull
  split
  · exact .inl rfl
  · exact .inr rfl

end Target

namespace Typing

variable {typing : Typing}

theorem valueType_eq (name : String) (type : TypeRef) (nullable : Bool) :
    typing.valueType name type nullable = typing.typeOf (some name) type ∨
      typing.valueType name type nullable = .nullable (typing.typeOf (some name) type) := by
  cases nullable
  · exact .inl rfl
  · exact .inr rfl

/-- A property for a field has the type of the field, which may admit null. -/
theorem property_type (field : FieldSpec) {source : SourceField}
    (type_eq : source.type = typing.fieldType field)
    (nullable_eq : source.nullable = field.nullable) (options : Options)
    (format : Naming.WireFormat) :
    (source.property options format).type = typing.typeOf (some field.name) field.type ∨
      (source.property options format).type =
        .nullable (typing.typeOf (some field.name) field.type) := by
  rw [SourceField.property, type_eq, nullable_eq, fieldType]
  cases nullable : field.nullable with
  | false => exact .inl rfl
  | true => exact .inr (Target.orNull_nullable _)

/-- A property for a relationship has the type of what it leads to, which may admit null. -/
theorem relationshipProperty_type (typing : Typing) (resource : Resource)
    (relationship : Relationship) :
    (typing.relationshipProperty resource relationship).type =
        relationship.type.inLists (typing.recordType relationship.destination) ∨
      (typing.relationshipProperty resource relationship).type =
        .nullable (relationship.type.inLists (typing.recordType relationship.destination)) := by
  have related : relationship.type.inLists (typing.recordType relationship.destination) =
      typing.relatedType relationship.destination relationship.cardinality := by
    unfold Relationship.type
    cases relationship.cardinality <;> rfl
  rw [related]
  exact Target.orNull_eq _

/-- A generic action answers with what it returns, unless that is built on the open type. -/
theorem successData_of_generic {schema : Schema} {exposed : ExposedAction}
    (listed : exposed ∈ schema.exposedActions) (generic : exposed.action.kind = .generic)
    {type : TypeRef} (returned : exposed.action.returns = some type) :
    typing.successData schema exposed.shape =
      if isUndecodable (typing.valueType exposed.rpcAction.name type true) then untypedData
      else typing.valueType exposed.rpcAction.name type true := by
  have kind_eq : exposed.shape.kind = .generic := generic
  have name_eq : exposed.shape.rpcName = exposed.rpcAction.name := rfl
  simp only [successData, kind_eq, Schema.returnType?_shape listed, returned, name_eq]

end Typing

/-- The property for a relationship is closed where the traversal has found where it leads. -/
theorem closed_of_relationship {schema : Schema} {options : Options} {record : Resource}
    {relationship : Relationship} (plain : options.typeOverrides = [])
    (known : ∀ reference ∈ schema.discovery.references, (schema.resource? reference.id).isSome)
    (found : .reference relationship.destination ∈ schema.discovery.findings) :
    Closed Discovery.NotEmpty schema schema.discovery relationship.name relationship.type
      ((Typing.ofSchema schema options).relationshipProperty record relationship).type := by
  have written :=
    Typing.relationshipProperty_type (Typing.ofSchema schema options) record relationship
  rw [Typing.recordType, Typing.typeOf_resource plain] at written
  rw [Closed, relationship.core_type]
  exact showsRecord_of_reference known found written

/-! ## The closed world -/

/-- **Whether every type that a client mentions is declared.**  That is said of the public
attributes and relationships of the rendered records, of the members of the rendered unions and the
fields of those that are structs, and of the public arguments, the returned types and the metadata
of the exposed actions. -/
structure ClosedWorld (counts : String → Prop) (schema : Schema) (typing : Typing) (plan : Plan) :
    Prop where
  attributes : ∀ record ∈ plan.discovered.records schema, ∀ stored ∈ record.publicAttributes,
    Closed counts schema plan.discovered stored.name stored.type
      (typing.attributeProperty record stored).type
  relationships : ∀ record ∈ plan.discovered.records schema,
    ∀ relationship ∈ record.publicRelationships,
      Closed counts schema plan.discovered relationship.name relationship.type
        (typing.relationshipProperty record relationship).type
  members : ∀ union ∈ plan.discovered.unions, ∀ tag member, (tag, member) ∈ union.members →
    Closed counts schema plan.discovered tag member (typing.valueProperty tag member).type
  structFields : ∀ union ∈ plan.discovered.unions, ∀ tag container fields instanceOf renames,
    (tag, .struct container fields instanceOf renames) ∈ union.members → ∀ field ∈ fields,
      Closed counts schema plan.discovered field.name field.type
        (typing.structFieldProperty renames field).type
  arguments : ∀ exposed ∈ plan.exposed, ∀ argument ∈ exposed.action.publicArguments,
    ∀ annotations, Closed counts schema plan.discovered argument.name argument.type
      (typing.inputProperty exposed.shape annotations argument.toField).type
  /-- A type that is built on the open one may be shown as raw data instead. -/
  returns : ∀ exposed ∈ plan.exposed, ∀ type, exposed.action.kind = .generic →
    exposed.action.returns = some type →
      let data := typing.valueType exposed.rpcAction.name type true
      Closed counts schema plan.discovered exposed.rpcAction.name type data ∧
        (Typing.isUndecodable data = false → typing.successData schema exposed.shape = data)
  metadata : ∀ exposed ∈ plan.exposed, ∀ field ∈ exposed.shape.metadata,
    Closed counts schema plan.discovered field.name field.type
      (typing.metadataProperty exposed.shape field).type

/-- **The types that a client mentions are declared**, in a plan without faults and with options
that do not override any types. -/
theorem plan_closedWorld {schema : Schema} {options : Options} {plan : Plan}
    (made : Plan.make schema options = .ok plan) (clean : plan.verification.faults = [])
    (plain : options.typeOverrides = []) :
    ClosedWorld Discovery.NotEmpty schema (Typing.ofSchema schema options) plan := by
  have known : ∀ reference ∈ schema.discovery.references, (schema.resource? reference.id).isSome :=
    (rpcConfigFaults_eq_nil_iff.mp (Plan.rpcConfigFaults_eq made clean)).2.2
  have exposed_eq := Plan.exposed_eq made
  have discovered_eq := Plan.discovered_eq made
  constructor
  case attributes =>
    rw [discovered_eq]
    intro record reached stored shown
    exact closed_of_held plain known (Schema.holds_of_attribute reached shown)
      (Typing.property_type _ rfl rfl _ _)
  case relationships =>
    rw [discovered_eq]
    intro record reached relationship shown
    exact closed_of_relationship plain known (Schema.found_of_relationship reached shown)
  case members =>
    rw [discovered_eq]
    intro union listed tag member inside
    exact closed_of_held plain known (Schema.holds_of_member listed inside)
      (Typing.valueType_eq tag member false)
  case structFields =>
    rw [discovered_eq]
    intro union listed tag container fields instanceOf renames inside field held
    exact closed_of_held plain known (Schema.holds_of_structField listed inside held)
      (Typing.property_type _ rfl rfl _ _)
  case arguments =>
    rw [discovered_eq, exposed_eq]
    intro exposed listed argument shown annotations
    exact closed_of_held plain known (Schema.holds_of_argument listed shown)
      (Typing.property_type argument.toField rfl rfl _ _)
  case returns =>
    rw [discovered_eq, exposed_eq]
    intro exposed listed type generic returned
    refine ⟨closed_of_held plain known (Schema.holds_of_return listed generic returned)
      (Typing.valueType_eq exposed.rpcAction.name type true), fun decodable => ?_⟩
    rw [Typing.successData_of_generic listed generic returned, decodable,
      if_neg Bool.false_ne_true]
  case metadata =>
    rw [discovered_eq, exposed_eq]
    intro exposed listed field shown
    exact closed_of_held plain known (Schema.holds_of_metadata listed shown)
      (Typing.property_type _ rfl rfl _ _)

/-- Notes with a body that may quote another note, and a search for the people who wrote about
something. -/
def noteSearchSchema : Schema where
  resources := [
    { id := "Note"
      attributes := [
        { name := "author", type := .struct .map [] (some "Person") [] },
        { name := "body"
          type := .union [
            ("plain", .primitive .string {}),
            ("quote", .struct .map [{ name := "source", type := .resource "Note" }] none [])]
            none }]
      relationships := [{ name := "replies", kind := .hasMany, destination := "Note" }]
      actions := [{
        name := "search"
        kind := .generic
        arguments := [{
          name := "words"
          type := .array (.union [("exact", .primitive .string {})] none) {} }]
        metadata := [{ name := "first", type := .resource "Note" }]
        returns := some (.array (.resource "Person") {}) }] },
    { id := "Person", typeName := some "Writer" }]
  domains := [{
    name := "Main"
    rpc := [{ resource := "Note", actions := [{ name := "search_notes", action := "search" }] }] }]

/-- The types that a client for notes mentions. -/
theorem noteSearch_closedWorld :
    ∃ plan, Plan.make noteSearchSchema {} = .ok plan ∧ plan.verification.faults = [] ∧
      ({} : Options).typeOverrides = [] ∧
      ClosedWorld Discovery.NotEmpty noteSearchSchema (Typing.ofSchema noteSearchSchema {})
        plan := by
  have evaluated :
      (Plan.make noteSearchSchema {}).toOption.map (·.verification.faults) = some [] := by
    cbv
  obtain ⟨plan, made, clean⟩ := Plan.exists_of_evaluated evaluated
  exact ⟨plan, made, clean, rfl, plan_closedWorld made clean rfl⟩

/-- A resource that clients may read and that shows an instance of the empty id. -/
def openInstanceSchema : Schema where
  resources := [
    { id := "A"
      attributes := [{ name := "s", type := .struct .map [] (some "") [] }]
      actions := [{ name := "read", kind := .read }] },
    { id := "", typeName := some "Blank" }]
  domains := [{
    name := "Main"
    rpc := [{ resource := "A", actions := [{ name := "list_a", action := "read" }] }] }]

/-- An instance of the empty id does not show the record of the resource with that id. -/
theorem empty_instance_open :
    ¬ ∀ (schema : Schema) (options : Options) (plan : Plan),
      Plan.make schema options = .ok plan → plan.verification.faults = [] →
        options.typeOverrides = [] →
          ClosedWorld (fun _ => True) schema (Typing.ofSchema schema options) plan := by
  intro claimed
  have evaluated :
      (Plan.make openInstanceSchema {}).toOption.map (·.verification.faults) = some [] := by
    cbv
  obtain ⟨plan, made, clean⟩ := Plan.exists_of_evaluated evaluated
  have world := claimed openInstanceSchema {} plan made clean rfl
  have reached : plan.discovered.allResources = ["A"] := by
    rw [Plan.discovered_eq made]
    cbv
  have records_eq : ∃ record, plan.discovered.records openInstanceSchema = [record] ∧
      record.id = "A" ∧
      { name := "s", type := .struct .map [] (some "") [] } ∈ record.publicAttributes := by
    rw [Discovery.records, reached]
    exact ⟨_, rfl, rfl, List.mem_singleton.mpr rfl⟩
  obtain ⟨record, only, id_eq, shown⟩ := records_eq
  have closed := world.attributes record (by simp [only]) _ shown
  -- what would have to be shown is the record of the empty id, and the only one rendered is not it
  obtain ⟨other, rendered, empty, -⟩ := closed trivial rfl
  rw [only, List.mem_singleton] at rendered
  rw [rendered, id_eq] at empty
  exact absurd empty (by decide)

end TypedRpc
