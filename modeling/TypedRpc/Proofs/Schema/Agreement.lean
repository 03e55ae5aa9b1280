import TypedRpc.Action.Exposed
import TypedRpc.Client.TypedQuery
import TypedRpc.Proofs.Discovery.Graph
import TypedRpc.Schema.Walk

/-!
# Schemas that agree on some resources

A schema is looked at by following ids from what it exposes.  Where two schemas give the same
resource for each id of some set, and those resources name ids of the set only, whoever begins with
ids of the set cannot tell the schemas apart.

* `TypeRef.Within`, `Resource.Within`: a type or a resource names ids of the set only.
* `Schema.AgreeOn`: two schemas agree on a set of ids that is closed in this way.
* `relatedResource?_agree`, `aggregateType_agree`, `destination?_agree`, `exposedActions_agree`:
  what is looked up in them is the same, and names ids of the set only.
-/

namespace TypedRpc

open Discovery (NotEmpty given?_eq_some)

/-- The types that a resource is declared with, whether clients see them or not. -/
inductive Resource.HasType (resource : Resource) : TypeRef → Prop where
  | stored (stored : Attribute) (listed : stored ∈ resource.attributes) :
      resource.HasType stored.type
  | calculation (calculation : Calculation) (listed : calculation ∈ resource.calculations) :
      resource.HasType calculation.type
  | argument (action : Action) (argument : Argument) (listed : action ∈ resource.actions)
      (taken : argument ∈ action.arguments) : resource.HasType argument.type
  | result (action : Action) (type : TypeRef) (listed : action ∈ resource.actions)
      (returned : action.returns = some type) : resource.HasType type
  | metadata (action : Action) (field : FieldSpec) (listed : action ∈ resource.actions)
      (held : field ∈ action.metadata) : resource.HasType field.type

/-- Whether a type mentions ids of some set only. -/
def TypeRef.Within (known : String → Prop) (type : TypeRef) : Prop :=
  ∀ id, type.Mentions NotEmpty id → known id

/-- Whether a resource names ids of some set only. -/
structure Resource.Within (known : String → Prop) (resource : Resource) : Prop where
  types : ∀ type, resource.HasType type → type.Within known
  destinations : ∀ relationship ∈ resource.relationships, known relationship.destination

/-- Whether two schemas give the same resources for the ids of some set, and those resources name
ids of the set only. -/
structure Schema.AgreeOn (known : String → Prop) (schema other : Schema) : Prop where
  lookup : ∀ {id}, known id → schema.resource? id = other.resource? id
  closed : ∀ {id resource}, known id → schema.resource? id = some resource →
    resource.Within known

variable {known : String → Prop} {schema other : Schema} {resource : Resource}

/-! ## Types -/

namespace TypeRef.Within

theorem item {item : TypeRef} {constraints : Constraints}
    (within : (TypeRef.array item constraints).Within known) : item.Within known :=
  fun id mentioned => within id (.item constraints mentioned)

theorem member {members : List (String × TypeRef)} {name : Option String}
    {entry : String × TypeRef} (within : (TypeRef.union members name).Within known)
    (listed : entry ∈ members) : entry.2.Within known :=
  fun id mentioned => within id (.member name listed mentioned)

theorem field {container : Container} {fields : List FieldSpec} {instanceOf : Option String}
    {renames : Renames} {field : FieldSpec}
    (within : (TypeRef.struct container fields instanceOf renames).Within known)
    (listed : field ∈ fields) : field.type.Within known :=
  fun id mentioned => within id (.field container instanceOf renames listed mentioned)

theorem instanceOf {container : Container} {fields : List FieldSpec} {instanceOf : Option String}
    {renames : Renames} {id : String}
    (within : (TypeRef.struct container fields instanceOf renames).Within known)
    (given : given? instanceOf = some id) : known id := by
  obtain ⟨rfl, counts⟩ := given?_eq_some.mp given
  exact within id (.instanceOf container fields renames counts)

theorem reference {id : String} (within : (TypeRef.resource id).Within known) : known id :=
  within id (.reference id)

theorem of_item {item : TypeRef} (within : item.Within known) (constraints : Constraints) :
    (TypeRef.array item constraints).Within known := by
  rintro id (_ | ⟨_, inside⟩)
  exact within id inside

theorem primitive (kind : PrimitiveKind) (constraints : Constraints) :
    (TypeRef.primitive kind constraints).Within known := by
  rintro id ⟨⟩

theorem unknown (name : Option String) : (TypeRef.unknown name).Within known := by
  rintro id ⟨⟩

end TypeRef.Within

/-! ## Resources -/

namespace Resource.Within

theorem stored (within : resource.Within known) {stored : Attribute}
    (listed : stored ∈ resource.attributes) : stored.type.Within known :=
  within.types _ (.stored stored listed)

theorem calculation (within : resource.Within known) {calculation : Calculation}
    (listed : calculation ∈ resource.calculations) : calculation.type.Within known :=
  within.types _ (.calculation calculation listed)

theorem attribute? (within : resource.Within known) {name : String} {stored : Attribute}
    (named : resource.attribute? name = some stored) : stored.type.Within known :=
  within.stored (List.mem_of_find?_eq_some named)

theorem calculation? (within : resource.Within known) {name : String} {calculation : Calculation}
    (named : resource.calculation? name = some calculation) : calculation.type.Within known :=
  within.calculation (List.mem_of_find?_eq_some named)

theorem relationship? (within : resource.Within known) {name : String}
    {relationship : Relationship} (named : resource.relationship? name = some relationship) :
    known relationship.destination :=
  within.destinations relationship (List.mem_of_find?_eq_some named)

theorem storedField? (within : resource.Within known) {name : String} {field : FieldSpec}
    (named : resource.storedField? name = some field) : field.type.Within known := by
  rw [Resource.storedField?, Option.or_eq_some_iff] at named
  rcases named with named | ⟨-, named⟩
  · obtain ⟨stored, found, rfl⟩ := Option.map_eq_some_iff.mp named
    exact within.attribute? found
  · obtain ⟨calculation, found, rfl⟩ := Option.map_eq_some_iff.mp named
    exact within.calculation? found

end Resource.Within

theorem Resource.within_true (resource : Resource) : resource.Within fun _ => True :=
  ⟨fun _ _ _ _ => trivial, fun _ _ => trivial⟩

/-! ## What is looked up -/

/-- Schemas where every id names the same resource agree on all ids. -/
theorem Schema.AgreeOn.of_lookup (same : ∀ id, schema.resource? id = other.resource? id) :
    AgreeOn (fun _ => True) schema other :=
  ⟨fun _ => same _, fun {_ resource} _ _ => resource.within_true⟩

namespace Schema

/-- Paths of relationships lead to the same resources. -/
theorem relatedResource?_agree (agree : AgreeOn known schema other) (path : List String)
    (start : Option Resource) (within : ∀ resource, start = some resource → resource.Within known) :
    schema.relatedResource? start path = other.relatedResource? start path ∧
      ∀ resource, schema.relatedResource? start path = some resource → resource.Within known := by
  induction path generalizing start with
  | nil => exact ⟨rfl, within⟩
  | cons name rest ih =>
    have next : (do
        let relationship ← (← start).relationship? name
        schema.resource? relationship.destination) = (do
        let relationship ← (← start).relationship? name
        other.resource? relationship.destination) ∧
        ∀ resource, (do
          let relationship ← (← start).relationship? name
          schema.resource? relationship.destination) = some resource →
            resource.Within known := by
      cases start with
      | none => exact ⟨rfl, fun _ named => by cases named⟩
      | some first =>
        cases named : first.relationship? name with
        | none => simp [named]
        | some relationship =>
          have here := (within first rfl).relationship? named
          simpa [named] using ⟨agree.lookup here, fun _ => agree.closed here⟩
    rw [relatedResource?, relatedResource?, List.foldl_cons, List.foldl_cons, ← next.1]
    exact ih _ next.2

theorem backingFieldType?_agree (agree : AgreeOn known schema other)
    (within : resource.Within known) (aggregate : Aggregate) :
    schema.backingFieldType? resource aggregate = other.backingFieldType? resource aggregate ∧
      ∀ type, schema.backingFieldType? resource aggregate = some type → type.Within known := by
  obtain ⟨same, inside⟩ := relatedResource?_agree agree aggregate.relationshipPath (some resource)
    fun _ here => Option.some.inj here ▸ within
  refine ⟨by rw [backingFieldType?, backingFieldType?, same], fun type found => ?_⟩
  simp only [backingFieldType?, Option.bind_eq_bind, Option.bind_eq_some_iff] at found
  obtain ⟨field, -, destination, reached, found⟩ := found
  split at found
  · next stored named =>
    cases found
    exact (inside destination reached).attribute? named
  · obtain ⟨calculation, named, rfl⟩ := Option.map_eq_some_iff.mp found
    exact (inside destination reached).calculation? named

/-- Aggregates have the same types. -/
theorem aggregateType_agree (agree : AgreeOn known schema other) (within : resource.Within known)
    (aggregate : Aggregate) :
    schema.aggregateType resource aggregate = other.aggregateType resource aggregate ∧
      (schema.aggregateType resource aggregate).Within known := by
  obtain ⟨same, inside⟩ := backingFieldType?_agree agree within aggregate
  refine ⟨by simp only [aggregateType, same], ?_⟩
  unfold aggregateType
  split
  · exact .primitive _ _
  · exact .primitive _ _
  · exact .primitive _ _
  · split
    · exact .unknown _
    · next type backed =>
      split
      · exact (inside type backed).of_item _
      · exact inside type backed

/-- What a struct is an instance of leads to the same tasks. -/
theorem instanceTasks_agree {τ : Type} (agree : AgreeOn known schema other)
    {instanceOf : Option String} (within : ∀ id, given? instanceOf = some id → known id)
    (task : String → τ) :
    schema.instanceTasks task instanceOf = other.instanceTasks task instanceOf := by
  unfold instanceTasks
  cases given : given? instanceOf with
  | none => rfl
  | some id => simp only [agree.lookup (within id given)]

/-- Relationships lead to the same resources. -/
theorem destination?_agree (agree : AgreeOn known schema other) (within : resource.Within known)
    (name : String) :
    schema.destination? resource name = other.destination? resource name ∧
      ∀ relationship destination,
        schema.destination? resource name = some (relationship, destination) →
          destination.Within known := by
  unfold destination?
  cases named : resource.relationship? name with
  | none => simp
  | some relationship =>
    have here := within.relationship? named
    simp only [Option.bind_eq_bind, Option.bind_some, agree.lookup here, true_and]
    intro _ destination found
    obtain ⟨_, found, same⟩ := Option.bind_eq_some_iff.mp found
    cases same
    exact agree.closed here (agree.lookup here ▸ found)

/-- Ids of the set name the same resources, which name ids of the set only. -/
theorem filterMap_resource?_agree (agree : AgreeOn known schema other) {ids : List String}
    (listed : ∀ id ∈ ids, known id) :
    ids.filterMap schema.resource? = ids.filterMap other.resource? ∧
      ∀ resource ∈ ids.filterMap schema.resource?, resource.Within known := by
  refine ⟨List.filterMap_congr fun id here => agree.lookup (listed id here), fun _ found => ?_⟩
  obtain ⟨id, here, named⟩ := List.mem_filterMap.mp found
  exact agree.closed (listed id here) named

end Schema

/-! ## What is exposed -/

/-- Whether an exposed action belongs to its resource, which names ids of some set only and is named
by one of them. -/
structure ExposedAction.Within (known : String → Prop) (exposed : ExposedAction) : Prop where
  resource : exposed.resource.Within known
  id : known exposed.resource.id
  action : exposed.action ∈ exposed.resource.actions

namespace ExposedAction.Within

variable {exposed : ExposedAction}

theorem argument (within : exposed.Within known) {argument : Argument}
    (shown : argument ∈ exposed.action.publicArguments) : argument.type.Within known :=
  within.resource.types _
    (.argument exposed.action argument within.action (List.mem_of_mem_filter shown))

theorem result (within : exposed.Within known) {type : TypeRef}
    (returned : exposed.action.returns = some type) : type.Within known :=
  within.resource.types _ (.result exposed.action type within.action returned)

theorem metadata (within : exposed.Within known) {field : FieldSpec}
    (held : field ∈ exposed.action.metadata) : field.type.Within known :=
  within.resource.types _ (.metadata exposed.action field within.action held)

end ExposedAction.Within

/-- Whether two schemas agree and expose the same, by ids on which they agree. -/
structure Schema.ExposeAlike (known : String → Prop) (schema other : Schema) : Prop
    extends Schema.AgreeOn known schema other where
  domains : schema.domains = other.domains
  entries : ∀ entry ∈ schema.rpcResources, known entry.resource

namespace Schema

theorem rpcResources_agree (alike : ExposeAlike known schema other) :
    schema.rpcResources = other.rpcResources := by
  rw [rpcResources, rpcResources, alike.domains]

theorem exposedResourceIds_agree (alike : ExposeAlike known schema other) :
    schema.exposedResourceIds = other.exposedResourceIds := by
  rw [exposedResourceIds, exposedResourceIds, rpcResources_agree alike]

theorem mem_exposedOn {rpcActions : List RpcAction} {exposed : ExposedAction}
    (listed : exposed ∈ exposedOn resource rpcActions) :
    exposed.resource = resource ∧ exposed.action ∈ resource.actions := by
  obtain ⟨rpcAction, -, found⟩ := List.mem_filterMap.mp listed
  obtain ⟨action, named, rfl⟩ := Option.map_eq_some_iff.mp found
  exact ⟨rfl, List.mem_of_find?_eq_some named⟩

/-- The schemas expose the same actions. -/
theorem exposedActions_agree (alike : ExposeAlike known schema other) :
    schema.exposedActions = other.exposedActions ∧
      ∀ exposed ∈ schema.exposedActions, exposed.Within known := by
  rw [exposedActions, exposedActions, ← rpcResources_agree alike]
  constructor
  · refine List.flatMap_congr fun entry listed => ?_
    rw [alike.lookup (alike.entries entry listed)]
  · intro exposed found
    obtain ⟨entry, listed, found⟩ := List.mem_flatMap.mp found
    have here := alike.entries entry listed
    cases named : schema.resource? entry.resource with
    | none =>
      rw [named] at found
      exact absurd found List.not_mem_nil
    | some resource =>
      rw [named] at found
      obtain ⟨rfl, action⟩ := mem_exposedOn found
      exact ⟨alike.closed here named, by rwa [id_of_resource? named], action⟩

/-- The schemas have the same typed queries. -/
theorem queriedResources_agree (alike : ExposeAlike known schema other) :
    schema.queriedResources = other.queriedResources ∧
      ∀ queried ∈ schema.queriedResources, queried.1.Within known := by
  rw [queriedResources, queriedResources, ← rpcResources_agree alike]
  constructor
  · refine List.filterMap_congr fun entry listed => ?_
    rw [alike.lookup (alike.entries entry listed)]
  · intro queried found
    obtain ⟨entry, listed, found⟩ := List.mem_filterMap.mp found
    split at found
    · cases found
    · obtain ⟨resource, named, rfl⟩ := Option.map_eq_some_iff.mp found
      exact alike.closed (alike.entries entry listed) named

end Schema
end TypedRpc
