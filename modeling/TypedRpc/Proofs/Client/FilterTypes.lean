import TypedRpc.Proofs.Client.ActionTypes

/-!
# The filter inputs that a client mentions are declared

Filter inputs are declared for the reached resources that are not embedded.  They are mentioned by
the parameters of the reads of many records, and by filter inputs for what their resources are
related to.  A filter input only descends into resources that have one.  A read of many records
however takes a filter on its own resource, whether or not that is embedded, and nothing is found
about a read of embedded ones.

* `Typing.filterNames`: the filters that are declared.
* `filterInputName_mem_iff`: which filter inputs are.
* `FiltersDeclared`, `Plan.filtersDeclared_iff`: every filter that is mentioned is declared, exactly
  when no read is of embedded records.
* `embedded_read_undeclared`: a read whose filter is not declared.
-/

namespace TypedRpc

open Target (TypeExpr DataClass ConfigRecord)

/-! ## Names of filters -/

/-- The names of the filters for single values. -/
def baseFilterNames : List String :=
  ["StringFilter", "IntFilter", "DoubleFilter", "BooleanFilter", "UuidFilter", "DateFilter",
    "InstantFilter", "DecimalFilter"]

/-- The filters for single values have the same names under all options. -/
theorem map_name_baseFilters (options : Options) :
    options.baseFilters.map (fun filter => filter.declaration.name) = baseFilterNames := by
  unfold Options.baseFilters
  cases options.datetimeLibrary <;> rfl

theorem PrimitiveKind.filterName_mem (kind : PrimitiveKind) :
    kind.filterName ∈ baseFilterNames := by
  cases kind <;> decide

/-- Values of every type have a filter. -/
theorem TypeRef.filterName_mem (type : TypeRef) : type.filterName ∈ baseFilterNames := by
  unfold TypeRef.filterName
  split
  · exact PrimitiveKind.filterName_mem _
  · decide

/-- The filter for an aggregate is one for single values. -/
theorem Typing.aggregateFilter?_mem {schema : Schema} {resource : Resource}
    {aggregate : Aggregate} {filter : String}
    (filtered : aggregateFilter? schema resource aggregate = some filter) :
    filter ∈ baseFilterNames := by
  unfold aggregateFilter? at filtered
  split at filtered
  · rw [← Option.some.inj filtered]
    decide
  · split at filtered
    · cases filtered
    · rw [← Option.some.inj filtered]
      exact TypeRef.filterName_mem _
  · cases filtered

/-- Admitting null does not change what a type is built on. -/
theorem Target.leaf_orNull (type : TypeExpr) : type.orNull.leaf = type.leaf := by
  unfold TypeExpr.orNull
  split <;> rfl

namespace Typing

variable (typing : Typing)

/-- The names of the filters that are declared, given the ids of the resources that have one. -/
def filterNames (schema : Schema) (ids : List String) : List String :=
  typing.options.baseFilters.map (fun filter => filter.declaration.name) ++
    (typing.filterInputs schema ids).map (·.name)

/-- No filter input is called like a filter for single values. -/
theorem filterInputName_not_mem_base (id : String) :
    typing.filterInputName id ∉ baseFilterNames := by
  intro listed
  have base : ∀ name ∈ baseFilterNames, name.toList.getLast? = some 'r' := by decide +kernel
  have ending : (typing.filterInputName id).toList.getLast? = some 't' := by
    have last : "FilterInput".toList.getLast? = some 't' := by decide +kernel
    rw [filterInputName, String.toList_append, List.getLast?_append, last]
    rfl
  rw [base _ listed] at ending
  exact absurd ending (by decide)

variable {typing} {schema : Schema} {ids : List String}

theorem mem_filterNames_of_base {name : String} (base : name ∈ baseFilterNames) :
    name ∈ typing.filterNames schema ids := by
  rw [filterNames, map_name_baseFilters]
  exact List.mem_append_left _ base

/-- The filter inputs that are declared are those of the resources that exist. -/
theorem filterInputName_mem_iff (id : String) :
    typing.filterInputName id ∈ typing.filterNames schema ids ↔
      ∃ other ∈ ids, (schema.resource? other).isSome ∧
        typing.filterInputName other = typing.filterInputName id := by
  have declared : typing.filterInputName id ∈ (typing.filterInputs schema ids).map (·.name) ↔
      ∃ resource, (∃ other ∈ ids, schema.resource? other = some resource) ∧
        typing.filterInputName resource.id = typing.filterInputName id := by
    simp only [filterInputs, List.map_map, List.mem_map, List.mem_filterMap, Function.comp_apply,
      filterInput]
  rw [filterNames, map_name_baseFilters, List.mem_append,
    or_iff_right (typing.filterInputName_not_mem_base id), declared]
  constructor
  · rintro ⟨resource, ⟨other, listed, named⟩, same⟩
    rw [Schema.id_of_resource? named] at same
    exact ⟨other, listed, by rw [named]; rfl, same⟩
  · rintro ⟨other, listed, known, same⟩
    obtain ⟨resource, named⟩ := Option.isSome_iff_exists.mp known
    rw [← Schema.id_of_resource? named] at same
    exact ⟨resource, ⟨other, listed, named⟩, same⟩

/-! ## Properties of filter inputs -/

theorem leaf_filterProperty (resource : Resource) (name filter : String) :
    (typing.filterProperty resource name filter).type.leaf = filter :=
  Target.leaf_orNull _

/-- **The properties of a filter input are built on filters that are declared.** -/
theorem leaf_mem_filterNames (known : ∀ id ∈ ids, (schema.resource? id).isSome)
    {declared : DataClass} (listed : declared ∈ typing.filterInputs schema ids)
    {property : Target.Property} (held : property ∈ declared.properties) :
    property.type.leaf ∈ typing.filterNames schema ids := by
  obtain ⟨resource, found, rfl⟩ := List.mem_map.mp listed
  obtain ⟨id, among, named⟩ := List.mem_filterMap.mp found
  have own (other : String) (among : other ∈ ids) :
      typing.filterInputName other ∈ typing.filterNames schema ids :=
    (filterInputName_mem_iff other).mpr ⟨other, among, known other among, rfl⟩
  simp only [filterInput, List.mem_append, List.mem_map] at held
  rcases held with
    (((⟨name, -, rfl⟩ | ⟨stored, -, rfl⟩) | ⟨calculation, -, rfl⟩) | counted) | related
  · rw [Schema.id_of_resource? named]
    exact own id among
  · rw [leaf_filterProperty]
    exact mem_filterNames_of_base (TypeRef.filterName_mem _)
  · rw [leaf_filterProperty]
    exact mem_filterNames_of_base (TypeRef.filterName_mem _)
  · obtain ⟨aggregate, -, filtered⟩ := List.mem_filterMap.mp counted
    obtain ⟨filter, chosen, rfl⟩ := Option.map_eq_some_iff.mp filtered
    rw [leaf_filterProperty]
    exact mem_filterNames_of_base (aggregateFilter?_mem chosen)
  · obtain ⟨relationship, allowed, rfl⟩ := List.mem_map.mp related
    rw [leaf_filterProperty]
    exact own _ (List.contains_iff_mem.mp (List.mem_filter.mp allowed).2)

end Typing

/-! ## Parameters -/

/-- The parameters mention a filter exactly when the action reads any number of records. -/
theorem Typing.mentions_filter_iff (typing : Typing) (shape : ActionShape) (resource : Resource)
    (name : String) :
    (typing.configRecord shape resource).Mentions "filter" name ↔
      shape.supportsFiltering = true ∧ (typing.filterType shape).leaf = name := by
  have given : (typing.configRecord shape resource).Mentions "filter" name ↔
      (if shape.supportsFiltering then some (typing.filterType shape).leaf else none) =
        some name := by
    refine typing.mentions_iff_of_given shape resource (by decide) (by decide) (fun absent => ?_)
      (fun type shown => ?_) name
    · have few : ¬shape.supportsFiltering = true := by
        simpa using absent
      simp [ActionShape.map_key_payload, ActionShape.map_key_identityEntries, few]
    · obtain ⟨many, leaf⟩ := Option.ite_none_right_eq_some.mp shown
      refine ⟨⟨"filter", .nullable (typing.filterType shape), some "null"⟩, ?_, rfl,
        Option.some.inj leaf⟩
      simp [configRecord, many]
  rw [given, Option.ite_none_right_eq_some, Option.some.injEq]

/-! ## Filters of a client -/

/-- **Whether the filters that a client mentions are declared**, by parameters and by filter
inputs. -/
structure FiltersDeclared (schema : Schema) (typing : Typing) (plan : Plan) : Prop where
  parameters : ∀ exposed ∈ plan.exposed, ∀ name,
    (typing.configRecord exposed.shape exposed.resource).Mentions "filter" name →
      name ∈ typing.filterNames schema plan.discovered.resources
  properties : ∀ declared ∈ typing.filterInputs schema plan.discovered.resources,
    ∀ property ∈ declared.properties,
      property.type.leaf ∈ typing.filterNames schema plan.discovered.resources

namespace Plan

variable {schema : Schema} {options : Options} {plan : Plan}

/-- The resources of exposed actions are reached, each in the list for its kind. -/
theorem resource_mem_reached (made : Plan.make schema options = .ok plan)
    {exposed : ExposedAction} (listed : exposed ∈ plan.exposed) (embedded : Bool) :
    exposed.resource.id ∈ plan.discovered.reached embedded ↔
      exposed.resource.embedded = embedded := by
  rw [exposed_eq made] at listed
  rw [discovered_eq made]
  obtain ⟨entry, held, named, -⟩ := Schema.mem_exposedActions_iff.mp listed
  have same : schema.resource? exposed.resource.id = some exposed.resource := by
    rw [Schema.id_of_resource? named, named]
  rw [Schema.discovery, Discovery.mem_reached_discover, Discovery.isOfKind_of_named same,
    beq_iff_eq]
  exact and_iff_right (Schema.visited_of_entry held named)

/-- In a plan without faults and with options that override no types, the filter inputs of reached
resources have names of their own. -/
theorem filterInputName_inj (made : Plan.make schema options = .ok plan)
    (clean : plan.verification.faults = []) (plain : options.typeOverrides = [])
    {a b : String} (ha : a ∈ plan.discovered.allResources) (hb : b ∈ plan.discovered.allResources)
    (same : (Typing.ofSchema schema options).filterInputName a =
      (Typing.ofSchema schema options).filterInputName b) : a = b := by
  have name_eq (id : String) (reached : id ∈ plan.discovered.allResources) :
      ∃ record ∈ plan.discovered.records schema, record.id = id ∧
        (Typing.ofSchema schema options).filterInputName id =
          record.declaredTypeName ++ "FilterInput" := by
    have visited : id ∈ schema.discovery.visited := by
      rw [discovered_eq made] at reached
      exact Discovery.mem_allResources_discover.mp reached
    obtain ⟨record, named⟩ :=
      Option.isSome_iff_exists.mp (Discovery.mem_visited_iff_met.mp visited).2
    refine ⟨record, List.mem_filterMap.mpr ⟨id, reached, named⟩, Schema.id_of_resource? named, ?_⟩
    simp [Typing.filterInputName, Typing.recordType, Typing.typeOf, Options.overrideOf?,
      Typing.ofSchema, plain, Typing.resourceName, Schema.typeName?, named, TypeExpr.text]
  obtain ⟨first, here, rfl, first_name⟩ := name_eq a ha
  obtain ⟨second, there, rfl, second_name⟩ := name_eq b hb
  rw [first_name, second_name, String.append_left_inj] at same
  exact (namesAgree made clean).records first here second there same

/-- The filters that a client mentions are declared exactly when those are that reads of many
records take. -/
theorem filtersDeclared_iff_exists (made : Plan.make schema options = .ok plan)
    (filtered : options.filterTypes = true) :
    FiltersDeclared schema (.ofSchema schema options) plan ↔
      ∀ exposed ∈ plan.exposed, ReadsMany exposed.action exposed.rpcAction →
        ∃ id ∈ plan.discovered.resources, (Typing.ofSchema schema options).filterInputName id =
          (Typing.ofSchema schema options).filterInputName exposed.resource.id := by
  have known : ∀ id ∈ plan.discovered.resources, (schema.resource? id).isSome := by
    rw [discovered_eq made]
    intro id listed
    have reached : id ∈ schema.discovery.reached false := listed
    exact Discovery.isSome_resource?_of_isOfKind (Discovery.mem_reached_discover.mp reached).2
  have taken (exposed : ExposedAction) (name : String) :
      ((Typing.ofSchema schema options).configRecord exposed.shape exposed.resource).Mentions
          "filter" name ↔
        ReadsMany exposed.action exposed.rpcAction ∧
          (Typing.ofSchema schema options).filterInputName exposed.resource.id = name := by
    have many : exposed.shape.supportsFiltering = true ↔
        ReadsMany exposed.action exposed.rpcAction :=
      supportsFiltering_iff exposed.resource exposed.action exposed.rpcAction
    have filter_eq : (Typing.ofSchema schema options).filterType exposed.shape =
        .named ((Typing.ofSchema schema options).filterInputName exposed.resource.id) :=
      if_pos filtered
    rw [Typing.mentions_filter_iff, many, filter_eq]
    rfl
  constructor
  · intro declared exposed listed many
    have mentioned := declared.parameters exposed listed _ ((taken exposed _).mpr ⟨many, rfl⟩)
    obtain ⟨id, among, -, same⟩ := (Typing.filterInputName_mem_iff _).mp mentioned
    exact ⟨id, among, same⟩
  · intro each
    constructor
    case parameters =>
      intro exposed listed name mentioned
      obtain ⟨many, rfl⟩ := (taken exposed name).mp mentioned
      obtain ⟨id, among, same⟩ := each exposed listed many
      exact (Typing.filterInputName_mem_iff _).mpr ⟨id, among, known id among, same⟩
    case properties =>
      intro declared listed property held
      exact Typing.leaf_mem_filterNames known listed held

/-- **The filters that a client mentions are declared, exactly when no read of many records is of
embedded ones.**  There is an exception only where the options give an embedded resource the name of
a reached one that is not embedded. -/
theorem filtersDeclared_iff (made : Plan.make schema options = .ok plan)
    (clean : plan.verification.faults = []) (filtered : options.filterTypes = true) :
    (FiltersDeclared schema (.ofSchema schema options) plan ↔
      ∀ exposed ∈ plan.exposed, ReadsMany exposed.action exposed.rpcAction →
        exposed.resource.embedded = false ∨ ∃ id ∈ plan.discovered.resources,
          (Typing.ofSchema schema options).filterInputName id =
            (Typing.ofSchema schema options).filterInputName exposed.resource.id) ∧
    (options.typeOverrides = [] →
      (FiltersDeclared schema (.ofSchema schema options) plan ↔
        ∀ exposed ∈ plan.exposed, ReadsMany exposed.action exposed.rpcAction →
          exposed.resource.embedded = false)) := by
  have own (exposed : ExposedAction) (listed : exposed ∈ plan.exposed) :
      exposed.resource.id ∈ plan.discovered.resources ↔ exposed.resource.embedded = false :=
    resource_mem_reached made listed false
  rw [filtersDeclared_iff_exists made filtered]
  refine ⟨?_, fun plain => ?_⟩
  · refine forall₃_congr fun exposed listed many => ?_
    rw [← own exposed listed]
    exact (or_iff_right_of_imp fun reached => ⟨_, reached, rfl⟩).symm
  · refine forall₃_congr fun exposed listed many => ?_
    rw [← own exposed listed]
    constructor
    · rintro ⟨id, among, same⟩
      have reached : id ∈ plan.discovered.allResources := List.mem_append_left _ among
      have visited : exposed.resource.id ∈ plan.discovered.allResources :=
        Discovery.mem_allResources.mpr ⟨_, (resource_mem_reached made listed _).mpr rfl⟩
      rw [← filterInputName_inj made clean plain reached visited same]
      exact among
    · exact fun reached => ⟨_, reached, rfl⟩

end Plan

/-- Reads take filters of types of their own. -/
def filtering : Options where
  filterTypes := true

/-- To-dos and their owners, with what clients may count of them. -/
def listSchema : Schema where
  resources := [
    { id := "Todo"
      attributes := [{ name := "due", type := .primitive .date {} }]
      relationships := [{ name := "owner", kind := .belongsTo, destination := "User" }]
      actions := [{ name := "read", kind := .read }] },
    { id := "User"
      relationships := [{ name := "todos", kind := .hasMany, destination := "Todo" }]
      aggregates := [{ name := "todo_count", kind := .count, relationshipPath := ["todos"] }] }]
  domains := [{
    name := "Main"
    rpc := [{ resource := "Todo", actions := [{ name := "list_todos", action := "read" }] }] }]

/-- The filters that a client for to-dos and their owners mentions. -/
theorem list_filtersDeclared :
    ∃ plan, Plan.make listSchema filtering = .ok plan ∧ plan.verification.faults = [] ∧
      filtering.filterTypes = true ∧
      FiltersDeclared listSchema (.ofSchema listSchema filtering) plan := by
  have evaluated :
      (Plan.make listSchema filtering).toOption.map (·.verification.faults) = some [] := by
    cbv
  obtain ⟨plan, made, clean⟩ := Plan.exists_of_evaluated evaluated
  have plainly : ∀ exposed ∈ plan.exposed, ReadsMany exposed.action exposed.rpcAction →
      exposed.resource.embedded = false := by
    rw [Plan.exposed_eq made]
    intro exposed listed _
    have only : listSchema.exposedActions.all fun exposed => !exposed.resource.embedded := by
      decide
    simpa using List.all_eq_true.mp only exposed listed
  exact ⟨plan, made, clean, rfl,
    ((Plan.filtersDeclared_iff made clean rfl).2 rfl).mpr plainly⟩

/-- A read of embedded addresses. -/
def addressRead : ExposedAction where
  resource := {
    id := "Address", embedded := true
    actions := [{ name := "read", kind := .read }] }
  action := { name := "read", kind := .read }
  rpcAction := { name := "list_addresses", action := "read" }

/-- Addresses that are embedded and that clients may read. -/
def addressSchema : Schema where
  resources := [addressRead.resource]
  domains := [{
    name := "Main"
    rpc := [{ resource := "Address", actions := [addressRead.rpcAction] }] }]

/-- Nothing is found about a read of embedded addresses, and the filter that it takes is not
declared. -/
theorem embedded_read_undeclared :
    ∃ plan, Plan.make addressSchema filtering = .ok plan ∧ plan.verification.faults = [] ∧
      addressRead ∈ plan.exposed ∧
      ((Typing.ofSchema addressSchema filtering).configRecord addressRead.shape
        addressRead.resource).Mentions "filter" "AddressFilterInput" ∧
      "AddressFilterInput" ∉ (Typing.ofSchema addressSchema filtering).filterNames addressSchema
        plan.discovered.resources := by
  have evaluated :
      (Plan.make addressSchema filtering).toOption.map (·.verification.faults) = some [] := by
    cbv
  obtain ⟨plan, made, clean⟩ := Plan.exists_of_evaluated evaluated
  have listed : addressRead ∈ plan.exposed := by
    rw [Plan.exposed_eq made]
    exact List.mem_singleton.mpr rfl
  have none : plan.discovered.resources = [] := by
    rw [Plan.discovered_eq made]
    cbv
  refine ⟨plan, made, clean, listed, ?_, ?_⟩
  · rw [Typing.mentions_filter_iff]
    decide +kernel
  · rw [none]
    decide +kernel

end TypedRpc
