import TypedRpc.Proofs.Client.FilterTypes
import TypedRpc.Proofs.Client.PropertyNames

/-!
# Properties that no check compares

The checks compare the properties of a record with each other, and those of an input.  Other classes
have properties as well: the metadata of an action, the filter input of a resource, the classes of a
typed query and the variants of a union.  Of these, the fields of a filter input and of a query that
the record shows too have been compared there.  What else they have is left to chance: fields that
are no attributes or relationships of a record, fields that are selected twice, and the names that
combine filters.

* `CalledApart`, `nodup_called_iff`: the names in the code of fields that have been compared in
  part.
* `Typing.kotlinNames_filterInput`, `Typing.ShowsBranch.kotlinNames_eq`: the names in the code of
  filter inputs and of query classes.
* `Plan.nodup_filterInput_iff`, `Plan.nodup_branch_iff`: what the checks leave to chance there.
* `Plan.properties_differ_iff`: all of it; `uncompared_properties_meet` shows two properties of one
  name in a class of each kind.
-/

namespace TypedRpc

open Target (DataClass Property)

/-! ## Fields that have been compared in part -/

/-- Whether fields have names of their own in the code, as far as they have not been compared:
none is there twice, and one that has not been compared is not called like another one. -/
structure CalledApart (compared : String → Prop) (rename : String → Option String)
    (names : List String) : Prop where
  once : names.Nodup
  others : ∀ name ∈ names, ¬compared name → ∀ other ∈ names, other ≠ name →
    kotlinNameOf other (rename other) ≠ kotlinNameOf name (rename name)

/-- **Fields have names of their own in the code exactly when those have that have not been
compared.** -/
theorem nodup_called_iff {compared : String → Prop} {rename : String → Option String}
    {names : List String}
    (checked : ∀ a, compared a → ∀ b, compared b →
      kotlinNameOf a (rename a) = kotlinNameOf b (rename b) → a = b) :
    (names.map fun name => kotlinNameOf name (rename name)).Nodup ↔
      CalledApart compared rename names := by
  constructor
  · intro distinct
    refine ⟨distinct.of_map _, fun name here _ other there apart same => apart ?_⟩
    exact List.inj_on_of_nodup_map distinct there here same
  · intro apart
    refine (List.nodup_map_iff_inj_on apart.once).mpr fun a here b there same => ?_
    by_contra differ
    by_cases compared_a : compared a
    · by_cases compared_b : compared b
      · exact differ (checked a compared_a b compared_b same)
      · exact apart.others b there compared_b a here differ same
    · exact apart.others a here compared_a b there (Ne.symm differ) same.symm

/-- Nothing is compared where no check looks. -/
theorem nodup_uncompared_iff {rename : String → Option String} {names : List String} :
    (names.map fun name => kotlinNameOf name (rename name)).Nodup ↔
      CalledApart (fun _ => False) rename names :=
  nodup_called_iff fun _ held => held.elim

/-! ## Metadata and variants -/

section Uncompared

variable {typing : Typing}

theorem nodup_metadata_iff {shape : ActionShape} {declared : DataClass}
    (rendered : typing.metadataClass? shape = some declared) :
    declared.kotlinNames.Nodup ↔
      CalledApart (fun _ => False) (fun name => shape.metadataNames.lookup name)
        (shape.metadata.map (·.name)) := by
  obtain ⟨name, -, rfl⟩ := Option.map_eq_some_iff.mp rendered
  rw [← nodup_uncompared_iff]
  simp only [DataClass.kotlinNames, List.map_map]
  rfl

/-- An action without metadata has no fields that could meet. -/
theorem metadata_eq_nil {shape : ActionShape} (none : typing.metadataClass? shape = none) :
    shape.metadata = [] := by
  by_contra some
  simp [Typing.metadataClass?, ActionShape.metadataName?, some] at none

/-- A variant that takes the fields of a struct. -/
theorem nodup_variant_iff {union tag : String} {container : Container} {fields : List FieldSpec}
    {instanceOf : Option String} {renames : Renames} (own : given? instanceOf = none) :
    (typing.variant union tag (.struct container fields instanceOf renames)).kotlinNames.Nodup ↔
      CalledApart (fun _ => False) (fun name => renames.lookup name)
        (fields.map (·.name)) := by
  rw [← nodup_uncompared_iff, kotlinNames_variant, TypeRef.inlinedNames, own]
  cases fields with
  | nil => simp
  | cons field rest => simp [Function.comp_def]

/-- A variant that takes no fields holds a single value. -/
theorem nodup_variant_of_nothing {union tag : String} {member : TypeRef}
    (nothing : member.inlinedNames = []) :
    (typing.variant union tag member).kotlinNames.Nodup := by
  rw [kotlinNames_variant, nothing]
  simp

end Uncompared

/-! ## Filter inputs -/

/-- The names of the properties that combine filters. -/
def combinatorNames : List String := ["and", "or", "not"]

/-- The names in the schema of the fields that the filter input of a resource filters by, given the
ids of the resources that have one. -/
def filterSources (schema : Schema) (allowed : List String) (resource : Resource) : List String :=
  resource.publicAttributes.map (·.name) ++ resource.publicCalculations.map (·.name) ++
    (resource.publicAggregates.filter fun aggregate =>
      (Typing.aggregateFilter? schema resource aggregate).isSome).map (·.name) ++
    (resource.publicRelationships.filter fun relationship =>
      allowed.contains relationship.destination).map (·.name)

namespace Typing

variable {typing : Typing} {schema : Schema}

theorem map_kotlinName_aggregateFilters (resource : Resource) :
    (typing.aggregateFilters schema resource).map (·.kotlinName) =
      (resource.publicAggregates.filter fun aggregate =>
        (aggregateFilter? schema resource aggregate).isSome).map fun aggregate =>
          kotlinNameOf aggregate.name (resource.fieldRename? aggregate.name) := by
  rw [aggregateFilters]
  induction resource.publicAggregates with
  | nil => rfl
  | cons aggregate rest ih =>
    cases found : aggregateFilter? schema resource aggregate with
    | none => simp [found, ih]
    | some filter =>
      simp only [List.filterMap_cons, List.filter_cons, found, Option.map_some, Option.isSome_some,
        if_true, List.map_cons, ih]
      rfl

/-- **The properties of a filter input** combine filters, or they filter by a field under its name
in the code. -/
theorem kotlinNames_filterInput (allowed : List String) (resource : Resource) :
    (typing.filterInput schema allowed resource).kotlinNames =
      combinatorNames ++ (filterSources schema allowed resource).map fun name =>
        kotlinNameOf name (resource.fieldRename? name) := by
  simp only [DataClass.kotlinNames, filterInput, List.map_append, List.map_map,
    map_kotlinName_aggregateFilters, relationshipFilters, filterSources, List.append_assoc]
  rfl

/-! ## Query classes -/

/-- A property is called in the code like the field that it shows. -/
theorem Shows.kotlinName_eq {holder : Resource} {className : String} {item : NameTree}
    {property : Property} (shown : typing.Shows schema holder className item property) :
    property.kotlinName = kotlinNameOf item.name (holder.fieldRename? item.name) := by
  cases shown <;> rfl

/-- **The properties of a query class** are called in the code like the fields of its selection. -/
theorem ShowsBranch.kotlinNames_eq {root holder : Resource} {rootName : String}
    {branch : NameTree.Branch} {declared : DataClass}
    (shown : typing.ShowsBranch schema root rootName branch declared)
    (leads : schema.relatedResource? (some root) branch.path = some holder) :
    declared.kotlinNames =
      branch.names.map fun name => kotlinNameOf name (holder.fieldRename? name) := by
  obtain ⟨_, leads', each⟩ := shown.properties
  obtain rfl := Option.some.inj (leads.symm.trans leads')
  rw [DataClass.kotlinNames, NameTree.Branch.names, List.map_map, ← List.forall₂_eq_eq_eq,
    List.forall₂_map_left_iff, List.forall₂_map_right_iff]
  exact each.flip.imp fun _ _ shows => shows.kotlinName_eq

end Typing

/-! ## What the checks leave to chance -/

namespace Plan

variable {schema : Schema} {options : Options} {plan : Plan}

/-- The fields that a record shows have been compared. -/
theorem record_compared (made : Plan.make schema options = .ok plan)
    (clean : plan.verification.faults = []) {record : Resource}
    (reached : record ∈ plan.discovered.records schema) :
    ∀ a ∈ recordSources record, ∀ b ∈ recordSources record,
      kotlinNameOf a (record.fieldRename? a) = kotlinNameOf b (record.fieldRename? b) → a = b := by
  have apart := nodup_record (.ofSchema schema options) made clean reached
  rw [Typing.kotlinNames_record_eq] at apart
  exact fun a here b there same => List.inj_on_of_nodup_map apart here there same

/-- **The properties of a filter input differ** exactly when no field is called like a combinator
and those that the record does not show are called apart, in a plan without faults. -/
theorem nodup_filterInput_iff (typing : Typing) (made : Plan.make schema options = .ok plan)
    (clean : plan.verification.faults = []) {record : Resource}
    (reached : record ∈ plan.discovered.records schema) (allowed : List String) :
    (typing.filterInput schema allowed record).kotlinNames.Nodup ↔
      (∀ name ∈ filterSources schema allowed record,
        kotlinNameOf name (record.fieldRename? name) ∉ combinatorNames) ∧
      CalledApart (· ∈ recordSources record) record.fieldRename?
        (filterSources schema allowed record) := by
  have combinators : combinatorNames.Nodup := by decide
  rw [Typing.kotlinNames_filterInput, List.nodup_append',
    nodup_called_iff (record_compared made clean reached), and_iff_right combinators, and_comm,
    List.disjoint_comm]
  simp only [List.Disjoint, List.mem_map, forall_exists_index, and_imp, forall_apply_eq_imp_iff₂]

/-- Whether a field of a resource has been compared with the others: the record shows it, and the
resource has a record. -/
def IsCompared (schema : Schema) (plan : Plan) (holder : Resource) (name : String) : Prop :=
  holder ∈ plan.discovered.records schema ∧ name ∈ recordSources holder

/-- **The properties of a query class differ** exactly when the fields that it selects are called
apart, but for those that the record shows too, in a plan without faults. -/
theorem nodup_branch_iff {typing : Typing} (made : Plan.make schema options = .ok plan)
    (clean : plan.verification.faults = []) {root holder : Resource} {rootName : String}
    {branch : NameTree.Branch} {declared : DataClass}
    (shown : typing.ShowsBranch schema root rootName branch declared)
    (leads : schema.relatedResource? (some root) branch.path = some holder) :
    declared.kotlinNames.Nodup ↔
      CalledApart (plan.IsCompared schema holder) holder.fieldRename? branch.names := by
  rw [shown.kotlinNames_eq leads]
  refine nodup_called_iff fun a seen_a b seen_b same => ?_
  exact record_compared made clean seen_a.1 a seen_a.2 b seen_b.2 same

end Plan

/-! ## All classes -/

/-- **Whether the properties of the classes that no check looks at have names of their own**: of
metadata, filter inputs, typed queries that can be written, and variants. -/
structure PropertiesDiffer (schema : Schema) (typing : Typing) (plan : Plan) : Prop where
  metadata : ∀ exposed ∈ plan.exposed, ∀ declared,
    typing.metadataClass? exposed.shape = some declared → declared.kotlinNames.Nodup
  filters : ∀ declared ∈ typing.filterInputs schema plan.discovered.resources,
    declared.kotlinNames.Nodup
  queries : ∀ entry ∈ schema.rpcResources, ∀ resource,
    schema.resource? entry.resource = some resource → ∀ query ∈ entry.typedQueries,
      ∀ text, typing.queryText schema resource query = .ok text →
        ∀ classes, typing.queryClasses schema resource query = .ok classes →
          ∀ declared ∈ classes, declared.kotlinNames.Nodup
  variants : ∀ union ∈ plan.discovered.unions, ∀ variant ∈ (typing.union union).variants,
    variant.kotlinNames.Nodup

/-- **Whether the fields that these classes are made from are called apart**, as far as the checks
have not compared them. -/
structure FieldsCalledApart (schema : Schema) (plan : Plan) : Prop where
  metadata : ∀ exposed ∈ plan.exposed,
    CalledApart (fun _ => False) (fun name => exposed.shape.metadataNames.lookup name)
      (exposed.shape.metadata.map (·.name))
  combinators : ∀ id ∈ plan.discovered.resources, ∀ resource, schema.resource? id = some resource →
    ∀ name ∈ filterSources schema plan.discovered.resources resource,
      kotlinNameOf name (resource.fieldRename? name) ∉ combinatorNames
  filters : ∀ id ∈ plan.discovered.resources, ∀ resource, schema.resource? id = some resource →
    CalledApart (· ∈ recordSources resource) resource.fieldRename?
      (filterSources schema plan.discovered.resources resource)
  queries : ∀ entry ∈ schema.rpcResources, ∀ resource,
    schema.resource? entry.resource = some resource → ∀ query ∈ entry.typedQueries,
      ∀ names, query.selection = NameTree.selections names →
        ∀ branch ∈ NameTree.preorder names, ∀ holder,
          schema.relatedResource? (some resource) branch.path = some holder →
            CalledApart (plan.IsCompared schema holder) holder.fieldRename? branch.names
  variants : ∀ union ∈ plan.discovered.unions, ∀ tag container fields instanceOf renames,
    (tag, .struct container fields instanceOf renames) ∈ union.members → given? instanceOf = none →
      CalledApart (fun _ => False) (fun name => renames.lookup name) (fields.map (·.name))

namespace Plan

variable {schema : Schema} {options : Options} {plan : Plan} {typing : Typing}

/-- The classes of the typed queries differ in their properties exactly when what they select is
called apart. -/
theorem queries_differ_iff (made : Plan.make schema options = .ok plan)
    (clean : plan.verification.faults = []) {entry : RpcResource}
    (listed : entry ∈ schema.rpcResources) {resource : Resource}
    (named : schema.resource? entry.resource = some resource) {query : TypedQuery}
    (held : query ∈ entry.typedQueries) :
    (∀ text, typing.queryText schema resource query = .ok text →
      ∀ classes, typing.queryClasses schema resource query = .ok classes →
        ∀ declared ∈ classes, declared.kotlinNames.Nodup) ↔
      ∀ names, query.selection = NameTree.selections names →
        ∀ branch ∈ NameTree.preorder names, ∀ holder,
          schema.relatedResource? (some resource) branch.path = some holder →
            CalledApart (plan.IsCompared schema holder) holder.fieldRename? branch.names := by
  obtain ⟨_, named', each⟩ := query_checked made clean listed
  obtain rfl := Option.some.inj (named.symm.trans named')
  have checked := each query held
  constructor
  · intro differ names selects branch among holder leads
    have writable : ∃ text, typing.queryText schema resource query = .ok text :=
      (Typing.queryText_isOk_iff checked).mpr ⟨names, selects⟩
    obtain ⟨text, written⟩ := writable
    obtain ⟨classes, built, shows⟩ := typing.exists_queryClasses selects checked
    obtain ⟨declared, isClass, shown⟩ := exists_of_forall₂ shows among
    exact (nodup_branch_iff made clean shown leads).mp
      (differ text written classes built declared isClass)
  · intro apart text written classes built declared isClass
    obtain ⟨names, selects⟩ := (Typing.queryText_isOk_iff checked).mp ⟨text, written⟩
    obtain ⟨_, built', shows⟩ := typing.exists_queryClasses selects checked
    obtain rfl := Except.ok.inj (built.symm.trans built')
    obtain ⟨branch, among, shown⟩ := exists_of_forall₂ shows.flip isClass
    obtain ⟨holder, leads, -⟩ := shown.properties
    exact (nodup_branch_iff made clean shown leads).mpr
      (apart names selects branch among holder leads)

/-- The filter inputs differ in their properties exactly when no field is called like a combinator
and the fields are called apart. -/
theorem filters_differ_iff (made : Plan.make schema options = .ok plan)
    (clean : plan.verification.faults = []) :
    (∀ declared ∈ typing.filterInputs schema plan.discovered.resources,
      declared.kotlinNames.Nodup) ↔
      ∀ id ∈ plan.discovered.resources, ∀ resource, schema.resource? id = some resource →
        (∀ name ∈ filterSources schema plan.discovered.resources resource,
          kotlinNameOf name (resource.fieldRename? name) ∉ combinatorNames) ∧
        CalledApart (· ∈ recordSources resource) resource.fieldRename?
          (filterSources schema plan.discovered.resources resource) := by
  have reached {id : String} (listed : id ∈ plan.discovered.resources) {resource : Resource}
      (named : schema.resource? id = some resource) :
      resource ∈ plan.discovered.records schema :=
    List.mem_filterMap.mpr ⟨id, List.mem_append_left _ listed, named⟩
  simp only [Typing.filterInputs, List.forall_mem_map, List.mem_filterMap]
  constructor
  · intro differ id listed resource named
    exact (nodup_filterInput_iff typing made clean (reached listed named) _).mp
      (differ resource ⟨id, listed, named⟩)
  · rintro apart resource ⟨id, listed, named⟩
    exact (nodup_filterInput_iff typing made clean (reached listed named) _).mpr
      (apart id listed resource named)

end Plan

/-- The variants of a union differ in their properties exactly when the fields of structs are called
apart. -/
theorem variants_differ_iff {typing : Typing} {union : UnionDef} :
    (∀ variant ∈ (typing.union union).variants, variant.kotlinNames.Nodup) ↔
      ∀ tag container fields instanceOf renames,
        (tag, .struct container fields instanceOf renames) ∈ union.members →
          given? instanceOf = none →
            CalledApart (fun _ => False) (fun name => renames.lookup name)
              (fields.map (·.name)) := by
  simp only [Typing.union, List.forall_mem_map]
  constructor
  · intro differ tag container fields instanceOf renames listed own
    exact (nodup_variant_iff own).mp (differ _ listed)
  · rintro apart ⟨tag, member⟩ listed
    cases member with
    | struct container fields instanceOf renames =>
      cases own : given? instanceOf with
      | none => exact (nodup_variant_iff own).mpr (apart _ _ _ _ _ listed own)
      | some id => exact nodup_variant_of_nothing (by simp [TypeRef.inlinedNames, own])
    | primitive | array | enum | union | resource | unknown => exact nodup_variant_of_nothing rfl

/-- **When the properties of the other classes differ**, in a plan without faults: exactly when the
fields that these are made from are called apart, as far as the checks have not compared them. -/
theorem Plan.properties_differ_iff {schema : Schema} {options : Options} {plan : Plan}
    (typing : Typing) (made : Plan.make schema options = .ok plan)
    (clean : plan.verification.faults = []) :
    PropertiesDiffer schema typing plan ↔ FieldsCalledApart schema plan := by
  constructor
  · intro differ
    have filters := (filters_differ_iff made clean).mp differ.filters
    constructor
    case metadata =>
      intro exposed listed
      cases rendered : typing.metadataClass? exposed.shape with
      | none =>
        rw [metadata_eq_nil rendered]
        exact nodup_uncompared_iff.mp List.nodup_nil
      | some declared =>
        exact (nodup_metadata_iff rendered).mp (differ.metadata exposed listed declared rendered)
    case combinators => exact fun id listed resource named => (filters id listed resource named).1
    case filters => exact fun id listed resource named => (filters id listed resource named).2
    case queries =>
      intro entry listed resource named query held
      exact (queries_differ_iff made clean listed named held).mp
        (differ.queries entry listed resource named query held)
    case variants => exact fun union found => variants_differ_iff.mp (differ.variants union found)
  · intro apart
    constructor
    case metadata =>
      intro exposed listed declared rendered
      exact (nodup_metadata_iff rendered).mpr (apart.metadata exposed listed)
    case filters =>
      refine (filters_differ_iff made clean).mpr fun id listed resource named => ?_
      exact ⟨apart.combinators id listed resource named, apart.filters id listed resource named⟩
    case queries =>
      intro entry listed resource named query held
      exact (queries_differ_iff made clean listed named held).mpr
        (apart.queries entry listed resource named query held)
    case variants => exact fun union found => variants_differ_iff.mpr (apart.variants union found)

/-- What is selected of letters: their titles, something else, and the names of their authors. -/
def letterQuery (selected : String) : TypedQuery where
  name := "inbox"
  action := "read"
  fields := [.field "title", .field selected, .nested [("author", [.text "name"])]]

/-- The replies that letters ask for: a visit or a note. -/
def replies (deadline : String) : List (String × TypeRef) := [
  ("visit", .struct .map [
    { name := "due_date", type := .primitive .date {} },
    { name := deadline, type := .primitive .date {} }] none []),
  ("note", .primitive .string {})]

/-- Reading letters, which tells how long it took. -/
def readLetters (lap : String) : Action where
  name := "read"
  kind := .read
  metadata := [
    { name := "took_ms", type := .primitive .integer {} },
    { name := lap, type := .primitive .integer {} }]

/-- Letters, which ask for a reply. -/
def letter (lap flag deadline : String) : Resource where
  id := "Letter"
  attributes := [
    { name := "title", type := .primitive .string {} },
    { name := flag, type := .primitive .boolean {} },
    { name := "reply", type := .union (replies deadline) none }]
  relationships := [{ name := "author", kind := .belongsTo, destination := "Person" }]
  actions := [readLetters lap]

/-- Letters that clients may read. -/
def letterSchemaWith (lap flag selected deadline : String) : Schema where
  resources := [
    letter lap flag deadline,
    { id := "Person", attributes := [{ name := "name", type := .primitive .string {} }] }]
  domains := [{
    name := "Main"
    rpc := [{
      resource := "Letter"
      actions := [{ name := "list_letters", action := "read" }]
      typedQueries := [letterQuery selected] }] }]

/-- The call that reads letters. -/
def readsLetters (lap flag deadline : String) : ExposedAction where
  resource := letter lap flag deadline
  action := readLetters lap
  rpcAction := { name := "list_letters", action := "read" }

section Letters

variable {lap flag selected deadline : String} {typing : Typing}

/-- The names in the code of fields that are not renamed. -/
def namesInCode (names : List String) : List String :=
  names.map fun name => kotlinNameOf name none

theorem discovered_letters (lap flag selected deadline : String) :
    ((letterSchemaWith lap flag selected deadline).discovery.resources,
        (letterSchemaWith lap flag selected deadline).discovery.unions.map (·.members)) =
      (["Letter", "Person"], [replies deadline]) := by
  cbv

theorem kotlinNames_letterMetadata :
    (typing.metadataClass? (readsLetters lap flag deadline).shape).map DataClass.kotlinNames =
      some (namesInCode ["took_ms", lap]) := rfl

theorem kotlinNames_letterClasses
    (checked : selectionsFaults (letterSchemaWith lap flag selected deadline) "inbox"
      (letter lap flag deadline) (letterQuery selected).selection = .ok []) :
    ∃ text classes,
      typing.queryText (letterSchemaWith lap flag selected deadline) (letter lap flag deadline)
        (letterQuery selected) = .ok text ∧
      typing.queryClasses (letterSchemaWith lap flag selected deadline) (letter lap flag deadline)
        (letterQuery selected) = .ok classes ∧
      classes.map DataClass.kotlinNames =
        [namesInCode ["title", selected, "author"], namesInCode ["name"]] := by
  have selects : (letterQuery selected).selection = NameTree.selections
      [.field "title", .field selected, .nested "author" [.field "name"]] := rfl
  obtain ⟨text, written⟩ := (typing.queryText_isOk_iff checked).mpr ⟨_, selects⟩
  obtain ⟨classes, built, shows⟩ := typing.exists_queryClasses selects checked
  refine ⟨text, classes, written, built, ?_⟩
  cases shows with
  | cons first others =>
    cases others with
    | cons second others =>
      cases others
      rw [List.map_cons, List.map_singleton, first.kotlinNames_eq rfl, second.kotlinNames_eq rfl]
      rfl

theorem kotlinNames_letterVariants {union : UnionDef} (held : union.members = replies deadline) :
    (typing.union union).variants.map DataClass.kotlinNames =
      [namesInCode ["due_date", deadline], ["value"]] := by
  rw [Typing.union, held]
  rfl

/-- What a plan for letters has found. -/
theorem plan_letters {options : Options} {plan : Plan}
    (made : Plan.make (letterSchemaWith lap flag selected deadline) options = .ok plan) :
    plan.exposed = [readsLetters lap flag deadline] ∧
      plan.discovered.resources = ["Letter", "Person"] ∧
      plan.discovered.unions.map (·.members) = [replies deadline] := by
  have found := discovered_letters lap flag selected deadline
  rw [Plan.exposed_eq made, Plan.discovered_eq made]
  exact ⟨rfl, congrArg Prod.fst found, congrArg Prod.snd found⟩

/-- Nothing is found about the query in a plan for letters without faults. -/
theorem letterQuery_checked {options : Options} {plan : Plan}
    (made : Plan.make (letterSchemaWith lap flag selected deadline) options = .ok plan)
    (clean : plan.verification.faults = []) :
    selectionsFaults (letterSchemaWith lap flag selected deadline) "inbox"
      (letter lap flag deadline) (letterQuery selected).selection = .ok [] := by
  obtain ⟨resource, named, checked⟩ := Plan.query_checked made clean List.mem_cons_self
  obtain rfl : letter lap flag deadline = resource := Option.some.inj named
  exact checked _ List.mem_cons_self

end Letters

/-- Letters whose properties differ. -/
def apartLetters : Schema := letterSchemaWith "lap_ms" "is_open" "is_open" "latest"

/-- The properties for letters differ, and so their fields are called apart. -/
theorem letter_properties_differ :
    ∃ plan, Plan.make apartLetters { filterTypes := true } = .ok plan ∧
      plan.verification.faults = [] ∧
      PropertiesDiffer apartLetters (.ofSchema apartLetters { filterTypes := true }) plan ∧
      FieldsCalledApart apartLetters plan := by
  have evaluated :
      (Plan.make apartLetters { filterTypes := true }).toOption.map (·.verification.faults) =
        some [] := by
    cbv
  obtain ⟨plan, made, clean⟩ := Plan.exists_of_evaluated evaluated
  obtain ⟨exposed, resources, unions⟩ := plan_letters made
  have differ :
      PropertiesDiffer apartLetters (.ofSchema apartLetters { filterTypes := true }) plan := by
    constructor
    case metadata =>
      intro call listed declared rendered
      rw [exposed] at listed
      rw [List.mem_singleton.mp listed] at rendered
      have names := kotlinNames_letterMetadata.symm.trans (congrArg _ rendered)
      rw [← Option.some.inj names]
      decide +kernel
    case filters =>
      rw [resources, ← List.forall_mem_map (P := List.Nodup)]
      decide +kernel
    case queries =>
      intro entry listed resource named query held text _ classes built
      obtain rfl := List.mem_singleton.mp listed
      obtain rfl := List.mem_singleton.mp held
      obtain rfl : letter "lap_ms" "is_open" "latest" = resource := Option.some.inj named
      obtain ⟨_, _, -, built', names⟩ := kotlinNames_letterClasses (letterQuery_checked made clean)
      obtain rfl := Except.ok.inj (built'.symm.trans built)
      rw [← List.forall_mem_map (P := List.Nodup), names]
      decide +kernel
    case variants =>
      intro union found
      have held : union.members ∈ plan.discovered.unions.map (·.members) :=
        List.mem_map_of_mem found
      rw [unions, List.mem_singleton] at held
      rw [← List.forall_mem_map (P := List.Nodup), kotlinNames_letterVariants held]
      decide +kernel
  exact ⟨plan, made, clean, differ, (Plan.properties_differ_iff _ made clean).mp differ⟩

/-- Letters whose properties meet. -/
def meetingLetters : Schema := letterSchemaWith "tookMs" "not" "title" "dueDate"

/-- **Nothing is found about properties that meet** in a class of each of these kinds: two metadata
fields of one form in camelCase, an attribute that is called like a combinator, a field that is
selected twice, and two fields of a struct in a union. -/
theorem uncompared_properties_meet :
    ∃ plan, Plan.make meetingLetters { filterTypes := true } = .ok plan ∧
      plan.verification.faults = [] ∧
      (∃ exposed ∈ plan.exposed, ∃ declared,
        (Typing.ofSchema meetingLetters { filterTypes := true }).metadataClass? exposed.shape =
            some declared ∧ declared.kotlinNames = ["tookMs", "tookMs"]) ∧
      (∃ declared ∈ (Typing.ofSchema meetingLetters { filterTypes := true }).filterInputs
          meetingLetters plan.discovered.resources,
        declared.kotlinNames = ["and", "or", "not", "title", "not", "reply", "author"]) ∧
      (∃ text classes,
        (Typing.ofSchema meetingLetters { filterTypes := true }).queryText meetingLetters
          (letter "tookMs" "not" "dueDate") (letterQuery "title") = .ok text ∧
        (Typing.ofSchema meetingLetters { filterTypes := true }).queryClasses meetingLetters
          (letter "tookMs" "not" "dueDate") (letterQuery "title") = .ok classes ∧
        ∃ declared ∈ classes, declared.kotlinNames = ["title", "title", "author"]) ∧
      (∃ union ∈ plan.discovered.unions,
        ∃ variant ∈ ((Typing.ofSchema meetingLetters { filterTypes := true }).union union).variants,
          variant.kotlinNames = ["dueDate", "dueDate"]) ∧
      ¬PropertiesDiffer meetingLetters (.ofSchema meetingLetters { filterTypes := true }) plan := by
  have evaluated :
      (Plan.make meetingLetters { filterTypes := true }).toOption.map (·.verification.faults) =
        some [] := by
    cbv
  obtain ⟨plan, made, clean⟩ := Plan.exists_of_evaluated evaluated
  obtain ⟨exposed, resources, unions⟩ := plan_letters made
  have metadata : ∃ exposed ∈ plan.exposed, ∃ declared,
      (Typing.ofSchema meetingLetters { filterTypes := true }).metadataClass? exposed.shape =
        some declared ∧ declared.kotlinNames = ["tookMs", "tookMs"] := by
    rw [exposed]
    have names : namesInCode ["took_ms", "tookMs"] = ["tookMs", "tookMs"] := by decide +kernel
    exact ⟨_, List.mem_cons_self, _, rfl, names⟩
  refine ⟨plan, made, clean, metadata, ?filters, ?queries, ?variants, fun differ => ?_⟩
  case filters =>
    have names : combinatorNames ++ namesInCode ["title", "not", "reply", "author"] =
        ["and", "or", "not", "title", "not", "reply", "author"] := by decide +kernel
    rw [resources]
    exact ⟨_, List.mem_cons_self, names⟩
  case queries =>
    have names : namesInCode ["title", "title", "author"] = ["title", "title", "author"] := by
      decide +kernel
    obtain ⟨text, classes, written, built, each⟩ :=
      kotlinNames_letterClasses (letterQuery_checked made clean)
    refine ⟨text, classes, written, built, ?_⟩
    rw [names] at each
    have first : ["title", "title", "author"] ∈ classes.map DataClass.kotlinNames := by
      rw [each]
      exact List.mem_cons_self
    exact List.mem_map.mp first
  case variants =>
    have held : replies "dueDate" ∈ plan.discovered.unions.map (·.members) := by
      rw [unions]
      exact List.mem_cons_self
    obtain ⟨union, found, members⟩ := List.mem_map.mp held
    have names : namesInCode ["due_date", "dueDate"] = ["dueDate", "dueDate"] := by decide +kernel
    have first : ["dueDate", "dueDate"] ∈
        ((Typing.ofSchema meetingLetters { filterTypes := true }).union union).variants.map
          DataClass.kotlinNames := by
      rw [kotlinNames_letterVariants members, names]
      exact List.mem_cons_self
    exact ⟨union, found, List.mem_map.mp first⟩
  · obtain ⟨exposed, listed, declared, rendered, names⟩ := metadata
    have apart := differ.metadata exposed listed declared rendered
    rw [names] at apart
    exact absurd apart (by decide)

end TypedRpc
