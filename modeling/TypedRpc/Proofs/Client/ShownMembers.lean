import Mathlib.Data.List.Forall2
import TypedRpc.Proofs.Client.ClosedWorld
import TypedRpc.Proofs.Client.GeneratedNames
import TypedRpc.Proofs.Client.TypedQuery

/-!
# The types of inputs and of typed queries are declared

A traversal goes over what is public, while an input takes any attribute that its action accepts and
a typed query shows any member that it selects.  What both show of public members is declared, as
far as the traversal has come: the resource of an action has been reached, and so has every resource
that public relationships lead to from there.

* `Schema.publicValues`, `holds_of_publicValue`: what a traversal has found of a reached resource.
* `shownValue?`, `Typing.Shows.type_eq`: the value whose type a property shows.
* `Schema.FollowsPublic`, `rendered_of_followsPublic`: what public relationships lead to is
  rendered.
* `ShownMembersClosed`, `plan_shownMembersClosed`: the statement about all inputs and queries.
* `private_member_open`: an input and a query that show what no traversal has found.
-/

namespace TypedRpc

open Target (TypeExpr Property DataClass)
open Discovery (typeFindings resourceFindings NotEmpty)

/-! ## Public values -/

section PublicValues

variable {schema : Schema}

/-- The public members of a resource with their names and types.  An aggregate counts when its type
is that of a field at the end of its path. -/
def Schema.publicValues (schema : Schema) (resource : Resource) : List (String × TypeRef) :=
  (resource.publicAttributes.map fun stored => (stored.name, stored.type)) ++
    (resource.publicCalculations.map fun calculation => (calculation.name, calculation.type)) ++
    ((resource.publicAggregates.filter (·.hasBackingField)).map fun aggregate =>
      (aggregate.name, schema.aggregateType resource aggregate)) ++
    resource.publicRelationships.map fun relationship =>
      (relationship.name, relationship.type)

theorem typeFindings_relationship (relationship : Relationship) (owner : String) :
    typeFindings schema owner relationship.type = [.reference relationship.destination] := by
  rw [← Discovery.typeFindings_core, relationship.core_type, typeFindings]

/-- What a traversal notes of a resource is what the types of its public members hold. -/
theorem resourceFindings_eq_flatMap (resource : Resource) :
    resourceFindings schema resource =
      (schema.publicValues resource).flatMap fun value => typeFindings schema value.1 value.2 := by
  simp only [resourceFindings, Schema.publicValues, List.flatMap_append, List.flatMap_map,
    typeFindings_relationship]
  rw [List.map_eq_flatMap]

/-- What the type of a public member of a rendered record holds has been found. -/
theorem Schema.holds_of_publicValue {record : Resource}
    (rendered : record ∈ schema.discovery.records schema) {value : String × TypeRef}
    (shown : value ∈ schema.publicValues record) :
    schema.discovery.Holds (typeFindings schema value.1 value.2) := by
  refine (Schema.holds_of_record rendered).mono fun finding held => ?_
  rw [resourceFindings_eq_flatMap]
  exact List.mem_flatMap.mpr ⟨value, shown, held⟩

end PublicValues

/-! ## The values that properties show -/

/-- The value whose type the property for an item of a selection shows: an attribute, a calculation,
an aggregate or a whole relationship, whether it is public or not.  A relationship with a selection
of its own is shown by a class that is declared with the query. -/
def Schema.shownValue? (schema : Schema) (holder : Resource) :
    NameTree → Option (String × TypeRef)
  | .field name =>
    ((holder.storedField? name).map fun field => (field.name, field.type)).or <|
      ((holder.aggregate? name).map fun aggregate =>
        (name, schema.aggregateType holder aggregate)).or <|
      (holder.relationship? name).map fun relationship =>
        (relationship.name, relationship.type)
  | .nested .. => none

namespace Typing

variable {typing : Typing} {schema : Schema}

theorem typeOf_relationship (plain : typing.options.typeOverrides = []) (owner : Option String)
    (relationship : Relationship) :
    typing.typeOf owner relationship.type =
      typing.relatedType relationship.destination relationship.cardinality := by
  rw [typeOf_eq plain, relationship.core_type, typeOf_resource plain]
  unfold Relationship.type relatedType recordType
  rw [typeOf_resource plain]
  cases relationship.cardinality <;> rfl

/-- A property has the type of the value that it shows, which may admit null. -/
theorem Shows.type_eq (plain : typing.options.typeOverrides = []) {holder : Resource}
    {className : String} {item : NameTree} {property : Property}
    (shows : typing.Shows schema holder className item property) {value : String × TypeRef}
    (shown : schema.shownValue? holder item = some value) :
    property.type = typing.typeOf (some value.1) value.2 ∨
      property.type = .nullable (typing.typeOf (some value.1) value.2) := by
  cases shows with
  | @stored name field found =>
    simp only [Schema.shownValue?, found, Option.map_some, Option.some_or] at shown
    cases shown
    exact property_type field rfl rfl _ _
  | @aggregate name aggregate unstored found =>
    simp only [Schema.shownValue?, unstored, found, Option.map_none, Option.map_some,
      Option.none_or, Option.some_or] at shown
    cases shown
    refine .inr ?_
    change (if aggregate.nullable then _ else _) = _
    split
    · exact Target.orNull_nullable _
    · rfl
  | @related name relationship unstored single found =>
    simp only [Schema.shownValue?, unstored, single, found, Option.map_none, Option.map_some,
      Option.none_or] at shown
    cases shown
    rw [typeOf_relationship plain]
    exact Target.orNull_eq _
  | one => cases shown
  | many => cases shown

end Typing

/-! ## What public relationships lead to -/

/-- Whether public relationships of the names on a path lead from a resource to another one. -/
inductive Schema.FollowsPublic (schema : Schema) : Resource → List String → Resource → Prop
  | here (resource : Resource) : FollowsPublic schema resource [] resource
  | onward {resource destination holder : Resource} {relationship : Relationship} {name : String}
      {path : List String}
      (found : schema.destination? resource name = some (relationship, destination))
      (shown : relationship.isPublic = true)
      (rest : FollowsPublic schema destination path holder) :
      FollowsPublic schema resource (name :: path) holder

/-- **What public relationships of a rendered record lead to is rendered.** -/
theorem Schema.rendered_of_followsPublic {schema : Schema} {resource holder : Resource}
    {path : List String} (follows : schema.FollowsPublic resource path holder)
    (rendered : resource ∈ schema.discovery.records schema) :
    holder ∈ schema.discovery.records schema := by
  induction follows with
  | here => exact rendered
  | @onward resource destination holder relationship name path found shown _ ih =>
    obtain ⟨_, known, found⟩ := Option.bind_eq_some_iff.mp found
    obtain ⟨_, existing, same⟩ := Option.bind_eq_some_iff.mp found
    cases same
    have isShown : relationship ∈ resource.publicRelationships :=
      List.mem_filter.mpr ⟨List.mem_of_find?_eq_some known, shown⟩
    exact ih (rendered_of_found (found_of_relationship rendered isShown) existing)

/-- The resources that entries name are rendered. -/
theorem Schema.rendered_of_entry {schema : Schema} {entry : RpcResource} {resource : Resource}
    (listed : entry ∈ schema.rpcResources)
    (named : schema.resource? entry.resource = some resource) :
    resource ∈ schema.discovery.records schema := by
  have visited := visited_of_entry listed named
  rw [id_of_resource? named] at visited
  exact List.mem_filterMap.mpr
    ⟨entry.resource, Discovery.mem_allResources_discover.mpr visited, named⟩

/-! ## Inputs -/

/-- Whether clients see a field of an input elsewhere. -/
def InputField.isPublic : InputField → Bool
  | .stored field => field.isPublic
  | .argument field => field.isPublic

/-- What the type of a public field of an input holds has been found. -/
theorem Schema.holds_of_inputField {schema : Schema} {exposed : ExposedAction}
    (listed : exposed ∈ schema.exposedActions) {field : InputField}
    (taken : field ∈ exposed.shape.inputFields) (shown : field.isPublic = true) :
    schema.discovery.Holds (typeFindings schema field.spec.name field.spec.type) := by
  obtain ⟨entry, held, named, -⟩ := mem_exposedActions_iff.mp listed
  have rendered := rendered_of_entry held named
  rcases List.mem_append.mp taken with accepted | argued
  · obtain ⟨stored, chosen, rfl⟩ := List.mem_map.mp accepted
    have own : stored ∈ exposed.resource.attributes := by
      unfold acceptedAttributes at chosen
      split_ifs at chosen
      · obtain ⟨name, -, found⟩ := List.mem_filterMap.mp chosen
        exact List.mem_of_find?_eq_some found
      · cases chosen
    exact holds_of_attribute rendered (List.mem_filter.mpr ⟨own, shown⟩)
  · obtain ⟨argument, own, rfl⟩ := List.mem_map.mp argued
    exact holds_of_argument listed own

/-! ## What inputs and queries show -/

section Shown

variable {schema : Schema} {options : Options}

/-- Whether a class for the selection at the end of a path is closed where it shows public members,
given the resource that the path leads to.  That is rendered where the relationships of the path are
public. -/
structure BranchClosed (schema : Schema) (found : Discovery) (root : Resource)
    (branch : NameTree.Branch) (declared : DataClass) (holder : Resource) : Prop where
  leads : schema.relatedResource? (some root) branch.path = some holder
  rendered : schema.FollowsPublic root branch.path holder → holder ∈ found.records schema
  closed : holder ∈ found.records schema →
    List.Forall₂
      (fun item property => ∀ value, schema.shownValue? holder item = some value →
        value ∈ schema.publicValues holder →
          Closed NotEmpty schema found value.1 value.2 property.type)
      branch.items declared.properties

/-- **Whether the types that inputs and typed queries show of public members are declared.**  That
is said of the public attributes that an action accepts and of its arguments, and of the public
members of rendered records that a query selects, at any depth. -/
structure ShownMembersClosed (schema : Schema) (typing : Typing) (plan : Plan) : Prop where
  inputs : ∀ exposed ∈ plan.exposed, ∀ declared,
    (typing.inputClass? exposed.shape).result = .ok (some declared) →
      List.Forall₂
        (fun field property => field.isPublic = true →
          Closed NotEmpty schema plan.discovered field.spec.name field.spec.type property.type)
        exposed.shape.inputFields declared.properties
  queries : ∀ entry ∈ schema.rpcResources, ∀ resource,
    schema.resource? entry.resource = some resource → ∀ query ∈ entry.typedQueries, ∀ text,
      typing.queryText schema resource query = .ok text →
        ∃ names classes literal, query.selection = NameTree.selections names ∧
          text = query.text resource classes literal ∧
          List.Forall₂
            (fun branch declared =>
              ∃ holder, BranchClosed schema plan.discovered resource branch declared holder)
            (NameTree.preorder names) classes

theorem closed_input (plain : options.typeOverrides = [])
    (known : ∀ reference ∈ schema.discovery.references, (schema.resource? reference.id).isSome)
    {exposed : ExposedAction} (listed : exposed ∈ schema.exposedActions) {declared : DataClass}
    (made : ((Typing.ofSchema schema options).inputClass? exposed.shape).result =
      .ok (some declared)) :
    List.Forall₂
      (fun field property => field.isPublic = true →
        Closed NotEmpty schema schema.discovery field.spec.name field.spec.type property.type)
      exposed.shape.inputFields declared.properties := by
  have each := (List.forall₂_and_left _ _).mpr
    ⟨fun field (taken : field ∈ exposed.shape.inputFields) => taken,
      Typing.properties_of_inputClass? made⟩
  refine each.imp fun field property both shown => ?_
  obtain ⟨taken, annotations, -, rfl⟩ := both
  exact closed_of_held plain known (Schema.holds_of_inputField listed taken shown)
    (Typing.property_type field.spec rfl rfl _ _)

theorem branchClosed_of_showsBranch (plain : options.typeOverrides = [])
    (known : ∀ reference ∈ schema.discovery.references, (schema.resource? reference.id).isSome)
    {root : Resource} (rendered : root ∈ schema.discovery.records schema) {rootName : String}
    {branch : NameTree.Branch} {declared : DataClass}
    (shows : (Typing.ofSchema schema options).ShowsBranch schema root rootName branch declared) :
    ∃ holder, BranchClosed schema schema.discovery root branch declared holder := by
  obtain ⟨holder, leads, each⟩ := shows.properties
  refine ⟨holder, leads, fun follows => Schema.rendered_of_followsPublic follows rendered,
    fun reached => each.imp fun item property shown value is_shown isPublic => ?_⟩
  exact closed_of_held plain known (Schema.holds_of_publicValue reached isPublic)
    (shown.type_eq plain is_shown)

end Shown

/-- **The types that inputs and typed queries show of public members are declared**, in a plan
without faults and with options that do not override any types. -/
theorem plan_shownMembersClosed {schema : Schema} {options : Options} {plan : Plan}
    (made : Plan.make schema options = .ok plan) (clean : plan.verification.faults = [])
    (plain : options.typeOverrides = []) :
    ShownMembersClosed schema (.ofSchema schema options) plan := by
  have known : ∀ reference ∈ schema.discovery.references, (schema.resource? reference.id).isSome :=
    (rpcConfigFaults_eq_nil_iff.mp (Plan.rpcConfigFaults_eq made clean)).2.2
  constructor
  case inputs =>
    rw [Plan.discovered_eq made, Plan.exposed_eq made]
    intro exposed listed declared rendered
    exact closed_input plain known listed rendered
  case queries =>
    rw [Plan.discovered_eq made]
    intro entry listed resource named query held text written
    obtain ⟨_, named', checked⟩ := Plan.query_checked made clean listed
    obtain rfl := Option.some.inj (named.symm.trans named')
    obtain ⟨names, selects⟩ :=
      (Typing.queryText_isOk_iff (checked query held)).mp ⟨text, written⟩
    obtain ⟨classes, built, literal, -, same⟩ := Typing.queryText_eq_ok_iff.mp written
    obtain ⟨_, built', shows⟩ :=
      (Typing.ofSchema schema options).exists_queryClasses selects (checked query held)
    obtain rfl := Except.ok.inj (built.symm.trans built')
    refine ⟨names, classes, literal, selects, same.symm, shows.imp fun branch declared shown => ?_⟩
    exact branchClosed_of_showsBranch plain known (Schema.rendered_of_entry listed named) shown

/-- A query for the bodies of posts and the badges of their authors. -/
def postQuery : TypedQuery where
  name := "overview"
  action := "read"
  fields := [.field "body", .nested [("author", [.text "badge"])]]

/-- Posts with a body and an author, both public. -/
def postSchema : Schema where
  resources := [
    { id := "Post"
      attributes := [{ name := "body", type := .union [("plain", .primitive .string {})] none }]
      relationships := [{ name := "author", kind := .belongsTo, destination := "Person" }]
      actions := [
        { name := "read", kind := .read },
        { name := "create", kind := .create, accept := ["body"] }] },
    { id := "Person"
      attributes := [{
        name := "badge", type := .array (.union [("level", .primitive .integer {})] none) {} }] }]
  domains := [{
    name := "Main"
    rpc := [{
      resource := "Post"
      actions := [{ name := "create_post", action := "create" }]
      typedQueries := [postQuery] }] }]

/-- What the input and the query for posts show. -/
theorem post_shownMembersClosed :
    ∃ plan, Plan.make postSchema {} = .ok plan ∧ plan.verification.faults = [] ∧
      ({} : Options).typeOverrides = [] ∧
      ShownMembersClosed postSchema (.ofSchema postSchema {}) plan := by
  have evaluated : (Plan.make postSchema {}).toOption.map (·.verification.faults) = some [] := by
    cbv
  obtain ⟨plan, made, clean⟩ := Plan.exists_of_evaluated evaluated
  exact ⟨plan, made, clean, rfl, plan_shownMembersClosed made clean rfl⟩

/-- The action that makes drafts, which accepts the body that clients do not see. -/
def draftCreation : ExposedAction where
  resource := {
    id := "Draft"
    attributes := [{
      name := "body", type := .union [("plain", .primitive .string {})] none, isPublic := false }]
    actions := [
      { name := "create", kind := .create, accept := ["body"] },
      { name := "read", kind := .read }] }
  action := { name := "create", kind := .create, accept := ["body"] }
  rpcAction := { name := "create_draft", action := "create" }

/-- A query for the bodies of drafts. -/
def draftQuery : TypedQuery where
  name := "bodies"
  action := "read"
  fields := [.field "body"]

/-- Drafts whose bodies are not public. -/
def draftSchema : Schema where
  resources := [draftCreation.resource]
  domains := [{
    name := "Main"
    rpc := [{
      resource := "Draft", actions := [draftCreation.rpcAction], typedQueries := [draftQuery] }] }]

/-- Nothing is found about an attribute that is accepted and selected although it is not public.
The input and the query show its union, which is not declared. -/
theorem private_member_open :
    ∃ plan, Plan.make draftSchema {} = .ok plan ∧ plan.verification.faults = [] ∧
      ({} : Options).typeOverrides = [] ∧ draftCreation ∈ plan.exposed ∧
      (∃ declared property,
        ((Typing.ofSchema draftSchema {}).inputClass? draftCreation.shape).result =
          .ok (some declared) ∧ property ∈ declared.properties ∧
        property.type = .nullable (.named "BodyUnion")) ∧
      (∃ declared property,
        (Typing.ofSchema draftSchema {}).queryClasses draftSchema draftCreation.resource
          draftQuery = .ok [declared] ∧ property ∈ declared.properties ∧
        property.type = .nullable (.named "BodyUnion")) ∧
      plan.discovered.unions = [] ∧
      (plan.discovered.records draftSchema).map Resource.declaredTypeName = ["Draft"] := by
  have evaluated : (Plan.make draftSchema {}).toOption.map (·.verification.faults) = some [] := by
    cbv
  obtain ⟨plan, made, clean⟩ := Plan.exists_of_evaluated evaluated
  have listed : draftCreation ∈ plan.exposed := by
    rw [Plan.exposed_eq made]
    exact List.mem_singleton.mpr rfl
  refine ⟨plan, made, clean, rfl, listed, ?input, ?query, ?unions, ?records⟩
  case input => exact ⟨_, _, rfl, List.mem_singleton.mpr rfl, by decide +kernel⟩
  case query => exact ⟨_, _, rfl, List.mem_singleton.mpr rfl, by decide +kernel⟩
  case unions =>
    rw [Plan.discovered_eq made]
    cbv
  case records =>
    rw [Plan.discovered_eq made]
    cbv

end TypedRpc
