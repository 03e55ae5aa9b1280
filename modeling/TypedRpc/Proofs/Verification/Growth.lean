import Mathlib.Data.List.Flatten
import Mathlib.Data.List.Perm.Subperm
import TypedRpc.Proofs.Client.Plan
import TypedRpc.Proofs.Schema.Resources

/-!
# Exposing more hides no fault

A traversal visits resources in an order that depends on the entries, the paths that it notes do as
well, and of several types with one name the first one met is kept.  Still, what the checks decide
depends on no order, and a schema that exposes more has every kind of fault that it had before.

* `RpcResource.ExtendedBy`, `Schema.ExtendedBy`: more entries, more actions and typed queries in
  them, and all of them in any order.
* `Schema.ExtendedBy.findings`: what a traversal finds, it finds in the extension.
* `Schema.ExtendedBy.unreported`: a check that finds nothing in the extension finds nothing.
* `categories_kept`: the statement about whole plans.
-/

namespace TypedRpc

/-! ## Extensions -/

/-- Whether the items of a list stand among those of another, in any order, each changed as a
relation allows. -/
def Embeds {α : Type} (R : α → α → Prop) (items others : List α) : Prop :=
  ∃ changed, List.Forall₂ R items changed ∧ List.Subperm changed others

/-- Whether an entry exposes whatever another one does, of the same resource. -/
structure RpcResource.ExtendedBy (entry other : RpcResource) : Prop where
  resource : entry.resource = other.resource
  actions : List.Subperm entry.actions other.actions
  typedQueries : List.Subperm entry.typedQueries other.typedQueries

/-- Whether a domain exposes whatever another one does. -/
def Domain.ExtendedBy (domain other : Domain) : Prop :=
  Embeds RpcResource.ExtendedBy domain.rpc other.rpc

/-- Whether a schema with the same resources exposes whatever another one does, in any order.  It
does not matter which domains the entries stand in. -/
structure Schema.ExtendedBy (schema other : Schema) : Prop where
  resources : schema.resources = other.resources
  entries : Embeds RpcResource.ExtendedBy schema.rpcResources other.rpcResources

section Embeds

variable {α β : Type} {R : α → α → Prop}

theorem Embeds.exists_of_mem {items others : List α} (h : Embeds R items others) {item : α}
    (listed : item ∈ items) : ∃ other ∈ others, R item other := by
  obtain ⟨changed, paired, among⟩ := h
  obtain ⟨other, held, related⟩ := exists_of_forall₂ paired listed
  exact ⟨other, among.subset held, related⟩

theorem nodup_of_subperm {items others : List α} (h : List.Subperm items others)
    (distinct : others.Nodup) : items.Nodup := by
  obtain ⟨same, perm, among⟩ := h
  exact perm.nodup_iff.mp (distinct.sublist among)

theorem subperm_flatMap {items others : List α} (h : List.Subperm items others)
    (f : α → List β) : List.Subperm (items.flatMap f) (others.flatMap f) := by
  obtain ⟨same, perm, among⟩ := h
  exact ⟨same.flatMap f, perm.flatMap_right f, among.flatMap f⟩

theorem subperm_map {items others : List α} (h : List.Subperm items others) (f : α → β) :
    List.Subperm (items.map f) (others.map f) := by
  obtain ⟨same, perm, among⟩ := h
  exact ⟨same.map f, perm.map f, among.map f⟩

/-- What the items of a list hold stands among what those of another hold. -/
theorem Embeds.subperm_flatMap {items others : List α} (h : Embeds R items others)
    {f : α → List β} (grows : ∀ item other, R item other → List.Subperm (f item) (f other)) :
    List.Subperm (items.flatMap f) (others.flatMap f) := by
  obtain ⟨changed, paired, among⟩ := h
  refine List.Subperm.trans ?_ (TypedRpc.subperm_flatMap among f)
  clear among
  induction paired with
  | nil => exact List.Subperm.refl _
  | cons related _ ih => exact (grows _ _ related).append ih

/-- The items of lists are embedded when the lists are. -/
theorem Embeds.flatMap {S : β → β → Prop} {items others : List α} (h : Embeds R items others)
    {f : α → List β} (grows : ∀ item other, R item other → Embeds S (f item) (f other)) :
    Embeds S (items.flatMap f) (others.flatMap f) := by
  obtain ⟨changed, paired, among⟩ := h
  have inner : Embeds S (items.flatMap f) (changed.flatMap f) := by
    clear among
    induction paired with
    | nil => exact ⟨[], .nil, List.Subperm.refl _⟩
    | cons related _ ih =>
      obtain ⟨here, paired, among⟩ := grows _ _ related
      obtain ⟨there, paired', among'⟩ := ih
      exact ⟨here ++ there, List.rel_append paired paired', among.append among'⟩
  obtain ⟨held, paired', among'⟩ := inner
  exact ⟨held, paired', among'.trans (TypedRpc.subperm_flatMap among f)⟩

end Embeds

/-- Domains may be added and reordered, and entries within them. -/
theorem Schema.extendedBy_of_domains {schema other : Schema}
    (resources : schema.resources = other.resources)
    (domains : Embeds Domain.ExtendedBy schema.domains other.domains) :
    schema.ExtendedBy other :=
  ⟨resources, domains.flatMap fun _ _ h => h⟩

namespace Schema.ExtendedBy

variable {schema other : Schema} (extended : schema.ExtendedBy other)

include extended

/-! ## What is exposed -/

theorem rpcNames : List.Subperm (rpcNames schema.rpcResources) (rpcNames other.rpcResources) :=
  extended.entries.subperm_flatMap fun _ _ grown => subperm_map grown.actions _

theorem mem_exposedIds {id : String} (h : id ∈ schema.exposedResourceIds) :
    id ∈ other.exposedResourceIds := by
  rw [exposedResourceIds, mem_firstOccurrences, List.mem_map] at h ⊢
  obtain ⟨entry, listed, rfl⟩ := h
  obtain ⟨larger, held, grown⟩ := extended.entries.exists_of_mem listed
  exact ⟨larger, held, grown.resource.symm⟩

theorem mem_exposedActions {exposed : ExposedAction} (h : exposed ∈ schema.exposedActions) :
    exposed ∈ other.exposedActions := by
  rw [mem_exposedActions_iff] at h ⊢
  obtain ⟨entry, listed, named, held, chosen⟩ := h
  obtain ⟨larger, held_larger, grown⟩ := extended.entries.exists_of_mem listed
  refine ⟨larger, held_larger, ?_, grown.actions.subset held, chosen⟩
  rw [← grown.resource, ← resource?_congr extended.resources, named]

theorem mem_actionRoots {root : TypeRoot} (h : root ∈ actionRoots schema.exposedActions) :
    root ∈ actionRoots other.exposedActions := by
  rw [actionRoots, List.mem_flatMap] at h ⊢
  obtain ⟨exposed, listed, held⟩ := h
  exact ⟨exposed, extended.mem_exposedActions listed, held⟩

/-! ## What a traversal finds -/

theorem reaches {id : String}
    (h : schema.Reaches Discovery.NotEmpty schema.exposedResourceIds
      (actionRoots schema.exposedActions) id) :
    other.Reaches Discovery.NotEmpty other.exposedResourceIds
      (actionRoots other.exposedActions) id := by
  obtain ⟨first, ⟨begun, existing⟩, path⟩ := h
  rw [resource?_congr extended.resources] at existing
  have leads (source target : String) (h : schema.Leads Discovery.NotEmpty source target) :
      other.Leads Discovery.NotEmpty source target := leads_congr extended.resources h
  refine ⟨first, ⟨?_, existing⟩, Relation.ReflTransGen.mono leads _ _ path⟩
  rcases begun with listed | ⟨root, listed, mentioned⟩
  · exact .inl (extended.mem_exposedIds listed)
  · exact .inr ⟨root, extended.mem_actionRoots listed, mentioned⟩

theorem visited {id : String} (h : id ∈ schema.discovery.visited) :
    id ∈ other.discovery.visited :=
  Discovery.mem_visited_iff_reaches.mpr (extended.reaches (Discovery.mem_visited_iff_reaches.mp h))

/-- **What a traversal finds, it finds in an extension.**  The order and the paths may differ. -/
theorem findings {finding : Discovery.Finding} (h : finding ∈ schema.discovery.findings) :
    finding ∈ other.discovery.findings := by
  have same := extended.resources
  rw [discovery, Discovery.mem_findings_discover] at h ⊢
  rcases h with held | held
  · obtain ⟨root, listed, held⟩ := List.mem_flatMap.mp held
    rw [Discovery.typeFindings_congr same] at held
    exact .inl (List.mem_flatMap.mpr ⟨root, extended.mem_actionRoots listed, held⟩)
  · rw [Discovery.mem_visitFindings] at held
    obtain ⟨id, marked, resource, named, held⟩ := held
    rw [Discovery.resourceFindings_congr same] at held
    rw [resource?_congr same] at named
    exact .inr (Discovery.mem_visitFindings.mpr
      ⟨id, extended.visited marked, resource, named, held⟩)

theorem mem_records {resource : Resource} (h : resource ∈ schema.discovery.records schema) :
    resource ∈ other.discovery.records other := by
  rw [Discovery.records, List.mem_filterMap] at h ⊢
  obtain ⟨id, listed, named⟩ := h
  rw [resource?_congr extended.resources] at named
  have visited := extended.visited (Discovery.mem_allResources_discover.mp listed)
  exact ⟨id, Discovery.mem_allResources_discover.mpr visited, named⟩

theorem exists_enum {enum : EnumDef} (h : enum ∈ schema.discovery.enumOccurrences) :
    ∃ larger ∈ other.discovery.enumOccurrences,
      larger.name = enum.name ∧ larger.values = enum.values := by
  have found := extended.findings (Discovery.enum_mem_findings.mpr ⟨enum, h, rfl, rfl⟩)
  exact Discovery.enum_mem_findings.mp found

theorem exists_union {union : UnionDef} (h : union ∈ schema.discovery.unionOccurrences) :
    ∃ larger ∈ other.discovery.unionOccurrences,
      larger.name = union.name ∧ larger.members = union.members := by
  have found := extended.findings (Discovery.union_mem_findings.mpr ⟨union, h, rfl, rfl⟩)
  exact Discovery.union_mem_findings.mp found

/-! ## What the checks decide -/

/-- Names that agree in an extension agree. -/
theorem namesAgree (h : NamesAgree other other.discovery) :
    NamesAgree schema schema.discovery where
  records a reached_a b reached_b :=
    h.records a (extended.mem_records reached_a) b (extended.mem_records reached_b)
  enumsApart enum listed record reached := by
    obtain ⟨larger, held, name_eq, -⟩ := extended.exists_enum listed
    rw [← name_eq]
    exact h.enumsApart larger held record (extended.mem_records reached)
  unionsApart union listed record reached := by
    obtain ⟨larger, held, name_eq, -⟩ := extended.exists_union listed
    rw [← name_eq]
    exact h.unionsApart larger held record (extended.mem_records reached)
  kindsApart union listed enum listed_enum := by
    obtain ⟨larger, held, name_eq, -⟩ := extended.exists_union listed
    obtain ⟨larger_enum, held_enum, enum_eq, -⟩ := extended.exists_enum listed_enum
    rw [← name_eq, ← enum_eq]
    exact h.kindsApart larger held larger_enum held_enum
  enums a listed_a b listed_b same := by
    obtain ⟨larger_a, held_a, name_a, values_a⟩ := extended.exists_enum listed_a
    obtain ⟨larger_b, held_b, name_b, values_b⟩ := extended.exists_enum listed_b
    rw [← values_a, ← values_b]
    exact h.enums larger_a held_a larger_b held_b (by rw [name_a, name_b, same])
  unions a listed_a b listed_b same := by
    obtain ⟨larger_a, held_a, name_a, members_a⟩ := extended.exists_union listed_a
    obtain ⟨larger_b, held_b, name_b, members_b⟩ := extended.exists_union listed_b
    rw [UnionDef.sameShape, ← members_a, ← members_b]
    exact h.unions larger_a held_a larger_b held_b (by rw [name_a, name_b, same])
  entries enum listed := by
    obtain ⟨larger, held, -, values_eq⟩ := extended.exists_enum listed
    rw [← values_eq]
    exact h.entries larger held
  variants union listed := by
    obtain ⟨larger, held, -, members_eq⟩ := extended.exists_union listed
    rw [← members_eq]
    exact h.variants larger held

theorem inOrder {entry larger : RpcResource} (grown : entry.ExtendedBy larger)
    (h : larger.InOrder other) : entry.InOrder schema := by
  obtain ⟨resource, named, actions, queries⟩ := h
  rw [← grown.resource, ← resource?_congr extended.resources] at named
  refine ⟨resource, named, fun rpcAction listed => ?_, fun query listed => ?_⟩
  · exact actions rpcAction (grown.actions.subset listed)
  · rw [queryFaults_congr extended.resources]
    exact queries query (grown.typedQueries.subset listed)

/-- Where nothing is found about what an extension exposes, nothing is found. -/
theorem rpcConfig (exposing : schema.rpcResources ≠ [])
    (h : rpcConfigFaults other other.discovery = .ok []) :
    rpcConfigFaults schema schema.discovery = .ok [] := by
  rw [rpcConfigFaults_eq_nil_iff] at h ⊢
  obtain ⟨-, ⟨distinct, ordered⟩, known⟩ := h
  refine ⟨exposing, ⟨nodup_of_subperm extended.rpcNames distinct, fun entry listed => ?_⟩,
    fun reference noted => ?_⟩
  · obtain ⟨larger, held, grown⟩ := extended.entries.exists_of_mem listed
    exact extended.inOrder grown (ordered larger held)
  · have found := extended.findings (Discovery.reference_mem_findings.mpr
      (List.mem_map.mpr ⟨reference, noted, rfl⟩))
    obtain ⟨counterpart, held, id_eq⟩ := List.mem_map.mp (Discovery.reference_mem_findings.mp found)
    rw [resource?_congr extended.resources, ← id_eq]
    exact known counterpart held

/-- **A check that finds nothing in an extension finds nothing.** -/
theorem unreported (exposing : schema.rpcResources ≠ []) {faults larger : List Fault}
    (checked : rpcConfigFaults schema schema.discovery = .ok faults)
    (checked_larger : rpcConfigFaults other other.discovery = .ok larger)
    {category : FaultCategory} (h : other.faultsOf larger category = []) :
    schema.faultsOf faults category = [] := by
  cases category with
  | rpcConfig =>
    have none : rpcConfigFaults other other.discovery = .ok [] := by
      rw [checked_larger]
      exact congrArg _ h
    rw [extended.rpcConfig exposing none] at checked
    exact (Except.ok.inj checked).symm
  | fieldNames =>
    refine List.flatMap_eq_nil_iff.mpr fun resource reached => ?_
    exact List.flatMap_eq_nil_iff.mp h resource (extended.mem_records reached)
  | actionTypes =>
    have clean : actionTypeFaults other = [] := h
    rw [actionTypeFaults_eq] at clean
    show actionTypeFaults schema = []
    rw [actionTypeFaults_eq]
    refine List.flatMap_eq_nil_iff.mpr fun exposed listed => ?_
    rw [exposedNameFaults_congr extended.resources]
    exact List.flatMap_eq_nil_iff.mp clean exposed (extended.mem_exposedActions listed)
  | typeNames =>
    have agree (schema : Schema) : typeNameFaults schema schema.discovery = [] ↔
        NamesAgree schema schema.discovery :=
      typeNameFaults_eq_nil_iff (Discovery.catalogued_discover ..) Discovery.nodup_allResources
    exact (agree schema).mpr (extended.namesAgree ((agree other).mp h))
  | identities =>
    have clean : identityFaults other = [] := h
    rw [identityFaults_eq] at clean
    show identityFaults schema = []
    rw [identityFaults_eq]
    refine List.flatMap_eq_nil_iff.mpr fun exposed listed => ?_
    exact List.flatMap_eq_nil_iff.mp clean exposed (extended.mem_exposedActions listed)

/-- A category that is reported is reported for an extension. -/
theorem category_reported (exposing : schema.rpcResources ≠ []) {faults larger : List Fault}
    (checked : rpcConfigFaults schema schema.discovery = .ok faults)
    (checked_larger : rpcConfigFaults other other.discovery = .ok larger) {fault : Fault}
    (listed : fault ∈ schema.allFaults faults) :
    ∃ counterpart ∈ other.allFaults larger, counterpart.category = fault.category := by
  rw [reports_iff checked_larger]
  intro none
  have found := (reports_iff checked).mp ⟨fault, listed, rfl⟩
  exact found (extended.unreported exposing checked checked_larger none)

theorem faults_ne_nil (exposing : schema.rpcResources ≠ []) {faults larger : List Fault}
    (checked : rpcConfigFaults schema schema.discovery = .ok faults)
    (checked_larger : rpcConfigFaults other other.discovery = .ok larger)
    (some : schema.allFaults faults ≠ []) : other.allFaults larger ≠ [] := by
  obtain ⟨fault, listed⟩ := List.exists_mem_of_ne_nil _ some
  obtain ⟨counterpart, held, -⟩ :=
    extended.category_reported exposing checked checked_larger listed
  exact List.ne_nil_of_mem held

theorem exposing (h : schema.rpcResources ≠ []) : other.rpcResources ≠ [] := by
  obtain ⟨entry, listed⟩ := List.exists_mem_of_ne_nil _ h
  obtain ⟨larger, held, -⟩ := extended.entries.exists_of_mem listed
  exact List.ne_nil_of_mem held

theorem wellFormed
    (h : ∀ entry ∈ other.rpcResources, ∀ query ∈ entry.typedQueries, query.wellFormed) :
    ∀ entry ∈ schema.rpcResources, ∀ query ∈ entry.typedQueries, query.wellFormed := by
  intro entry listed query held
  obtain ⟨larger, listed_larger, grown⟩ := extended.entries.exists_of_mem listed
  exact h larger listed_larger query (grown.typedQueries.subset held)

end Schema.ExtendedBy

/-! ## Whole plans -/

/-- The check of what is exposed does not break down when nested selections are well formed. -/
theorem rpcConfigFaults_isOk {schema : Schema} (found : Discovery)
    (formed : ∀ entry ∈ schema.rpcResources, ∀ query ∈ entry.typedQueries, query.wellFormed) :
    ∃ faults, rpcConfigFaults schema found = .ok faults := by
  obtain ⟨faults, checked⟩ := rpcResourceFaults_isOk formed []
  exact ⟨_, bind_eq_ok_iff.mpr ⟨faults, checked, rfl⟩⟩

/-- **Exposing more hides no fault.**  Both a schema that exposes something and any extension of it
have plans, provided that nested selections are well formed, and every category of faults that is
reported for the schema is reported for the extension.  So an extension is refused when the schema
is, and the order of what is exposed does not decide whether a schema is refused. -/
theorem categories_kept {schema other : Schema} (extended : schema.ExtendedBy other)
    (exposing : schema.rpcResources ≠ [])
    (formed : ∀ entry ∈ other.rpcResources, ∀ query ∈ entry.typedQueries, query.wellFormed)
    (options : Options) :
    ∃ plan larger, Plan.make schema options = .ok plan ∧ Plan.make other options = .ok larger ∧
      (∀ fault ∈ plan.verification.faults, ∃ counterpart ∈ larger.verification.faults,
        counterpart.category = fault.category) ∧
      (plan.verification.hasFaults → larger.verification.hasFaults) ∧
      (other.ExtendedBy schema →
        plan.verification.hasFaults = larger.verification.hasFaults) := by
  obtain ⟨faults, checked⟩ :=
    rpcConfigFaults_isOk schema.discovery (extended.wellFormed formed)
  obtain ⟨more, checked_more⟩ := rpcConfigFaults_isOk other.discovery formed
  have refused {schema other : Schema} {faults more : List Fault}
      (extended : schema.ExtendedBy other) (exposing : schema.rpcResources ≠ [])
      (checked : rpcConfigFaults schema schema.discovery = .ok faults)
      (checked_more : rpcConfigFaults other other.discovery = .ok more) :
      (!(schema.allFaults faults).isEmpty) = true → (!(other.allFaults more).isEmpty) = true := by
    simpa using extended.faults_ne_nil exposing checked checked_more
  refine ⟨_, _, Plan.make_eq_ok_iff.mpr ⟨faults, checked, rfl⟩,
    Plan.make_eq_ok_iff.mpr ⟨more, checked_more, rfl⟩, fun fault listed => ?_,
    refused extended exposing checked checked_more, fun back => ?_⟩
  · exact extended.category_reported exposing checked checked_more listed
  · exact Bool.eq_iff_iff.mpr ⟨refused extended exposing checked checked_more,
      refused back (extended.exposing exposing) checked_more checked⟩

/-- A resource with an illegal name for a field. -/
def noteResource : Resource where
  id := "Note"
  attributes := [{ name := "title?", type := .primitive .string {} }]
  actions := [{ name := "read", kind := .read }]

/-- A schema that exposes notes. -/
def noteSchema : Schema where
  resources := [noteResource]
  domains := [
    { name := "Main",
      rpc := [{ resource := "Note", actions := [{ name := "list_notes", action := "read" }] }] },
    { name := "Empty" }]

/-- What the extension exposes of notes: one more action, and a typed query. -/
def largerNoteEntry : RpcResource where
  resource := "Note"
  actions := [{ name := "all_notes", action := "read" }, { name := "list_notes", action := "read" }]
  typedQueries := [{
    name := "titles"
    action := "read"
    fields := [.nested [("tags", [.text "name", .map [(.text "owner", .list [.text "name"])]])]] }]

/-- A schema with the same domains in another order that exposes more. -/
def largerNoteSchema : Schema where
  resources := [noteResource]
  domains := [{ name := "Empty" }, { name := "Main", rpc := [largerNoteEntry] }]

theorem noteSchema_extendedBy : noteSchema.ExtendedBy largerNoteSchema := by
  refine Schema.extendedBy_of_domains rfl
    ⟨largerNoteSchema.domains.reverse, .cons ?_ (.cons ?_ .nil), (List.Perm.swap ..).subperm⟩
  · refine ⟨[largerNoteEntry], .cons ⟨rfl, ?_, List.nil_subperm⟩ .nil, List.Subperm.refl _⟩
    exact (List.sublist_cons_self _ _).subperm
  · exact ⟨[], .nil, List.Subperm.refl _⟩

/-- The notes with and without the additions. -/
theorem note_categories_kept :
    noteSchema.ExtendedBy largerNoteSchema ∧ noteSchema.rpcResources ≠ [] ∧
      (∀ entry ∈ largerNoteSchema.rpcResources, ∀ query ∈ entry.typedQueries, query.wellFormed) ∧
      ∃ plan larger, Plan.make noteSchema {} = .ok plan ∧
        Plan.make largerNoteSchema {} = .ok larger ∧
        (∀ fault ∈ plan.verification.faults, ∃ counterpart ∈ larger.verification.faults,
          counterpart.category = fault.category) ∧
        (plan.verification.hasFaults → larger.verification.hasFaults) ∧
        (largerNoteSchema.ExtendedBy noteSchema →
          plan.verification.hasFaults = larger.verification.hasFaults) := by
  have exposing : noteSchema.rpcResources ≠ [] := List.cons_ne_nil _ _
  have formed : ∀ entry ∈ largerNoteSchema.rpcResources, ∀ query ∈ entry.typedQueries,
      query.wellFormed := by decide
  exact ⟨noteSchema_extendedBy, exposing, formed,
    categories_kept noteSchema_extendedBy exposing formed {}⟩

end TypedRpc
