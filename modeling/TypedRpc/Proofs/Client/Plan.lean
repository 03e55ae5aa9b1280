import TypedRpc.Proofs.Discovery.References
import TypedRpc.Proofs.Verification.Categories

/-!
# What a plan has found

A plan is made unless a check of what is exposed breaks down.  Its faults are those of five checks,
and each check has a category of its own, so a category is reported exactly when its check finds
something.

* `Plan.make_eq_ok_iff`: when a plan is made, and what it is.
* `Schema.faultsOf`, `Schema.reports_iff`: a category is reported exactly when its check finds
  something.
* `Plan.names_mean_one_thing`: what the names of types stand for in a plan without faults.
-/

namespace TypedRpc

/-! ## What is exposed -/

/-- An action is exposed exactly when an entry names it and its resource has it. -/
theorem Schema.mem_exposedActions_iff {schema : Schema} {exposed : ExposedAction} :
    exposed ∈ schema.exposedActions ↔
      ∃ entry ∈ schema.rpcResources, schema.resource? entry.resource = some exposed.resource ∧
        exposed.rpcAction ∈ entry.actions ∧
        exposed.resource.action? exposed.rpcAction.action = some exposed.action := by
  rw [exposedActions, List.mem_flatMap]
  refine exists_congr fun entry => and_congr_right fun _ => ?_
  cases schema.resource? entry.resource with
  | none => simp
  | some resource =>
    simp only [exposedOn, List.mem_filterMap, Option.map_eq_some_iff, Option.some.injEq]
    constructor
    · rintro ⟨rpcAction, listed, action, chosen, rfl⟩
      exact ⟨rfl, listed, chosen⟩
    · rintro ⟨rfl, listed, chosen⟩
      exact ⟨exposed.rpcAction, listed, exposed.action, chosen, rfl⟩

/-- The resources that entries name are reached. -/
theorem Schema.visited_of_entry {schema : Schema} {entry : RpcResource} {resource : Resource}
    (listed : entry ∈ schema.rpcResources)
    (named : schema.resource? entry.resource = some resource) :
    resource.id ∈ schema.discovery.visited := by
  have given : entry.resource ∈ schema.exposedResourceIds :=
    mem_firstOccurrences.mpr (List.mem_map_of_mem listed)
  rw [id_of_resource? named]
  exact Discovery.mem_visited_iff_met.mpr ⟨List.mem_append_left _ given, by rw [named]; rfl⟩

/-- **Nothing is found about what is exposed exactly when something is, all names differ, every
entry is in order by itself, and every reference names a resource.** -/
theorem rpcConfigFaults_eq_nil_iff {schema : Schema} :
    rpcConfigFaults schema schema.discovery = .ok [] ↔
      schema.rpcResources ≠ [] ∧
        ((rpcNames schema.rpcResources).Nodup ∧
          ∀ entry ∈ schema.rpcResources, entry.InOrder schema) ∧
        ∀ reference ∈ schema.discovery.references, (schema.resource? reference.id).isSome := by
  have entries : rpcResourceFaults schema [] schema.rpcResources = .ok [] ↔
      (rpcNames schema.rpcResources).Nodup ∧
        ∀ entry ∈ schema.rpcResources, entry.InOrder schema := by
    simpa using @rpcResourceFaults_eq_nil_iff schema [] schema.rpcResources List.nodup_nil
  rw [← entries, ← missingFaults_eq_nil_iff]
  simp only [rpcConfigFaults, bind_eq_ok_iff, pure, Except.pure, Except.ok.injEq,
    List.append_eq_nil_iff]
  constructor
  · rintro ⟨faults, checked, ⟨exposing, rfl⟩, known⟩
    refine ⟨fun none => ?_, checked, known⟩
    rw [none] at exposing
    exact absurd exposing (List.cons_ne_nil _ _)
  · rintro ⟨exposing, checked, known⟩
    exact ⟨[], checked, ⟨by simp [exposing], rfl⟩, known⟩

/-! ## Categories -/

/-- The faults of one category, given those of what is exposed. -/
def Schema.faultsOf (schema : Schema) (rpcConfig : List Fault) : FaultCategory → List Fault
  | .rpcConfig => rpcConfig
  | .fieldNames => fieldNameFaults schema schema.discovery
  | .actionTypes => actionTypeFaults schema
  | .typeNames => typeNameFaults schema schema.discovery
  | .identities => identityFaults schema

/-- All faults in the order of the checks. -/
def Schema.allFaults (schema : Schema) (rpcConfig : List Fault) : List Fault :=
  rpcConfig ++ fieldNameFaults schema schema.discovery ++ actionTypeFaults schema ++
    typeNameFaults schema schema.discovery ++ identityFaults schema

theorem Schema.mem_allFaults_iff {schema : Schema} {rpcConfig : List Fault} {fault : Fault} :
    fault ∈ schema.allFaults rpcConfig ↔
      ∃ category, fault ∈ schema.faultsOf rpcConfig category := by
  simp only [allFaults, List.mem_append]
  constructor
  · rintro ((((h | h) | h) | h) | h)
    · exact ⟨.rpcConfig, h⟩
    · exact ⟨.fieldNames, h⟩
    · exact ⟨.actionTypes, h⟩
    · exact ⟨.typeNames, h⟩
    · exact ⟨.identities, h⟩
  · rintro ⟨category, h⟩
    cases category with
    | rpcConfig => exact .inl (.inl (.inl (.inl h)))
    | fieldNames => exact .inl (.inl (.inl (.inr h)))
    | actionTypes => exact .inl (.inl (.inr h))
    | typeNames => exact .inl (.inr h)
    | identities => exact .inr h

/-- Every check finds faults of its own category. -/
theorem Schema.category_of_mem_faultsOf {schema : Schema} {rpcConfig : List Fault}
    (checked : rpcConfigFaults schema schema.discovery = .ok rpcConfig)
    {category : FaultCategory} {fault : Fault} (h : fault ∈ schema.faultsOf rpcConfig category) :
    fault.category = category := by
  cases category with
  | rpcConfig => exact allOf_rpcConfigFaults checked fault h
  | fieldNames => exact allOf_fieldNameFaults schema schema.discovery fault h
  | actionTypes => exact allOf_actionTypeFaults schema fault h
  | typeNames => exact allOf_typeNameFaults schema schema.discovery fault h
  | identities => exact allOf_identityFaults schema fault h

/-- **A category is reported exactly when its check finds something.** -/
theorem Schema.reports_iff {schema : Schema} {rpcConfig : List Fault}
    (checked : rpcConfigFaults schema schema.discovery = .ok rpcConfig)
    {category : FaultCategory} :
    (∃ fault ∈ schema.allFaults rpcConfig, fault.category = category) ↔
      schema.faultsOf rpcConfig category ≠ [] := by
  constructor
  · rintro ⟨fault, listed, rfl⟩
    obtain ⟨category, held⟩ := mem_allFaults_iff.mp listed
    rw [category_of_mem_faultsOf checked held]
    exact List.ne_nil_of_mem held
  · intro some
    obtain ⟨fault, held⟩ := List.exists_mem_of_ne_nil _ some
    exact ⟨fault, mem_allFaults_iff.mpr ⟨category, held⟩, category_of_mem_faultsOf checked held⟩

namespace Plan

variable {schema : Schema} {options : Options} {plan : Plan}

/-- A plan is made unless the check of what is exposed breaks down. -/
theorem make_eq_ok_iff :
    Plan.make schema options = .ok plan ↔
      ∃ rpcConfig, rpcConfigFaults schema schema.discovery = .ok rpcConfig ∧
        plan = ⟨schema.exposedActions, schema.discovery, schema.allFaults rpcConfig,
          (if options.warnOnMissingRpc then coverageWarnings schema else []) ++
            (if options.warnOnNonRpcReferences then
              referenceWarnings schema [] schema.discovery.references else [])⟩ := by
  cases outcome : rpcConfigFaults schema schema.discovery with
  | error breakdown =>
    have broken : Plan.make schema options = .error breakdown := by
      simp only [Plan.make, verify, outcome]
      rfl
    simp [broken]
  | ok rpcConfig =>
    have made : Plan.make schema options = .ok ⟨schema.exposedActions, schema.discovery,
        schema.allFaults rpcConfig,
        (if options.warnOnMissingRpc then coverageWarnings schema else []) ++
          (if options.warnOnNonRpcReferences then
            referenceWarnings schema [] schema.discovery.references else [])⟩ := by
      simp only [Plan.make, verify, outcome]
      rfl
    rw [made]
    simp only [Except.ok.injEq, exists_eq_left']
    exact eq_comm

/-- What is exposed is in order in a plan without faults. -/
theorem rpcConfigFaults_eq (made : Plan.make schema options = .ok plan)
    (clean : plan.verification.faults = []) :
    rpcConfigFaults schema schema.discovery = .ok [] := by
  obtain ⟨rpcConfig, checked, rfl⟩ := make_eq_ok_iff.mp made
  simp only [Schema.allFaults, List.append_eq_nil_iff] at clean
  rw [checked, clean.1.1.1.1]

/-- Every entry is in order by itself in a plan without faults. -/
theorem entries_inOrder (made : Plan.make schema options = .ok plan)
    (clean : plan.verification.faults = []) :
    ∀ entry ∈ schema.rpcResources, entry.InOrder schema :=
  (rpcConfigFaults_eq_nil_iff.mp (rpcConfigFaults_eq made clean)).2.1.2

/-- No check finds anything in a plan without faults. -/
theorem faultsOf_eq_nil (made : Plan.make schema options = .ok plan)
    (clean : plan.verification.faults = []) (category : FaultCategory) :
    schema.faultsOf [] category = [] := by
  have ordered := rpcConfigFaults_eq made clean
  obtain ⟨rpcConfig, checked, rfl⟩ := make_eq_ok_iff.mp made
  rw [ordered] at checked
  obtain rfl := Except.ok.inj checked
  rw [List.eq_nil_iff_forall_not_mem]
  intro fault held
  have listed := Schema.mem_allFaults_iff.mpr ⟨category, held⟩
  rw [show schema.allFaults [] = [] from clean] at listed
  exact absurd listed (List.not_mem_nil)

theorem exposed_eq (made : Plan.make schema options = .ok plan) :
    plan.exposed = schema.exposedActions := by
  obtain ⟨_, -, rfl⟩ := make_eq_ok_iff.mp made
  rfl

theorem discovered_eq (made : Plan.make schema options = .ok plan) :
    plan.discovered = schema.discovery := by
  obtain ⟨_, -, rfl⟩ := make_eq_ok_iff.mp made
  rfl

/-- A plan is made, and has a part, where that part has been evaluated. -/
theorem exists_of_evaluated {α : Type} {part : Plan → α} {value : α}
    (evaluated : (Plan.make schema options).toOption.map part = some value) :
    ∃ plan, Plan.make schema options = .ok plan ∧ part plan = value := by
  cases made : Plan.make schema options with
  | error breakdown =>
    rw [made] at evaluated
    cases evaluated
  | ok plan =>
    rw [made] at evaluated
    exact ⟨plan, rfl, Option.some.inj evaluated⟩

/-- The tables of what a plan has discovered hold first occurrences. -/
theorem catalogued (made : Plan.make schema options = .ok plan) : plan.discovered.Catalogued := by
  rw [discovered_eq made]
  exact Discovery.catalogued_discover ..

/-- The names of types agree in a plan without faults. -/
theorem namesAgree (made : Plan.make schema options = .ok plan)
    (clean : plan.verification.faults = []) : NamesAgree schema plan.discovered := by
  rw [discovered_eq made]
  exact (typeNameFaults_eq_nil_iff (Discovery.catalogued_discover ..)
    Discovery.nodup_allResources).mp (faultsOf_eq_nil made clean .typeNames)

/-- **Every name of a type means one thing** in a plan without faults.  The declared names of the
reached resources, of which there is one for each id, and the names of the enumerations and of the
unions all differ.  Every enumeration that has been met has the values of the one that is rendered
under its name, and every union has the tags of the one that is rendered under its name, in the same
order and with the same types. -/
theorem names_mean_one_thing (made : Plan.make schema options = .ok plan)
    (clean : plan.verification.faults = []) :
    (plan.discovered.records schema).map (·.id) = plan.discovered.allResources ∧
    ((plan.discovered.records schema).map Resource.declaredTypeName ++
      plan.discovered.enums.map EnumDef.name ++ plan.discovered.unions.map UnionDef.name).Nodup ∧
    (∀ occurrence ∈ plan.discovered.enumOccurrences, ∃ enum ∈ plan.discovered.enums,
      enum.name = occurrence.name ∧ enum.values = occurrence.values) ∧
    (∀ occurrence ∈ plan.discovered.unionOccurrences, ∃ union ∈ plan.discovered.unions,
      union.name = occurrence.name ∧
        List.Forall₂ (fun member other => member.1 = other.1 ∧ member.2.same other.2)
          occurrence.members union.members) := by
  have agree := namesAgree made clean
  have kept := catalogued made
  refine ⟨?_, ?_, fun occurrence listed => ?_, fun occurrence listed => ?_⟩
  · rw [discovered_eq made]
    exact records_ids fun id listed =>
      (Discovery.mem_visited_iff_met.mp (Discovery.mem_allResources_discover.mp listed)).2
  · rw [discovered_eq made] at agree kept ⊢
    exact agree.nodup_names kept Discovery.nodup_allResources
  · obtain ⟨first, listed_first, name_eq, -⟩ := exists_enum? kept listed
    have occurs := mem_enumOccurrences_of_mem_enums kept listed_first
    exact ⟨first, listed_first, name_eq, agree.enums first occurs occurrence listed name_eq⟩
  · obtain ⟨first, listed_first, name_eq, -⟩ := exists_union? kept listed
    have shape := agree.unions occurrence listed first
      (mem_unionOccurrences_of_mem_unions kept listed_first) name_eq.symm
    exact ⟨first, listed_first, name_eq, sameMemberList_iff.mp shape⟩

end Plan

/-- Tasks and their steps.  Both have a state and a content of their own, which are the same. -/
def taskSchema : Schema where
  resources := [
    { id := "Task"
      attributes := [
        { name := "state", type := .enum ["open", "done"] none },
        { name := "content", type := .union [("plain", .primitive .string {})] none }]
      relationships := [{ name := "steps", kind := .hasMany, destination := "Step" }]
      actions := [{ name := "read", kind := .read }] },
    { id := "Step"
      attributes := [
        { name := "state", type := .enum ["open", "done"] none },
        { name := "content", type := .union [("plain", .primitive .string {})] none }] }]
  domains := [{
    name := "Main"
    rpc := [{ resource := "Task", actions := [{ name := "list_tasks", action := "read" }] }] }]

/-- The names of the types of tasks. -/
theorem task_names_mean_one_thing :
    ∃ plan, Plan.make taskSchema {} = .ok plan ∧ plan.verification.faults = [] ∧
      (plan.discovered.records taskSchema).map (·.id) = plan.discovered.allResources ∧
      ((plan.discovered.records taskSchema).map Resource.declaredTypeName ++
        plan.discovered.enums.map EnumDef.name ++ plan.discovered.unions.map UnionDef.name).Nodup ∧
      (∀ occurrence ∈ plan.discovered.enumOccurrences, ∃ enum ∈ plan.discovered.enums,
        enum.name = occurrence.name ∧ enum.values = occurrence.values) ∧
      (∀ occurrence ∈ plan.discovered.unionOccurrences, ∃ union ∈ plan.discovered.unions,
        union.name = occurrence.name ∧
          List.Forall₂ (fun member other => member.1 = other.1 ∧ member.2.same other.2)
            occurrence.members union.members) := by
  have evaluated : (Plan.make taskSchema {}).toOption.map (·.verification.faults) = some [] := by
    cbv
  obtain ⟨plan, made, clean⟩ := Plan.exists_of_evaluated evaluated
  exact ⟨plan, made, clean, Plan.names_mean_one_thing made clean⟩

end TypedRpc
