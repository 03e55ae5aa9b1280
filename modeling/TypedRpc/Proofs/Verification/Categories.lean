import TypedRpc.Proofs.Verification.RpcConfig
import TypedRpc.Proofs.Verification.TypeNames
import TypedRpc.Verification.Basic

/-!
# The categories of what the checks find

There are five checks and five categories, and whatever a check finds is of its category.  The names
nested in the types of an action are found by a walk, so what a step adds is looked at first.  Among
what the check of what is exposed finds, the faults about entries are told apart from those about
references, and those of them that refuse a name refuse an illegal one.
-/

namespace TypedRpc

/-- Whether all of some faults have a category. -/
def AllOf (category : FaultCategory) (faults : List Fault) : Prop :=
  ∀ fault ∈ faults, fault.category = category

section AllOf

variable {category : FaultCategory} {α : Type}

@[simp] theorem allOf_nil : AllOf category [] :=
  fun _ h => absurd h (List.not_mem_nil)

@[simp] theorem allOf_cons {fault : Fault} {faults : List Fault} :
    AllOf category (fault :: faults) ↔ fault.category = category ∧ AllOf category faults :=
  List.forall_mem_cons

@[simp] theorem allOf_append {faults others : List Fault} :
    AllOf category (faults ++ others) ↔ AllOf category faults ∧ AllOf category others :=
  List.forall_mem_append

theorem allOf_map {items : List α} {f : α → Fault} (h : ∀ item, (f item).category = category) :
    AllOf category (items.map f) := by
  intro fault listed
  obtain ⟨item, -, rfl⟩ := List.mem_map.mp listed
  exact h item

theorem allOf_filterMap {items : List α} {f : α → Option Fault}
    (h : ∀ item fault, f item = some fault → fault.category = category) :
    AllOf category (items.filterMap f) := by
  intro fault listed
  obtain ⟨item, -, found⟩ := List.mem_filterMap.mp listed
  exact h item fault found

theorem allOf_flatMap {items : List α} {f : α → List Fault} (h : ∀ item, AllOf category (f item)) :
    AllOf category (items.flatMap f) := by
  intro fault listed
  obtain ⟨item, -, found⟩ := List.mem_flatMap.mp listed
  exact h item fault found

end AllOf

/-! ## What is exposed -/

/-- The name that a fault refuses, if it is about a name. -/
def Fault.refusedName? : Fault → Option String
  | .invalidMetadataName _ _ mapped | .invalidFieldName _ _ _ mapped
  | .invalidArgumentName _ _ mapped | .invalidNestedName _ _ _ mapped => some mapped
  | _ => none

/-- Whether a fault is about an entry of what is exposed: its resource, its actions or its typed
queries. -/
def Fault.isAboutEntry : Fault → Bool
  | .unknownExposedResource .. | .sharedRpcName .. | .unknownAction .. | .unknownMetadata ..
  | .invalidMetadataName .. | .unknownGetBy .. | .queryWithoutRead .. | .unknownSelection ..
  | .nestedWithoutRelationship .. => true
  | _ => false

theorem Fault.category_of_isAboutEntry {fault : Fault} (about : fault.isAboutEntry) :
    fault.category = .rpcConfig := by
  cases fault <;> first | rfl | cases about

/-- A fault is about an entry, and refuses a name only where that name is illegal. -/
structure Fault.IsOfEntry (fault : Fault) : Prop where
  about : fault.isAboutEntry
  illegal : ∀ name ∈ fault.refusedName?, ¬ Naming.isLegal name

theorem Fault.IsOfEntry.of_refusedName?_eq_none {fault : Fault} (about : fault.isAboutEntry)
    (silent : fault.refusedName? = none) : fault.IsOfEntry where
  about := about
  illegal name refused := by
    rw [silent] at refused
    cases refused

theorem ofEntry_metadataFaults (resource : Resource) (action : Action) (rpcAction : RpcAction) :
    ∀ fault ∈ metadataFaults resource action rpcAction, fault.IsOfEntry := by
  refine List.forall_mem_append.mpr ⟨?unknown, ?invalid⟩
  case unknown => exact List.forall_mem_map.mpr fun _ _ => .of_refusedName?_eq_none rfl rfl
  case invalid =>
    refine List.forall_mem_map.mpr fun (_, mapped) listed => ⟨rfl, fun name refused => ?_⟩
    obtain rfl : mapped = name := Option.some.inj refused
    simpa using (Bool.and_eq_true_iff.mp (List.mem_filter.mp listed).2).2

theorem ofEntry_referencedActionFaults (resource : Resource) (rpcAction : RpcAction) :
    ∀ fault ∈ referencedActionFaults resource rpcAction, fault.IsOfEntry := by
  unfold referencedActionFaults
  split
  · exact List.forall_mem_singleton.mpr (.of_refusedName?_eq_none rfl rfl)
  · exact List.forall_mem_append.mpr ⟨ofEntry_metadataFaults resource _ rpcAction,
      List.forall_mem_map.mpr fun _ _ => .of_refusedName?_eq_none rfl rfl⟩

theorem ofEntry_takenNameFaults (taken : Renames) (resource : Resource)
    (rpcAction : RpcAction) :
    ∀ fault ∈ takenNameFaults taken resource rpcAction, fault.IsOfEntry := by
  unfold takenNameFaults
  split
  · exact List.forall_mem_singleton.mpr (.of_refusedName?_eq_none rfl rfl)
  · exact List.forall_mem_nil _

theorem ofEntry_rpcActionFaults (taken : Renames) (resource : Resource)
    (rpcActions : List RpcAction) :
    ∀ fault ∈ rpcActionFaults taken resource rpcActions, fault.IsOfEntry := by
  induction rpcActions generalizing taken with
  | nil => exact List.forall_mem_nil _
  | cons rpcAction rest ih =>
    exact List.forall_mem_append.mpr ⟨List.forall_mem_append.mpr
      ⟨ofEntry_takenNameFaults taken resource rpcAction,
        ofEntry_referencedActionFaults resource rpcAction⟩, ih _⟩

mutual

theorem ofEntry_selectionFaults (schema : Schema) (query : String) :
    ∀ (item : Selection) (resource : Resource) (faults : List Fault),
      selectionFaults schema query resource item = .ok faults →
      ∀ fault ∈ faults, fault.IsOfEntry
  | .field name, resource, faults, h => by
    rw [selectionFaults] at h
    split at h <;> cases h
    · exact List.forall_mem_nil _
    · exact List.forall_mem_singleton.mpr (.of_refusedName?_eq_none rfl rfl)
  | .stray _, resource, faults, h => by
    cases h
    exact List.forall_mem_nil _
  | .nested key inner, resource, faults, h => by
    rw [selectionFaults] at h
    split at h
    · cases h
      exact List.forall_mem_singleton.mpr (.of_refusedName?_eq_none rfl rfl)
    · split at h
      · cases h
        exact List.forall_mem_singleton.mpr (.of_refusedName?_eq_none rfl rfl)
      · exact ofEntry_selectionsFaults schema query inner _ faults h
  | .unusable key kind, resource, faults, h => by
    rw [selectionFaults] at h
    split at h
    · cases h
      exact List.forall_mem_singleton.mpr (.of_refusedName?_eq_none rfl rfl)
    · split at h <;> cases h
      exact List.forall_mem_singleton.mpr (.of_refusedName?_eq_none rfl rfl)

theorem ofEntry_selectionsFaults (schema : Schema) (query : String) :
    ∀ (items : List Selection) (resource : Resource) (faults : List Fault),
      selectionsFaults schema query resource items = .ok faults →
      ∀ fault ∈ faults, fault.IsOfEntry
  | [], resource, faults, h => by
    cases h
    exact List.forall_mem_nil _
  | item :: rest, resource, faults, h => by
    obtain ⟨here, found, others, there, rfl⟩ := selectionsFaults_cons_eq_ok_iff.mp h
    exact List.forall_mem_append.mpr
      ⟨ofEntry_selectionFaults schema query item resource here found,
        ofEntry_selectionsFaults schema query rest resource others there⟩

end

theorem ofEntry_queryFaults {schema : Schema} {resource : Resource} {query : TypedQuery}
    {faults : List Fault} (h : queryFaults schema resource query = .ok faults) :
    ∀ fault ∈ faults, fault.IsOfEntry := by
  unfold queryFaults at h
  split at h
  · exact ofEntry_selectionsFaults schema query.name query.selection resource faults h
  · cases h
    exact List.forall_mem_singleton.mpr (.of_refusedName?_eq_none rfl rfl)

/-- **What is found about the entries is about entries**, and the names that are refused there are
illegal. -/
theorem ofEntry_rpcResourceFaults {schema : Schema} {taken : Renames}
    {entries : List RpcResource} {faults : List Fault}
    (h : rpcResourceFaults schema taken entries = .ok faults) :
    ∀ fault ∈ faults, fault.IsOfEntry := by
  induction entries generalizing taken faults with
  | nil =>
    cases h
    exact List.forall_mem_nil _
  | cons entry rest ih =>
    rw [rpcResourceFaults] at h
    cases named : schema.resource? entry.resource with
    | none =>
      rw [named] at h
      obtain ⟨others, there, rest⟩ := bind_eq_ok_iff.mp h
      cases rest
      exact List.forall_mem_cons.mpr ⟨.of_refusedName?_eq_none rfl rfl, ih there⟩
    | some resource =>
      rw [named] at h
      obtain ⟨queries, checked, rest⟩ := bind_eq_ok_iff.mp h
      obtain ⟨others, there, rest⟩ := bind_eq_ok_iff.mp rest
      cases rest
      refine List.forall_mem_append.mpr ⟨List.forall_mem_append.mpr
        ⟨ofEntry_rpcActionFaults taken resource entry.actions, fun fault listed => ?_⟩,
        ih there⟩
      obtain ⟨found, held, inside⟩ := List.mem_flatten.mp listed
      obtain ⟨query, -, from_query⟩ := exists_of_mem_results checked held
      exact ofEntry_queryFaults from_query fault inside

/-- **What is found about what is exposed is of that category.** -/
theorem allOf_rpcConfigFaults {schema : Schema} {found : Discovery} {faults : List Fault}
    (h : rpcConfigFaults schema found = .ok faults) : AllOf .rpcConfig faults := by
  obtain ⟨entries, checked, rest⟩ := bind_eq_ok_iff.mp h
  cases rest
  refine allOf_append.mpr ⟨allOf_append.mpr ⟨?_, fun fault listed =>
    Fault.category_of_isAboutEntry (ofEntry_rpcResourceFaults checked fault listed).about⟩,
    allOf_map fun _ => rfl⟩
  split <;> simp [Fault.category]

/-! ## Names of fields -/

theorem allOf_fieldNameFaults (schema : Schema) (found : Discovery) :
    AllOf .fieldNames (fieldNameFaults schema found) := by
  refine allOf_flatMap fun resource => allOf_append.mpr
    ⟨allOf_filterMap ?_, allOf_map fun _ => rfl⟩
  rintro ⟨kind, name⟩ fault h
  dsimp only at h
  split at h <;> cases h
  rfl

/-! ## Names in the types of actions -/

theorem allOf_nameFaults (place : ActionPlace) (location name mapped : String) :
    AllOf .actionTypes (NestedNames.nameFaults place location name mapped) := by
  unfold NestedNames.nameFaults
  split <;> simp [Fault.category]

/-- A step of the walk adds illegal names only. -/
theorem allOf_nestedStep (schema : Schema) (place : ActionPlace) (state : NestedNames.State)
    (task : NestedNames.Task) (h : AllOf .actionTypes state.faults) :
    AllOf .actionTypes (NestedNames.step schema place state task).1.faults := by
  cases task with
  | value type location => exact h
  | field name mapped type location =>
    exact allOf_append.mpr ⟨h, allOf_nameFaults place location name mapped⟩
  | resource id location =>
    rw [NestedNames.step]
    split
    · exact h
    · split <;> exact h

theorem allOf_nestedRun (schema : Schema) (place : ActionPlace) (state : NestedNames.State)
    (tasks : List NestedNames.Task) (h : AllOf .actionTypes state.faults) :
    AllOf .actionTypes ((NestedNames.walk schema place).run state tasks).faults :=
  Worklist.run_induction (P := fun state _ => AllOf .actionTypes state.faults)
    (fun state task _ => allOf_nestedStep schema place state task) h

theorem allOf_actionTypeFaults (schema : Schema) :
    AllOf .actionTypes (actionTypeFaults schema) := by
  refine allOf_flatMap fun exposed => allOf_append.mpr ⟨allOf_append.mpr
    ⟨allOf_filterMap fun argument fault h => ?_, allOf_nestedRun _ _ _ _ allOf_nil⟩,
    allOf_map fun _ => rfl⟩
  dsimp only at h
  split at h <;> cases h
  rfl

/-! ## Names of types -/

theorem allOf_enumRedefinitions (found : Discovery) (reported : List String)
    (occurrences : List EnumDef) :
    AllOf .typeNames (enumRedefinitions found reported occurrences).1 := by
  induction occurrences generalizing reported with
  | nil => exact allOf_nil
  | cons occurrence rest ih =>
    rw [enumRedefinitions]
    split
    · exact ih reported
    · split
      · exact ih reported
      · exact allOf_cons.mpr ⟨rfl, ih _⟩

theorem allOf_unionRedefinitions (found : Discovery) (reported : List String)
    (occurrences : List UnionDef) :
    AllOf .typeNames (unionRedefinitions found reported occurrences) := by
  induction occurrences generalizing reported with
  | nil => exact allOf_nil
  | cons occurrence rest ih =>
    rw [unionRedefinitions]
    split
    · exact ih reported
    · split
      · exact ih reported
      · exact allOf_cons.mpr ⟨rfl, ih _⟩

theorem allOf_typeNameFaults (schema : Schema) (found : Discovery) :
    AllOf .typeNames (typeNameFaults schema found) := by
  rw [typeNameFaults_eq]
  simp only [allOf_append]
  refine ⟨⟨⟨⟨⟨⟨allOf_map fun _ => rfl, allOf_filterMap fun enum fault h => ?_⟩,
    allOf_map fun _ => rfl⟩, allOf_enumRedefinitions found _ _⟩,
    allOf_unionRedefinitions found _ _⟩,
    allOf_flatMap fun _ => allOf_map fun _ => rfl⟩, allOf_flatMap fun _ => allOf_map fun _ => rfl⟩
  obtain ⟨ids, -, rfl⟩ := Option.map_eq_some_iff.mp h
  rfl

/-! ## Identities -/

theorem allOf_identityFaults (schema : Schema) : AllOf .identities (identityFaults schema) := by
  refine allOf_flatMap fun exposed => ?_
  unfold exposedIdentityFaults
  split
  · refine allOf_filterMap fun identity fault h => ?_
    simp only [identityFault?] at h
    split at h <;> split at h <;> cases h <;> rfl
  · exact allOf_nil

end TypedRpc
