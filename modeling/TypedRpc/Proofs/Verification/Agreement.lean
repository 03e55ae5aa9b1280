import TypedRpc.Proofs.Discovery.Agreement

/-!
# What is found in schemas that agree

Two schemas that agree and expose alike have the same faults and the same warnings: every check
begins with what is exposed or with what has been discovered, and looks up ids on which they agree.

* `NestedNames.run_agree`: the names nested in the types of an action.
* `queryFaults_agree`: typed queries.
* `verify_agree`, `Plan.make_agree`: everything that is known before any text is written.
-/

namespace TypedRpc

variable {known : String → Prop} {schema other : Schema} {resource : Resource}

/-! ## Names nested in types -/

namespace NestedNames

/-- Whether a task comes to ids of some set only. -/
def Task.Within (known : String → Prop) : Task → Prop
  | .value type _ | .field _ _ type _ => type.Within known
  | .resource id _ => known id

theorem Task.within_true (task : Task) : task.Within fun _ => True := by
  cases task with
  | value | field => exact fun _ _ => trivial
  | resource => trivial

theorem within_fieldTasks {renames : Renames} {location : String} {fields : List FieldSpec}
    (within : ∀ field ∈ fields, field.type.Within known) :
    ∀ task ∈ fieldTasks renames location fields, task.Within known := by
  intro task listed
  obtain ⟨field, member, rfl⟩ := List.mem_map.mp listed
  exact within field member

theorem typeTasks_agree (agree : Schema.AgreeOn known schema other) (location : String)
    {type : TypeRef} (within : type.Within known) :
    typeTasks schema location type = typeTasks other location type ∧
      ∀ task ∈ typeTasks schema location type, task.Within known := by
  cases type with
  | primitive | enum | unknown => exact ⟨rfl, fun _ listed => absurd listed List.not_mem_nil⟩
  | array item constraints =>
    refine ⟨rfl, fun task listed => ?_⟩
    rw [List.mem_singleton.mp listed]
    exact within.item
  | union members name =>
    refine ⟨rfl, fun task listed => ?_⟩
    obtain ⟨entry, member, rfl⟩ := List.mem_map.mp listed
    exact within.member member
  | struct container fields instanceOf renames =>
    have inner : ∀ task ∈ fieldTasks renames location fields, task.Within known :=
      within_fieldTasks fun field listed => within.field listed
    have same := Schema.instanceTasks_agree agree (fun _ given => within.instanceOf given)
      (Task.resource · location)
    refine ⟨by rw [typeTasks, typeTasks, same], fun task listed => ?_⟩
    rcases List.mem_append.mp listed with listed | listed
    · obtain ⟨id, given, -, rfl⟩ := Schema.mem_instanceTasks.mp listed
      exact within.instanceOf given
    · exact inner task listed
  | resource id =>
    refine ⟨rfl, fun task listed => ?_⟩
    rw [List.mem_singleton.mp listed]
    exact within.reference

theorem within_nestedFields (within : resource.Within known) :
    ∀ field ∈ nestedFields resource, field.type.Within known := by
  intro field listed
  rcases List.mem_append.mp listed with listed | listed
  · obtain ⟨stored, shown, rfl⟩ := List.mem_map.mp listed
    exact within.stored (List.mem_of_mem_filter shown)
  · obtain ⟨calculation, shown, rfl⟩ := List.mem_map.mp listed
    exact within.calculation (List.mem_of_mem_filter shown)

/-- A step is the same in both schemas, and leads to ids on which they agree. -/
theorem step_agree (agree : Schema.AgreeOn known schema other) (place : ActionPlace)
    (state : State) {task : Task} (within : task.Within known) :
    step schema place state task = step other place state task ∧
      ∀ next ∈ (step schema place state task).2, next.Within known := by
  cases task with
  | value type location =>
    obtain ⟨same, next⟩ := typeTasks_agree agree location within
    exact ⟨by rw [step, step, same], next⟩
  | field name mapped type location =>
    refine ⟨rfl, fun next listed => ?_⟩
    rw [List.mem_singleton.mp listed]
    exact within
  | resource id location =>
    have here : known id := within
    simp only [step, ← agree.lookup here, true_and]
    intro next listed
    split at listed
    · exact absurd listed List.not_mem_nil
    · split at listed
      · exact absurd listed List.not_mem_nil
      · next named =>
        exact within_fieldTasks (within_nestedFields (agree.closed here named)) _ listed

/-- A walk is the same in both schemas. -/
theorem run_agree (agree : Schema.AgreeOn known schema other) (place : ActionPlace)
    (state : State) (tasks : List Task) (within : ∀ task ∈ tasks, task.Within known) :
    (walk schema place).run state tasks = (walk other place).run state tasks :=
  Worklist.run_congr (Q := Task.Within known)
    (fun state _ within => step_agree agree place state within) within

end NestedNames

theorem exposedNameFaults_agree (agree : Schema.AgreeOn known schema other)
    {exposed : ExposedAction} (within : exposed.Within known) :
    exposedNameFaults schema exposed = exposedNameFaults other exposed := by
  have starts : ∀ task ∈ NestedNames.startTasks exposed.action, task.Within known := by
    intro task listed
    simp only [NestedNames.startTasks, List.mem_append, List.mem_map] at listed
    rcases listed with (⟨argument, shown, rfl⟩ | listed) | ⟨field, held, rfl⟩
    · exact within.argument shown
    · split at listed
      · next type _ returned =>
        rw [List.mem_singleton.mp listed]
        exact within.result returned
      · exact absurd listed List.not_mem_nil
    · exact within.metadata held
  simp only [exposedNameFaults, nestedNameFaults, NestedNames.run_agree agree _ _ _ starts]

/-! ## Typed queries -/

mutual

theorem selectionFaults_agree (agree : Schema.AgreeOn known schema other) (query : String) :
    ∀ (item : Selection) (resource : Resource), resource.Within known →
      selectionFaults schema query resource item = selectionFaults other query resource item
  | .field _, _, _ | .stray _, _, _ => by rw [selectionFaults, selectionFaults]
  | .nested key inner, resource, within => by
    rw [selectionFaults, selectionFaults]
    cases selectedMember? resource key with
    | none => rfl
    | some name =>
      obtain ⟨same, closed⟩ := Schema.destination?_agree agree within name
      simp only [← same]
      cases led : schema.destination? resource name with
      | none => rfl
      | some pair =>
        exact selectionsFaults_agree agree query inner pair.2 (closed pair.1 pair.2 led)
  | .unusable key _, resource, within => by
    rw [selectionFaults, selectionFaults]
    cases selectedMember? resource key with
    | none => rfl
    | some name => simp only [(Schema.destination?_agree agree within name).1]

theorem selectionsFaults_agree (agree : Schema.AgreeOn known schema other) (query : String) :
    ∀ (items : List Selection) (resource : Resource), resource.Within known →
      selectionsFaults schema query resource items = selectionsFaults other query resource items
  | [], _, _ => rfl
  | item :: rest, resource, within => by
    rw [selectionsFaults, selectionsFaults, selectionFaults_agree agree query item resource within,
      selectionsFaults_agree agree query rest resource within]

end

theorem queryFaults_agree (agree : Schema.AgreeOn known schema other)
    (within : resource.Within known) (query : TypedQuery) :
    queryFaults schema resource query = queryFaults other resource query := by
  rw [queryFaults, queryFaults, selectionsFaults_agree agree _ _ resource within]

/-! ## All checks -/

theorem rpcResourceFaults_agree (agree : Schema.AgreeOn known schema other)
    {entries : List RpcResource} (here : ∀ entry ∈ entries, known entry.resource)
    (taken : Renames) : rpcResourceFaults schema taken entries =
      rpcResourceFaults other taken entries := by
  induction entries generalizing taken with
  | nil => rfl
  | cons entry rest ih =>
    have first := here entry (List.mem_cons_self ..)
    have others := ih fun entry listed => here entry (List.mem_cons_of_mem _ listed)
    rw [rpcResourceFaults, rpcResourceFaults, ← agree.lookup first]
    cases named : schema.resource? entry.resource with
    | none => simp only [others]
    | some resource =>
      have queries : queryFaults schema resource = queryFaults other resource :=
        funext (queryFaults_agree agree (agree.closed first named))
      simp only [queries, others]

theorem referenceWarnings_agree (alike : Schema.ExposeAlike known schema other)
    {references : List Reference} (here : ∀ reference ∈ references, known reference.id)
    (reported : List String) : referenceWarnings schema reported references =
      referenceWarnings other reported references := by
  induction references generalizing reported with
  | nil => rfl
  | cons reference rest ih =>
    have first := here reference (List.mem_cons_self ..)
    have others := ih fun reference listed => here reference (List.mem_cons_of_mem _ listed)
    rw [referenceWarnings, referenceWarnings, ← alike.lookup first,
      ← Schema.exposedResourceIds_agree alike]
    simp only [others]

/-- **The same is found in both schemas.** -/
theorem verify_agree (alike : Schema.ExposeAlike known schema other) (options : Options) :
    verify schema schema.discovery options = verify other schema.discovery options := by
  obtain ⟨-, inside, reached⟩ := Schema.discovery_agree alike
  obtain ⟨exposed, within⟩ := Schema.exposedActions_agree alike
  have config : rpcConfigFaults schema schema.discovery =
      rpcConfigFaults other schema.discovery := by
    rw [rpcConfigFaults, rpcConfigFaults, ← Schema.rpcResources_agree alike,
      rpcResourceFaults_agree alike.toAgreeOn alike.entries]
  have records := (Schema.filterMap_resource?_agree alike.toAgreeOn reached).1
  have fields : fieldNameFaults schema schema.discovery =
      fieldNameFaults other schema.discovery := by
    rw [fieldNameFaults, fieldNameFaults, records]
  have types : typeNameFaults schema schema.discovery =
      typeNameFaults other schema.discovery := by
    rw [typeNameFaults, typeNameFaults, typeOwners, typeOwners, records]
  have actions : actionTypeFaults schema = actionTypeFaults other := by
    rw [actionTypeFaults_eq, actionTypeFaults_eq, ← exposed]
    exact List.flatMap_congr fun exposed listed =>
      exposedNameFaults_agree alike.toAgreeOn (within exposed listed)
  have identities : identityFaults schema = identityFaults other := by
    rw [identityFaults_eq, identityFaults_eq, exposed]
  have coverage : coverageWarnings schema = coverageWarnings other := by
    rw [coverageWarnings, coverageWarnings, Schema.domainResourceIds, Schema.domainResourceIds,
      alike.domains, Schema.exposedResourceIds_agree alike]
  have references := referenceWarnings_agree alike inside.references []
  simp only [verify, config, fields, types, actions, identities, coverage, references]

/-- The plans for both schemas are the same. -/
theorem Plan.make_agree (alike : Schema.ExposeAlike known schema other) (options : Options) :
    Plan.make schema options = Plan.make other options := by
  rw [Plan.make, Plan.make, ← (Schema.discovery_agree alike).1, verify_agree alike,
    ← (Schema.exposedActions_agree alike).1]

end TypedRpc
