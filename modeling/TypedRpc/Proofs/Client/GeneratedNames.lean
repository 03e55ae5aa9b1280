import Mathlib.Data.List.Nodup
import TypedRpc.Client.Input
import TypedRpc.Proofs.Client.Plan

/-!
# Names in the generated code

The functions and types of an exposed action are named after the name that clients call it by, the
properties of a class after the fields that they stand for.  What a client is made of is looked at
by the checks beforehand, in the same order.  In a plan without faults no entry has been left out,
so the exposed actions are those that the entries name, one after the other.

* `Plan.exposed_named`: the exposed actions of a plan without faults.
* `Plan.generated_names_distinct_iff`: the checks tell the names of actions apart as they stand in
  the document, and the code has them in camelCase and PascalCase; so the names in the code differ
  exactly when those in the document still differ after that.  `twin_functions` shows two that do
  not.
* `Plan.rendered_names_checked`: the properties of a record and those of an input have names of
  their own, because the names that are checked are those that are written.
-/

namespace TypedRpc

/-! ## The actions that entries name -/

/-- The actions that entries name, each with its entry. -/
def namedActions (entries : List RpcResource) : List (RpcResource × RpcAction) :=
  entries.flatMap fun entry => entry.actions.map fun rpcAction => (entry, rpcAction)

/-- Whether an exposed action is the one that an entry names. -/
structure ExposedAction.NamedBy (schema : Schema) (exposed : ExposedAction)
    (named : RpcResource × RpcAction) : Prop where
  resource : schema.resource? named.1.resource = some exposed.resource
  action : exposed.resource.action? named.2.action = some exposed.action
  rpcAction : exposed.rpcAction = named.2

theorem map_name_namedActions (entries : List RpcResource) :
    (namedActions entries).map (fun named => named.2.name) = rpcNames entries := by
  simp [namedActions, rpcNames, List.map_flatMap, Function.comp_def]

/-- An action is found wherever nothing is reported about what an entry refers to. -/
theorem exists_action_of_referencedActionFaults {resource : Resource} {rpcAction : RpcAction}
    (none : referencedActionFaults resource rpcAction = []) :
    ∃ action, resource.action? rpcAction.action = some action := by
  unfold referencedActionFaults at none
  split at none
  · exact absurd none (List.cons_ne_nil _ _)
  · next action chosen => exact ⟨action, chosen⟩

theorem namedBy_exposedOn {schema : Schema} {entry : RpcResource} {resource : Resource}
    (named : schema.resource? entry.resource = some resource) {rpcActions : List RpcAction}
    (known : ∀ rpcAction ∈ rpcActions, referencedActionFaults resource rpcAction = []) :
    List.Forall₂ (ExposedAction.NamedBy schema) (exposedOn resource rpcActions)
      (rpcActions.map fun rpcAction => (entry, rpcAction)) := by
  induction rpcActions with
  | nil => exact .nil
  | cons rpcAction rest ih =>
    rw [List.forall_mem_cons] at known
    obtain ⟨action, chosen⟩ := exists_action_of_referencedActionFaults known.1
    have first : exposedOn resource (rpcAction :: rest) =
        ⟨resource, action, rpcAction⟩ :: exposedOn resource rest :=
      List.filterMap_cons_some (by rw [chosen]; rfl)
    rw [first, List.map_cons]
    exact .cons ⟨named, chosen, rfl⟩ (ih known.2)

/-- **Where all entries are in order, every action that an entry names is exposed**, and the exposed
actions stand in the order of the entries. -/
theorem namedBy_exposedActions {schema : Schema}
    (ordered : ∀ entry ∈ schema.rpcResources, entry.InOrder schema) :
    List.Forall₂ (ExposedAction.NamedBy schema) schema.exposedActions
      (namedActions schema.rpcResources) := by
  unfold Schema.exposedActions namedActions
  generalize schema.rpcResources = entries at ordered
  induction entries with
  | nil => exact .nil
  | cons entry rest ih =>
    rw [List.forall_mem_cons] at ordered
    obtain ⟨resource, named, actions, -⟩ := ordered.1
    rw [List.flatMap_cons, List.flatMap_cons, named]
    exact List.rel_append (namedBy_exposedOn named actions) (ih ordered.2)

namespace Plan

variable {schema : Schema} {options : Options} {plan : Plan}

theorem exposed_named (made : Plan.make schema options = .ok plan)
    (clean : plan.verification.faults = []) :
    List.Forall₂ (ExposedAction.NamedBy schema) plan.exposed
      (namedActions schema.rpcResources) := by
  rw [exposed_eq made]
  exact namedBy_exposedActions (entries_inOrder made clean)

/-! ## Names of functions and types -/

/-- The exposed actions are called by the names in the entries. -/
theorem map_rpcName_shapes (made : Plan.make schema options = .ok plan)
    (clean : plan.verification.faults = []) :
    plan.shapes.map (·.rpcName) = rpcNames schema.rpcResources := by
  have same : List.Forall₂ (fun exposed named => exposed.shape.rpcName = named.2.name)
      plan.exposed (namedActions schema.rpcResources) :=
    (exposed_named made clean).imp fun _ _ named => congrArg RpcAction.name named.rpcAction
  rw [← map_name_namedActions, shapes, List.map_map, ← List.forall₂_eq_eq_eq,
    List.forall₂_map_left_iff, List.forall₂_map_right_iff]
  exact same

theorem map_functionName_shapes (made : Plan.make schema options = .ok plan)
    (clean : plan.verification.faults = []) :
    plan.shapes.map ActionShape.functionName =
      (rpcNames schema.rpcResources).map Naming.camelCase := by
  rw [← map_rpcName_shapes made clean, List.map_map]
  rfl

theorem map_typePrefix_shapes (made : Plan.make schema options = .ok plan)
    (clean : plan.verification.faults = []) :
    plan.shapes.map ActionShape.typePrefix =
      (rpcNames schema.rpcResources).map Naming.pascalCase := by
  rw [← map_rpcName_shapes made clean, List.map_map]
  rfl

/-- **When the names of the generated functions differ, and the beginnings of those of the generated
types.**  Nothing is found when the names in the entries differ as they stand.  The code has them in
camelCase and in PascalCase, so they differ in the code exactly when no two of them meet there. -/
theorem generated_names_distinct_iff (made : Plan.make schema options = .ok plan)
    (clean : plan.verification.faults = []) :
    (plan.shapes.map ActionShape.functionName).Nodup ∧
        (plan.shapes.map ActionShape.typePrefix).Nodup ↔
      ∀ a ∈ rpcNames schema.rpcResources, ∀ b ∈ rpcNames schema.rpcResources, a ≠ b →
        Naming.camelCase a ≠ Naming.camelCase b ∧ Naming.pascalCase a ≠ Naming.pascalCase b := by
  have distinct : (rpcNames schema.rpcResources).Nodup :=
    (rpcConfigFaults_eq_nil_iff.mp (rpcConfigFaults_eq made clean)).2.1.1
  rw [map_functionName_shapes made clean, map_typePrefix_shapes made clean,
    List.nodup_map_iff_inj_on distinct, List.nodup_map_iff_inj_on distinct]
  constructor
  · rintro ⟨camel, pascal⟩ a ha b hb differ
    exact ⟨fun same => differ (camel a ha b hb same), fun same => differ (pascal a ha b hb same)⟩
  · intro apart
    refine ⟨fun a ha b hb same => ?_, fun a ha b hb same => ?_⟩ <;> by_contra differ
    · exact (apart a ha b hb differ).1 same
    · exact (apart a ha b hb differ).2 same

end Plan

/-- To-dos that clients may read and make. -/
def todoSchema : Schema where
  resources := [{
    id := "Todo"
    actions := [{ name := "read", kind := .read }, { name := "create", kind := .create }] }]
  domains := [{
    name := "Main"
    rpc := [{
      resource := "Todo"
      actions := [
        { name := "list_todos", action := "read" },
        { name := "create_todo", action := "create" }] }] }]

/-- The functions for to-dos have names of their own. -/
theorem todo_names_distinct :
    ∃ plan, Plan.make todoSchema {} = .ok plan ∧ plan.verification.faults = [] ∧
      (plan.shapes.map ActionShape.functionName).Nodup ∧
        (plan.shapes.map ActionShape.typePrefix).Nodup := by
  have evaluated : (Plan.make todoSchema {}).toOption.map (·.verification.faults) = some [] := by
    cbv
  obtain ⟨plan, made, clean⟩ := Plan.exists_of_evaluated evaluated
  exact ⟨plan, made, clean,
    (Plan.generated_names_distinct_iff made clean).mpr (by decide +kernel)⟩

/-- To-dos that clients may read under two names. -/
def twinSchema : Schema where
  resources := [{ id := "Todo", actions := [{ name := "read", kind := .read }] }]
  domains := [{
    name := "Main"
    rpc := [{
      resource := "Todo"
      actions := [
        { name := "list_todos", action := "read" },
        { name := "listTodos", action := "read" }] }] }]

/-- Nothing is found about two names that meet in camelCase and in PascalCase. -/
theorem twin_functions :
    ∃ plan, Plan.make twinSchema {} = .ok plan ∧ plan.verification.faults = [] ∧
      ¬ (plan.shapes.map ActionShape.functionName).Nodup ∧
        ¬ (plan.shapes.map ActionShape.typePrefix).Nodup := by
  have evaluated : (Plan.make twinSchema {}).toOption.map (·.verification.faults) = some [] := by
    cbv
  obtain ⟨plan, made, clean⟩ := Plan.exists_of_evaluated evaluated
  have functions : plan.shapes.map ActionShape.functionName = ["listTodos", "listTodos"] := by
    rw [Plan.map_functionName_shapes made clean]
    decide +kernel
  have prefixes : plan.shapes.map ActionShape.typePrefix = ["ListTodos", "ListTodos"] := by
    rw [Plan.map_typePrefix_shapes made clean]
    decide +kernel
  refine ⟨plan, made, clean, ?_, ?_⟩
  · rw [functions]
    decide
  · rw [prefixes]
    decide

/-! ## Names of properties -/

/-- Nothing is found about names exactly when they differ. -/
theorem sharedNameFaults_eq_nil_iff {fault : String → List String → Fault}
    {names : List (String × String)} :
    sharedNameFaults fault names = [] ↔ (names.map Prod.snd).Nodup := by
  rw [sharedNameFaults, List.map_eq_nil_iff, clashes_eq_nil_iff]

/-- The names of the properties of a class in the code. -/
def Target.DataClass.kotlinNames (declared : Target.DataClass) : List String :=
  declared.properties.map (·.kotlinName)

namespace Typing

variable {typing : Typing}

/-- **A record has the names that are checked.** -/
theorem kotlinNames_record (typing : Typing) (resource : Resource) :
    (typing.record resource).kotlinNames = (recordNames resource).map Prod.snd := by
  simp only [Target.DataClass.kotlinNames, record, recordNames, List.map_append, List.map_map]
  rfl

/-- A warning about a default leaves the property as it is. -/
theorem result_makeInputProperty (shape : ActionShape) (field : FieldSpec) :
    (typing.makeInputProperty shape field).result =
      typing.inputAnnotations field >>= fun annotations =>
        field.checkDefault >>= fun _ => .ok (typing.inputProperty shape annotations field) := by
  rw [makeInputProperty, Logged.result_bind]
  congr 1
  funext annotations
  rw [Logged.result_bind]
  cases field.defaultWarning? (typing.fieldType field) <;> rfl

/-- The properties of an input are those of its fields, with their annotations. -/
theorem properties_of_inputClass? {shape : ActionShape} {declared : Target.DataClass}
    (made : (typing.inputClass? shape).result = .ok (some declared)) :
    List.Forall₂
      (fun field property => ∃ annotations, typing.inputAnnotations field.spec = .ok annotations ∧
        property = typing.inputProperty shape annotations field.spec)
      shape.inputFields declared.properties := by
  rw [inputClass?] at made
  cases named : shape.inputName? with
  | none =>
    rw [named] at made
    cases made
  | some name =>
    rw [named] at made
    simp only [Logged.result_bind, Logged.result_mapM, result_makeInputProperty] at made
    obtain ⟨properties, each, made⟩ := bind_eq_ok_iff.mp made
    cases made
    refine (mapM_eq_ok_iff.mp each).imp fun field property made => ?_
    obtain ⟨annotations, annotated, made⟩ := bind_eq_ok_iff.mp made
    obtain ⟨_, -, same⟩ := bind_eq_ok_iff.mp made
    exact ⟨annotations, annotated, (Except.ok.inj same).symm⟩

/-- What is seen of each property of an input, when it depends on the field only. -/
theorem map_of_inputClass? {α : Type} {shape : ActionShape} {declared : Target.DataClass}
    (view : Target.Property → α) (shown : FieldSpec → α)
    (seen : ∀ field annotations, typing.inputAnnotations field = .ok annotations →
      view (typing.inputProperty shape annotations field) = shown field)
    (made : (typing.inputClass? shape).result = .ok (some declared)) :
    declared.properties.map view = shape.inputFields.map fun field => shown field.spec := by
  rw [← List.forall₂_eq_eq_eq, List.forall₂_map_left_iff, List.forall₂_map_right_iff]
  refine (properties_of_inputClass? made).flip.imp fun property field held => ?_
  obtain ⟨annotations, annotated, rfl⟩ := held
  exact seen field.spec annotations annotated

/-- **An input has the names that are checked**, whatever is logged about it. -/
theorem kotlinNames_of_inputClass? {shape : ActionShape} {declared : Target.DataClass}
    (made : (typing.inputClass? shape).result = .ok (some declared)) :
    declared.kotlinNames = (inputNames shape).map Prod.snd := by
  rw [Target.DataClass.kotlinNames, inputNames, List.map_map]
  exact map_of_inputClass? (·.kotlinName)
    (fun field => kotlinNameOf field.name (shape.inputNames.lookup field.name))
    (fun _ _ _ => rfl) made

end Typing

namespace Plan

variable {schema : Schema} {options : Options} {plan : Plan}

/-- Nothing is found about the names of a record in a plan without faults. -/
theorem resourceNameFaults_eq_nil (made : Plan.make schema options = .ok plan)
    (clean : plan.verification.faults = []) {record : Resource}
    (reached : record ∈ plan.discovered.records schema) : resourceNameFaults record = [] := by
  have checked : fieldNameFaults schema schema.discovery = [] :=
    faultsOf_eq_nil made clean .fieldNames
  rw [discovered_eq made] at reached
  exact List.flatMap_eq_nil_iff.mp checked record reached

/-- The properties of a record differ in a plan without faults. -/
theorem nodup_record (typing : Typing) (made : Plan.make schema options = .ok plan)
    (clean : plan.verification.faults = []) {record : Resource}
    (reached : record ∈ plan.discovered.records schema) :
    (typing.record record).kotlinNames.Nodup := by
  have here := resourceNameFaults_eq_nil made clean reached
  rw [Typing.kotlinNames_record, ← sharedNameFaults_eq_nil_iff]
  exact (List.append_eq_nil_iff.mp here).2

/-- The properties of an input differ in a plan without faults. -/
theorem nodup_input {typing : Typing} (made : Plan.make schema options = .ok plan)
    (clean : plan.verification.faults = []) {exposed : ExposedAction}
    (listed : exposed ∈ plan.exposed) {declared : Target.DataClass}
    (rendered : (typing.inputClass? exposed.shape).result = .ok (some declared)) :
    declared.kotlinNames.Nodup := by
  have checked : actionTypeFaults schema = [] := faultsOf_eq_nil made clean .actionTypes
  rw [exposed_eq made] at listed
  rw [actionTypeFaults_eq] at checked
  have here := List.flatMap_eq_nil_iff.mp checked exposed listed
  rw [Typing.kotlinNames_of_inputClass? rendered, ← sharedNameFaults_eq_nil_iff]
  exact (List.append_eq_nil_iff.mp here).2

/-- There is a record for each resource that is reached. -/
theorem ids_records (made : Plan.make schema options = .ok plan) :
    (plan.discovered.records schema).map (·.id) = plan.discovered.allResources := by
  rw [discovered_eq made]
  exact records_ids fun id listed =>
    (Discovery.mem_visited_iff_met.mp (Discovery.mem_allResources_discover.mp listed)).2

/-- **What is rendered is what has been checked.**  In a plan without faults the exposed actions are
those that the entries name, in their order, and the checks of actions go through these, one after
the other, with the same shapes.  There is a record for each resource that is reached, and the
properties of a record have names of their own in the code, and so have those of an input. -/
theorem rendered_names_checked (typing : Typing) (made : Plan.make schema options = .ok plan)
    (clean : plan.verification.faults = []) :
    (List.Forall₂ (ExposedAction.NamedBy schema) plan.exposed (namedActions schema.rpcResources) ∧
      schema.checkedActions = plan.exposed ∧
      actionTypeFaults schema = plan.exposed.flatMap (exposedNameFaults schema) ∧
      identityFaults schema = plan.exposed.flatMap exposedIdentityFaults ∧
      plan.shapes = plan.exposed.map fun exposed =>
        .of exposed.resource exposed.action exposed.rpcAction) ∧
    (plan.discovered.records schema).map (·.id) = plan.discovered.allResources ∧
    (∀ record ∈ plan.discovered.records schema, (typing.record record).kotlinNames.Nodup) ∧
    ∀ exposed ∈ plan.exposed, ∀ declared,
      (typing.inputClass? exposed.shape).result = .ok (some declared) →
        declared.kotlinNames.Nodup := by
  refine ⟨⟨exposed_named made clean, ?_, ?_, ?_, rfl⟩, ids_records made,
    fun record reached => nodup_record typing made clean reached,
    fun exposed listed declared rendered => nodup_input made clean listed rendered⟩
  · rw [exposed_eq made, schema.checkedActions_eq]
  · rw [exposed_eq made, actionTypeFaults_eq]
  · rw [exposed_eq made, identityFaults_eq]

end Plan

/-- To-dos whose names are given in part by the document.  A change takes the title of a to-do and
an argument that is called `title` as well. -/
def renamedSchema : Schema where
  resources := [{
    id := "Todo"
    attributes := [
      { name := "id", type := .primitive .uuid {}, isPrimaryKey := true },
      { name := "title", type := .primitive .string {} },
      { name := "due_date", type := .primitive .date {} }]
    relationships := [{ name := "sub_todos", kind := .hasMany, destination := "Todo" }]
    actions := [{
      name := "change"
      kind := .update
      accept := ["due_date"]
      arguments := [{ name := "title", type := .primitive .string {} }] }]
    fieldNames := [("sub_todos", "children"), ("title", "dueOn")]
    argumentNames := [("change", [("title", "newTitle")])] }]
  domains := [{
    name := "Main"
    rpc := [{
      resource := "Todo"
      actions := [{ name := "change_todo", action := "change" }] }] }]

/-- The names of the properties for to-dos that are renamed. -/
theorem renamed_names_checked :
    ∃ plan, Plan.make renamedSchema {} = .ok plan ∧ plan.verification.faults = [] ∧
      (plan.discovered.records renamedSchema).map (·.id) = plan.discovered.allResources ∧
      (∀ record ∈ plan.discovered.records renamedSchema,
        ((Typing.ofSchema renamedSchema {}).record record).kotlinNames.Nodup) ∧
      ∀ exposed ∈ plan.exposed, ∀ declared,
        ((Typing.ofSchema renamedSchema {}).inputClass? exposed.shape).result =
            .ok (some declared) →
          declared.kotlinNames.Nodup := by
  have evaluated :
      (Plan.make renamedSchema {}).toOption.map (·.verification.faults) = some [] := by
    cbv
  obtain ⟨plan, made, clean⟩ := Plan.exists_of_evaluated evaluated
  exact ⟨plan, made, clean, (Plan.rendered_names_checked _ made clean).2⟩

end TypedRpc
