import TypedRpc.Proofs.Client.InputNames
import TypedRpc.Proofs.Client.ShownMembers
import TypedRpc.Proofs.Discovery.Agreement
import TypedRpc.Proofs.Verification.NestedNames

/-!
# Names of properties that no check looks at

The checks look at the names of public fields, at the names that metadata fields are given, and at
those that are nested in the types of exposed actions.  The properties of inputs, of metadata and of
variants come from more than that: an action may accept attributes that are not public, a metadata
field may keep its name, and a union of a record may hold a struct that no action mentions.  Nothing
is found about these, whatever their names.

* `isLegal_kotlinNameOf_iff`: which fields have a legal name in the code.
* `Plan.legal_input_iff`, `Plan.legal_metadata_iff`, `Plan.legal_union_iff`: for each kind of class,
  the names that are left to chance.
* `Plan.propertyNames_legal_iff`: all of it; `unchecked_names` shows a field of each kind with an
  illegal name.
-/

namespace TypedRpc

open Target (DataClass)
open Discovery (NotEmpty)

/-! ## Legal names in the code -/

/-- Whether the properties of a class have legal names in the code. -/
def Target.DataClass.HasLegalNames (declared : DataClass) : Prop :=
  ∀ name ∈ declared.kotlinNames, Naming.isLegal name

/-- Whether a field has a legal name in the code: it is renamed to one, or keeps a name without
question marks. -/
structure LegalInCode (name : String) (rename : Option String) : Prop where
  renamed : ∀ target ∈ rename, Naming.isLegal target
  kept : rename = none → '?' ∉ name.toList

/-- **Which fields have a legal name in the code**, if none is renamed to nothing. -/
theorem isLegal_kotlinNameOf_iff {name : String} {rename : Option String}
    (given : ∀ target ∈ rename, target ≠ "") :
    Naming.isLegal (kotlinNameOf name rename) ↔ LegalInCode name rename := by
  cases rename with
  | none =>
    have unnamed : kotlinNameOf name none = Naming.camelCase name := rfl
    rw [unnamed, Naming.isLegal_camelCase_iff]
    exact ⟨fun plain => ⟨by simp, fun _ => plain⟩, fun legal => legal.kept rfl⟩
  | some target =>
    rw [kotlinNameOf_some (given target rfl)]
    exact ⟨fun legal => ⟨by simpa using legal, by simp⟩, fun legal => legal.renamed target rfl⟩

/-- A name that is legal after the renames is legal in the code. -/
theorem LegalInCode.of_mapped {name : String} {rename : Option String}
    (legal : Naming.isLegal (rename.getD name)) : LegalInCode name rename where
  renamed target found := by
    rw [Option.mem_def.mp found, Option.getD_some] at legal
    exact legal
  kept none := by
    rw [none, Option.getD_none] at legal
    exact (Naming.isLegalChars_iff.mp legal).1

/-- Renames that change nothing make no difference to the name after the renames. -/
theorem getD_changing (name : String) (rename : Option String) :
    (changing name rename).getD name = rename.getD name := by
  rw [changing_eq_ite]
  split_ifs with kept
  · exact kept.symm
  · rfl

/-- What an input keeps of a rename is that rename. -/
theorem mem_of_mem_changing {name target : String} {rename : Option String}
    (found : target ∈ changing name rename) : target ∈ rename :=
  (Option.mem_filter_iff.mp found).1

/-! ## Variants -/

/-- The names of the fields that a variant for a type takes from it, and what they are renamed
to. -/
def TypeRef.inlinedNames : TypeRef → List (String × Option String)
  | .struct _ fields instanceOf renames =>
    if (given? instanceOf).isSome then []
    else fields.map fun field => (field.name, renames.lookup field.name)
  | _ => []

/-- The names of the fields that the variants of a union take from its members, and what they are
renamed to. -/
def UnionDef.inlinedNames (found : UnionDef) : List (String × Option String) :=
  found.members.flatMap fun member => member.2.inlinedNames

/-- A variant has the fields that it takes, or else a single value. -/
theorem kotlinNames_variant (typing : Typing) (union tag : String) (member : TypeRef) :
    (typing.variant union tag member).kotlinNames =
      if member.inlinedNames.isEmpty then ["value"]
      else member.inlinedNames.map fun names => kotlinNameOf names.1 names.2 := by
  cases member with
  | struct container fields instanceOf renames =>
    cases held : (given? instanceOf).isSome with
    | true => simp [DataClass.kotlinNames, Typing.variant, Typing.memberProperties,
        TypeRef.inlinedNames, held, Typing.valueProperty]
    | false =>
      cases fields with
      | nil => simp [DataClass.kotlinNames, Typing.variant, Typing.memberProperties,
          TypeRef.inlinedNames, held, Typing.valueProperty]
      | cons field rest =>
        simp [DataClass.kotlinNames, Typing.variant, Typing.memberProperties,
          TypeRef.inlinedNames, held, Typing.structFieldProperty, SourceField.output,
          SourceField.property]
  | primitive | array | enum | union | resource | unknown => rfl

/-- The variants of a union have legal names exactly when the fields have that they take. -/
theorem hasLegalNames_variants_iff (typing : Typing) (found : UnionDef) :
    (∀ variant ∈ (typing.union found).variants, variant.HasLegalNames) ↔
      ∀ names ∈ found.inlinedNames, Naming.isLegal (kotlinNameOf names.1 names.2) := by
  have each (tag : String) (member : TypeRef) :
      (typing.variant found.name tag member).HasLegalNames ↔
        ∀ names ∈ member.inlinedNames, Naming.isLegal (kotlinNameOf names.1 names.2) := by
    rw [DataClass.HasLegalNames, kotlinNames_variant]
    cases none : member.inlinedNames.isEmpty with
    | true =>
      rw [List.isEmpty_iff.mp none]
      exact iff_of_true (by decide) (by simp)
    | false => rw [if_neg Bool.false_ne_true, List.forall_mem_map]
  simp only [Typing.union, UnionDef.inlinedNames, List.forall_mem_map, List.forall_mem_flatMap,
    each]

/-! ## Inputs and metadata -/

/-- The metadata of an action has legal names exactly when its fields have. -/
theorem hasLegalNames_metadata_iff {typing : Typing} {shape : ActionShape} {declared : DataClass}
    (rendered : typing.metadataClass? shape = some declared) :
    declared.HasLegalNames ↔ ∀ field ∈ shape.metadata,
      Naming.isLegal (kotlinNameOf field.name (shape.metadataNames.lookup field.name)) := by
  obtain ⟨name, -, rfl⟩ := Option.map_eq_some_iff.mp rendered
  simp only [DataClass.HasLegalNames, DataClass.kotlinNames, List.forall_mem_map]
  rfl

/-- Where the fields of an input differ by name, it has legal names exactly when its fields have
after the renames that it keeps. -/
theorem hasLegalNames_input_iff {typing : Typing} {exposed : ExposedAction} {declared : DataClass}
    (rendered : (typing.inputClass? exposed.shape).result = .ok (some declared))
    (apart : (inputSources exposed.shape).Nodup) :
    declared.HasLegalNames ↔ ∀ field ∈ inputFieldsOf exposed.resource exposed.action,
      Naming.isLegal (kotlinNameOf field.spec.name
        (changing field.spec.name (inputRename? exposed.resource exposed.action field))) := by
  rw [DataClass.HasLegalNames, Typing.kotlinNames_input_eq rendered, inputSources]
  simp only [List.forall_mem_map]
  refine forall₂_congr fun field taken => ?_
  have looked : exposed.shape.inputNames.lookup field.spec.name =
      changing field.spec.name (inputRename? exposed.resource exposed.action field) := by
    refine lookup_inputNames taken fun other there same => ?_
    rw [List.inj_on_of_nodup_map apart there taken same]
  rw [looked]

/-! ## What the checks leave to chance -/

/-- Whether a document renames nothing to the empty name, where it matters for properties. -/
structure Schema.NamesGiven (schema : Schema) : Prop where
  fields : ∀ resource ∈ schema.resources, ∀ rename ∈ resource.fieldNames, rename.2 ≠ ""
  arguments : ∀ resource ∈ schema.resources, ∀ renames ∈ resource.argumentNames,
    ∀ rename ∈ renames.2, rename.2 ≠ ""
  metadata : ∀ exposed ∈ schema.exposedActions, ∀ rename ∈ exposed.rpcAction.metadataFieldNames,
    rename.2 ≠ ""
  structs : ∀ union ∈ schema.discovery.unions, ∀ names ∈ union.inlinedNames,
    ∀ target ∈ names.2, target ≠ ""

/-- No field of an input is renamed to the empty name. -/
theorem Schema.NamesGiven.inputRename {schema : Schema} (given : schema.NamesGiven)
    {resource : Resource} (known : resource ∈ schema.resources) (action : Action)
    (field : InputField) : ∀ target ∈ inputRename? resource action field, target ≠ "" := by
  cases field with
  | stored stored => exact ne_empty_of_lookup (given.fields resource known) stored.name
  | argument argument =>
    rw [inputRename?]
    cases found : resource.argumentNames.lookup action.name with
    | none => simp
    | some renames =>
      have listed : (action.name, renames) ∈ resource.argumentNames := mem_of_lookup_eq_some found
      exact ne_empty_of_lookup (given.arguments resource known _ listed) argument.name

/-- The public arguments of an action without faults have legal names after the renames. -/
theorem isLegal_mappedArgumentName {exposed : ExposedAction}
    (clean : argumentNameFaults exposed = []) {argument : Argument}
    (shown : argument ∈ exposed.action.publicArguments) :
    Naming.isLegal (exposed.resource.mappedArgumentName exposed.action.name argument.name) := by
  have unreported := List.filterMap_eq_nil_iff.mp clean argument shown
  simpa using unreported

namespace Plan

variable {schema : Schema} {options : Options} {plan : Plan} {exposed : ExposedAction}

/-- The resource of an exposed action has been checked. -/
theorem memberNameFaults_eq_nil (made : Plan.make schema options = .ok plan)
    (clean : plan.verification.faults = []) (listed : exposed ∈ plan.exposed) :
    exposed.resource ∈ schema.resources ∧ memberNameFaults exposed.resource = [] := by
  rw [exposed_eq made] at listed
  obtain ⟨entry, isEntry, named, -, -⟩ := Schema.mem_exposedActions_iff.mp listed
  have reached : exposed.resource ∈ plan.discovered.records schema := by
    rw [discovered_eq made]
    exact Schema.rendered_of_entry isEntry named
  exact ⟨Schema.mem_of_resource? named,
    (List.append_eq_nil_iff.mp (resourceNameFaults_eq_nil made clean reached)).1⟩

/-- The names that an exposed action mentions have been checked. -/
theorem exposedNameFaults_eq_nil (made : Plan.make schema options = .ok plan)
    (clean : plan.verification.faults = []) (listed : exposed ∈ plan.exposed) :
    argumentNameFaults exposed = [] ∧
      nestedNameFaults schema exposed.place exposed.action = [] := by
  have checked : actionTypeFaults schema = [] := faultsOf_eq_nil made clean .actionTypes
  rw [exposed_eq made] at listed
  rw [actionTypeFaults_eq] at checked
  have names := List.flatMap_eq_nil_iff.mp checked exposed listed
  rw [exposedNameFaults, List.append_eq_nil_iff, List.append_eq_nil_iff] at names
  exact names.1

/-- The names of the fields of an input have been checked where these are public. -/
theorem isLegal_mappedInputName (made : Plan.make schema options = .ok plan)
    (clean : plan.verification.faults = []) (listed : exposed ∈ plan.exposed) {field : InputField}
    (taken : field ∈ inputFieldsOf exposed.resource exposed.action) (shown : field.isPublic) :
    Naming.isLegal (mappedInputName exposed.resource exposed.action field) := by
  rcases List.mem_append.mp taken with isStored | isArgument
  · obtain ⟨stored, accepted, rfl⟩ := List.mem_map.mp isStored
    have members := (memberNameFaults_eq_nil made clean listed).2
    have known : stored ∈ exposed.resource.publicAttributes :=
      List.mem_filter.mpr ⟨mem_attributes_of_accepted accepted, shown⟩
    have member : (MemberKind.stored, stored.name) ∈ publicMembers exposed.resource := by
      simp only [publicMembers, List.mem_append]
      exact .inl (.inl (.inl (List.mem_map_of_mem known)))
    exact isLegal_mappedFieldName members member
  · obtain ⟨argument, isPublic, rfl⟩ := List.mem_map.mp isArgument
    exact isLegal_mappedArgumentName (exposedNameFaults_eq_nil made clean listed).1 isPublic

/-- **The input of an action has legal names exactly when the attributes have that it accepts
though they are not public**, in a plan without faults. -/
theorem legal_input_iff {typing : Typing} (made : Plan.make schema options = .ok plan)
    (clean : plan.verification.faults = []) (given : schema.NamesGiven)
    (listed : exposed ∈ plan.exposed) {declared : DataClass}
    (rendered : (typing.inputClass? exposed.shape).result = .ok (some declared)) :
    declared.HasLegalNames ↔
      ∀ stored ∈ acceptedAttributes exposed.resource exposed.action, ¬stored.isPublic →
        LegalInCode stored.name
          (changing stored.name (exposed.resource.fieldRename? stored.name)) := by
  have apart : (inputSources exposed.shape).Nodup := by
    have distinct := nodup_input made clean listed rendered
    rw [Typing.kotlinNames_input_eq rendered] at distinct
    exact distinct.of_map _
  have known := (memberNameFaults_eq_nil made clean listed).1
  have legal_iff (field : InputField) :
      Naming.isLegal (kotlinNameOf field.spec.name
        (changing field.spec.name (inputRename? exposed.resource exposed.action field))) ↔
        LegalInCode field.spec.name
          (changing field.spec.name (inputRename? exposed.resource exposed.action field)) :=
    isLegal_kotlinNameOf_iff fun target found =>
      given.inputRename known exposed.action field target (mem_of_mem_changing found)
  rw [hasLegalNames_input_iff rendered apart]
  constructor
  · intro legal stored accepted _
    have taken : InputField.stored stored ∈ inputFieldsOf exposed.resource exposed.action :=
      List.mem_append_left _ (List.mem_map_of_mem accepted)
    exact (legal_iff (.stored stored)).mp (legal _ taken)
  · intro unchecked field taken
    rw [legal_iff field]
    by_cases shown : field.isPublic
    · refine .of_mapped ?_
      rw [getD_changing, ← mappedInputName_eq_getD]
      exact isLegal_mappedInputName made clean listed taken shown
    · rcases List.mem_append.mp taken with isStored | isArgument
      · obtain ⟨stored, accepted, rfl⟩ := List.mem_map.mp isStored
        exact unchecked stored accepted shown
      · obtain ⟨argument, isPublic, rfl⟩ := List.mem_map.mp isArgument
        exact absurd (List.mem_filter.mp isPublic).2 shown

/-- The renames of metadata fields have been checked. -/
theorem isLegal_metadataName (made : Plan.make schema options = .ok plan)
    (clean : plan.verification.faults = []) (listed : exposed ∈ plan.exposed) {field : FieldSpec}
    (shown : field ∈ exposed.shape.metadata) :
    ∀ target ∈ exposed.shape.metadataNames.lookup field.name, Naming.isLegal target := by
  intro target found
  rw [exposed_eq made] at listed
  obtain ⟨entry, isEntry, named, isListed, chosen⟩ := Schema.mem_exposedActions_iff.mp listed
  have ordered := (inOrder_iff named).mp (entries_inOrder made clean entry isEntry)
  have unreported := ordered.1 exposed.rpcAction isListed
  simp only [referencedActionFaults, chosen, metadataFaults, List.append_eq_nil_iff,
    List.map_eq_nil_iff, List.filter_eq_nil_iff] at unreported
  have renamed : (field.name, target) ∈ exposed.rpcAction.metadataFieldNames :=
    mem_of_lookup_eq_some found
  have declared : field.name ∈ exposed.action.metadata.map (·.name) :=
    List.mem_map_of_mem (mem_metadata_of_mem_exposedMetadata shown)
  have legal := unreported.1.2 _ renamed
  simpa [declared] using legal

/-- **The metadata of an action has legal names exactly when the fields that keep theirs have no
question marks in them**, in a plan without faults. -/
theorem legal_metadata_iff {typing : Typing} (made : Plan.make schema options = .ok plan)
    (clean : plan.verification.faults = []) (given : schema.NamesGiven)
    (listed : exposed ∈ plan.exposed) {declared : DataClass}
    (rendered : typing.metadataClass? exposed.shape = some declared) :
    declared.HasLegalNames ↔ ∀ field ∈ exposed.shape.metadata,
      exposed.shape.metadataNames.lookup field.name = none → '?' ∉ field.name.toList := by
  have renames : ∀ rename ∈ exposed.shape.metadataNames, rename.2 ≠ "" :=
    given.metadata exposed (exposed_eq made ▸ listed)
  rw [hasLegalNames_metadata_iff rendered]
  refine forall₂_congr fun field shown => ?_
  rw [isLegal_kotlinNameOf_iff (ne_empty_of_lookup renames field.name)]
  have checked := isLegal_metadataName made clean listed shown
  exact ⟨fun legal => legal.kept, fun plain => ⟨checked, plain⟩⟩

/-- What the types of an exposed action nest has been checked. -/
theorem isLegal_nested (made : Plan.make schema options = .ok plan)
    (clean : plan.verification.faults = []) (listed : exposed ∈ plan.exposed)
    {name mapped : String} (nested : exposed.action.Nests schema NotEmpty name mapped) :
    Naming.isLegal mapped := by
  by_contra illegal
  obtain ⟨location, reported⟩ := (reported_iff_nests exposed.place).mpr ⟨illegal, nested⟩
  rw [(exposedNameFaults_eq_nil made clean listed).2] at reported
  exact absurd reported List.not_mem_nil

/-- **The variants of a union have legal names exactly when the fields have that they take and that
no exposed action nests**, in a plan without faults. -/
theorem legal_union_iff (typing : Typing) (made : Plan.make schema options = .ok plan)
    (clean : plan.verification.faults = []) (given : schema.NamesGiven) {union : UnionDef}
    (found : union ∈ plan.discovered.unions) :
    (∀ variant ∈ (typing.union union).variants, variant.HasLegalNames) ↔
      ∀ names ∈ union.inlinedNames,
        (∀ exposed ∈ plan.exposed, ¬exposed.action.Nests schema NotEmpty names.1
          (names.2.getD names.1)) → LegalInCode names.1 names.2 := by
  rw [discovered_eq made] at found
  rw [hasLegalNames_variants_iff]
  refine forall₂_congr fun names taken => ?_
  rw [isLegal_kotlinNameOf_iff (given.structs union found names taken)]
  constructor
  · exact fun legal _ => legal
  · intro unchecked
    by_cases nested : ∃ exposed ∈ plan.exposed,
        exposed.action.Nests schema NotEmpty names.1 (names.2.getD names.1)
    · obtain ⟨exposed, listed, nests⟩ := nested
      exact .of_mapped (isLegal_nested made clean listed nests)
    · exact unchecked fun exposed listed nests => nested ⟨exposed, listed, nests⟩

/-- **When the properties of inputs, of metadata and of variants have legal names**, in a plan
without faults whose document renames nothing to the empty name.  The checks see to all but the
attributes that are accepted though they are not public, the metadata fields that keep their names,
and the fields that a variant takes from a struct that no exposed action mentions. -/
theorem propertyNames_legal_iff (typing : Typing) (made : Plan.make schema options = .ok plan)
    (clean : plan.verification.faults = []) (given : schema.NamesGiven) :
    (∀ exposed ∈ plan.exposed, ∀ declared,
      (typing.inputClass? exposed.shape).result = .ok (some declared) →
        (declared.HasLegalNames ↔
          ∀ stored ∈ acceptedAttributes exposed.resource exposed.action, ¬stored.isPublic →
            LegalInCode stored.name
              (changing stored.name (exposed.resource.fieldRename? stored.name)))) ∧
    (∀ exposed ∈ plan.exposed, ∀ declared,
      typing.metadataClass? exposed.shape = some declared →
        (declared.HasLegalNames ↔ ∀ field ∈ exposed.shape.metadata,
          exposed.shape.metadataNames.lookup field.name = none → '?' ∉ field.name.toList)) ∧
    ∀ union ∈ plan.discovered.unions,
      ((∀ variant ∈ (typing.union union).variants, variant.HasLegalNames) ↔
        ∀ names ∈ union.inlinedNames,
          (∀ exposed ∈ plan.exposed, ¬exposed.action.Nests schema NotEmpty names.1
            (names.2.getD names.1)) → LegalInCode names.1 names.2) := by
  refine ⟨?_, ?_, ?_⟩
  · intro exposed listed declared rendered
    exact legal_input_iff made clean given listed rendered
  · intro exposed listed declared rendered
    exact legal_metadata_iff made clean given listed rendered
  · intro union found
    exact legal_union_iff typing made clean given found

end Plan

/-- Making a task, which may be done already.  The answer tells when it was kept. -/
def makeTask (done kept : String) : Action where
  name := "create"
  kind := .create
  accept := ["title", done]
  metadata := [
    { name := kept, type := .primitive .utcDatetime {} },
    { name := "seen?", type := .primitive .boolean {} }]

/-- Tasks at a place.  Whether they are done is not public, and no action mentions a place. -/
def task (done kept inside : String) : Resource where
  id := "Task"
  attributes := [
    { name := "id", type := .primitive .uuid {}, isPrimaryKey := true },
    { name := "title", type := .primitive .string {} },
    { name := done, type := .primitive .boolean {}, isPublic := false },
    { name := "place"
      type := .union [
        ("house", .struct .map [{ name := inside, type := .primitive .boolean {} }] none []),
        ("street", .primitive .string {})] none }]
  actions := [makeTask done kept]
  fieldNames := [("title", "heading")]

/-- Tasks that clients may make. -/
def taskSchemaWith (done kept inside : String) : Schema where
  resources := [task done kept inside]
  domains := [{
    name := "Main"
    rpc := [{
      resource := "Task"
      actions := [{
        name := "create_task"
        action := "create"
        metadataFieldNames := [("seen?", "wasSeen")] }] }] }]

/-- The call that makes a task. -/
def makesTask (done kept inside : String) : ExposedAction where
  resource := task done kept inside
  action := makeTask done kept
  rpcAction := {
    name := "create_task"
    action := "create"
    metadataFieldNames := [("seen?", "wasSeen")] }

/-- The schema of tasks renames nothing to the empty name. -/
theorem namesGiven_task {done kept inside : String}
    (exposed : (taskSchemaWith done kept inside).exposedActions = [makesTask done kept inside])
    (taken : (taskSchemaWith done kept inside).discovery.unions.map UnionDef.inlinedNames =
      [[(inside, none)]]) : (taskSchemaWith done kept inside).NamesGiven where
  fields := by simp [taskSchemaWith, task]
  arguments := by simp [taskSchemaWith, task]
  metadata := by simp [exposed, makesTask]
  structs := by
    intro union found names listed target renamed
    have among : union.inlinedNames ∈ [[(inside, none)]] := by
      rw [← taken]
      exact List.mem_map_of_mem found
    rw [List.mem_singleton.mp among, List.mem_singleton] at listed
    rw [listed] at renamed
    cases renamed

/-- The properties for tasks have legal names, even where nothing checks them. -/
theorem task_names_legal :
    ∃ plan, Plan.make (taskSchemaWith "is_done" "kept_at" "in_house") {} = .ok plan ∧
      plan.verification.faults = [] ∧
      (taskSchemaWith "is_done" "kept_at" "in_house").NamesGiven ∧
      (∃ exposed ∈ plan.exposed,
        (∃ declared, ((Typing.ofSchema (taskSchemaWith "is_done" "kept_at" "in_house")
          {}).inputClass? exposed.shape).result = .ok (some declared) ∧ declared.HasLegalNames) ∧
        ∃ declared, (Typing.ofSchema (taskSchemaWith "is_done" "kept_at" "in_house")
          {}).metadataClass? exposed.shape = some declared ∧ declared.HasLegalNames) ∧
      plan.discovered.unions.map UnionDef.inlinedNames = [[("in_house", none)]] ∧
      ∀ union ∈ plan.discovered.unions,
        ∀ variant ∈ ((Typing.ofSchema (taskSchemaWith "is_done" "kept_at" "in_house")
          {}).union union).variants, variant.HasLegalNames := by
  have evaluated :
      (Plan.make (taskSchemaWith "is_done" "kept_at" "in_house") {}).toOption.map (fun plan =>
        (plan.verification.faults, plan.discovered.unions.map UnionDef.inlinedNames)) =
        some ([], [[("in_house", none)]]) := by
    cbv
  obtain ⟨plan, made, seen⟩ := Plan.exists_of_evaluated evaluated
  injection seen with clean taken
  have only : (taskSchemaWith "is_done" "kept_at" "in_house").exposedActions =
      [makesTask "is_done" "kept_at" "in_house"] := rfl
  have given : (taskSchemaWith "is_done" "kept_at" "in_house").NamesGiven :=
    namesGiven_task only (Plan.discovered_eq made ▸ taken)
  have listed : makesTask "is_done" "kept_at" "in_house" ∈ plan.exposed := by
    rw [Plan.exposed_eq made, only]
    exact List.mem_cons_self
  have legal := Plan.propertyNames_legal_iff
    (.ofSchema (taskSchemaWith "is_done" "kept_at" "in_house") {}) made clean given
  refine ⟨plan, made, clean, given, ⟨_, listed, ⟨_, rfl, ?_⟩, ⟨_, rfl, ?_⟩⟩, taken, ?_⟩
  · refine (legal.1 _ listed _ rfl).mpr ?_
    intro stored accepted hidden
    rcases List.mem_cons.mp accepted with rfl | accepted
    · exact absurd rfl hidden
    · obtain rfl := List.mem_singleton.mp accepted
      exact ⟨by decide, by decide⟩
  · refine (legal.2.1 _ listed _ rfl).mpr ?_
    intro field shown kept
    rcases List.mem_cons.mp shown with rfl | shown
    · decide
    · obtain rfl := List.mem_singleton.mp shown
      cases kept
  · intro union found
    refine (legal.2.2 union found).mpr ?_
    intro names among _
    have here : union.inlinedNames ∈ [[("in_house", none)]] := by
      rw [← taken]
      exact List.mem_map_of_mem found
    rw [List.mem_singleton.mp here, List.mem_singleton] at among
    rw [among]
    exact ⟨by simp, by decide⟩

/-- **Nothing is found about an attribute that is not public, a metadata field that keeps its name,
or a field of a struct in a union**: their question marks stand in the names of properties. -/
theorem unchecked_names :
    ∃ plan, Plan.make (taskSchemaWith "done?" "kept?" "inside?") {} = .ok plan ∧
      plan.verification.faults = [] ∧
      (taskSchemaWith "done?" "kept?" "inside?").NamesGiven ∧
      (∃ exposed ∈ plan.exposed,
        (∃ declared, ((Typing.ofSchema (taskSchemaWith "done?" "kept?" "inside?")
          {}).inputClass? exposed.shape).result = .ok (some declared) ∧
            declared.kotlinNames = ["heading", "done?"] ∧ ¬declared.HasLegalNames) ∧
        ∃ declared, (Typing.ofSchema (taskSchemaWith "done?" "kept?" "inside?")
          {}).metadataClass? exposed.shape = some declared ∧
            declared.kotlinNames = ["kept?", "wasSeen"] ∧ ¬declared.HasLegalNames) ∧
      ∃ union ∈ plan.discovered.unions,
        ∃ variant ∈ ((Typing.ofSchema (taskSchemaWith "done?" "kept?" "inside?")
          {}).union union).variants,
            variant.kotlinNames = ["inside?"] ∧ ¬variant.HasLegalNames := by
  have evaluated :
      (Plan.make (taskSchemaWith "done?" "kept?" "inside?") {}).toOption.map (fun plan =>
        (plan.verification.faults, plan.discovered.unions.map UnionDef.inlinedNames,
          plan.discovered.unions.flatMap fun union =>
            ((Typing.ofSchema (taskSchemaWith "done?" "kept?" "inside?") {}).union
              union).variants.map DataClass.kotlinNames)) =
        some ([], [[("inside?", none)]], [["inside?"], ["value"]]) := by
    cbv
  obtain ⟨plan, made, seen⟩ := Plan.exists_of_evaluated evaluated
  injection seen with clean seen
  injection seen with taken variants
  have only : (taskSchemaWith "done?" "kept?" "inside?").exposedActions =
      [makesTask "done?" "kept?" "inside?"] := rfl
  have given : (taskSchemaWith "done?" "kept?" "inside?").NamesGiven :=
    namesGiven_task only (Plan.discovered_eq made ▸ taken)
  have listed : makesTask "done?" "kept?" "inside?" ∈ plan.exposed := by
    rw [Plan.exposed_eq made, only]
    exact List.mem_cons_self
  have illegal {declared : DataClass} (name : String) (held : name ∈ declared.kotlinNames)
      (marked : Naming.isLegal name = false) : ¬declared.HasLegalNames := by
    intro legal
    rw [legal name held] at marked
    cases marked
  have inside : ["inside?"] ∈ plan.discovered.unions.flatMap fun union =>
      ((Typing.ofSchema (taskSchemaWith "done?" "kept?" "inside?") {}).union
        union).variants.map DataClass.kotlinNames := by
    rw [variants]
    exact List.mem_cons_self
  obtain ⟨union, found, held⟩ := List.mem_flatMap.mp inside
  obtain ⟨variant, isVariant, names⟩ := List.mem_map.mp held
  refine ⟨plan, made, clean, given, ⟨_, listed, ⟨_, rfl, by decide, ?_⟩, ⟨_, rfl, by decide, ?_⟩⟩,
    union, found, variant, isVariant, names, ?_⟩
  · exact illegal "done?" (by decide) (by decide)
  · exact illegal "kept?" (by decide) (by decide)
  · exact illegal "inside?" (by rw [names]; exact List.mem_cons_self) (by decide)

end TypedRpc
