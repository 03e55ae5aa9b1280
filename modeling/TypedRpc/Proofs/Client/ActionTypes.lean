import TypedRpc.Proofs.Client.GeneratedNames
import TypedRpc.Proofs.Client.Payload
import TypedRpc.Schema.Document

/-!
# The types of single actions are declared where they are mentioned

Whether a type that an action brings along is declared, and whether it is mentioned, are decided in
different places and from different parts of the shape of the action.  They agree because a shape
has pages only for reads of many records, and an input only when there is something to put into it.

One declaration may never be written: that of an input whose bounds stand above its fields as
annotations, when one of the bounds is not finite, or of one with an integer that is too long.  The
parameters of the action mention the input all the same.

* `TypeExpr.leaf`, `ConfigRecord.Mentions`: the names that the types of parameters are built on.
* `Typing.CanWrite`, `Typing.exists_inputClass?_iff`: when an input is declared.
* `TypesDeclared`, `typesDeclared_iff`: the statement about all types of an action.
* `unbounded_input_undeclared`: an input that is mentioned and not declared.
-/

namespace TypedRpc

open Target (TypeExpr ConfigField ConfigRecord DataClass SealedClass)

/-! ## What parameters mention -/

namespace Target

/-- The name that a type is built on. -/
def TypeExpr.leaf : TypeExpr → String
  | .named name => name
  | .list item => item.leaf
  | .nullable type => type.leaf

/-- Whether the type of a parameter is built on a name. -/
def ConfigRecord.Mentions (record : ConfigRecord) (parameter name : String) : Prop :=
  ∃ field ∈ record.fields, field.name = parameter ∧ field.type.leaf = name

theorem ConfigRecord.mentions_iff_of_mem {record : ConfigRecord}
    (distinct : (record.fields.map (·.name)).Nodup) {field : ConfigField}
    (listed : field ∈ record.fields) (name : String) :
    record.Mentions field.name name ↔ field.type.leaf = name := by
  constructor
  · rintro ⟨other, held, same, shown⟩
    rw [List.inj_on_of_nodup_map distinct listed held same.symm]
    exact shown
  · exact fun shown => ⟨field, listed, rfl, shown⟩

theorem ConfigRecord.not_mentions {record : ConfigRecord} {parameter : String}
    (absent : parameter ∉ record.fields.map (·.name)) (name : String) :
    ¬record.Mentions parameter name := by
  rintro ⟨field, listed, named, -⟩
  exact absent (List.mem_map.mpr ⟨field, listed, named⟩)

end Target

namespace Typing

variable (typing : Typing) (shape : ActionShape) (resource : Resource)

theorem mentions_iff_of_mem {field : ConfigField}
    (listed : field ∈ (typing.configRecord shape resource).fields) (name : String) :
    (typing.configRecord shape resource).Mentions field.name name ↔ field.type.leaf = name :=
  Target.ConfigRecord.mentions_iff_of_mem (typing.usesDeclared_call shape resource).distinct
    listed name

/-- Where a payload has no key, no parameter of its name is mentioned. -/
theorem not_mentions_of_key {parameter : String} (keyed : parameter ≠ "action")
    (sent : parameter ≠ "headers")
    (absent : parameter ∉ (shape.payload typing.options).map (·.key)) (name : String) :
    ¬(typing.configRecord shape resource).Mentions parameter name :=
  Target.ConfigRecord.not_mentions
    (mt (typing.mem_map_name_configRecord_iff shape resource keyed sent).mp absent) name

/-- A parameter that is there when a type is given, and is then built on it, mentions that type
only. -/
theorem mentions_iff_of_given {parameter : String} (keyed : parameter ≠ "action")
    (sent : parameter ≠ "headers") {given : Option String}
    (absent : given = none → parameter ∉ (shape.payload typing.options).map (·.key))
    (shown : ∀ type, given = some type →
      (typing.configRecord shape resource).Mentions parameter type) (name : String) :
    (typing.configRecord shape resource).Mentions parameter name ↔ given = some name := by
  constructor
  · intro mentioned
    cases taken : given with
    | none =>
      exact absurd mentioned (typing.not_mentions_of_key shape resource keyed sent (absent taken) _)
    | some type =>
      obtain ⟨field, listed, rfl, rfl⟩ := shown type taken
      exact congrArg some ((typing.mentions_iff_of_mem shape resource listed name).mp mentioned)
  · exact shown name

/-- The parameters mention an input exactly when the action takes one. -/
theorem mentions_input_iff (name : String) :
    (typing.configRecord shape resource).Mentions "input" name ↔
      shape.inputName? = some name := by
  refine typing.mentions_iff_of_given shape resource (by decide) (by decide) (fun absent => ?_)
    (fun type taken => ?_) name
  · have empty : shape.inputCardinality = .none := by
      simpa [ActionShape.inputName?] using absent
    simp [ActionShape.map_key_payload, ActionShape.map_key_identityEntries, empty]
  · by_cases required : shape.inputCardinality = .required
    · refine ⟨⟨"input", .named type, none⟩, ?_, rfl, rfl⟩
      simp [configRecord, commonFields, taken, required]
    · refine ⟨⟨"input", .nullable (.named type), some "null"⟩, ?_, rfl, rfl⟩
      simp [configRecord, commonFields, taken, required]

/-- The parameters mention a type that asks for a page exactly when the action has pages. -/
theorem mentions_page_iff (name : String) :
    (typing.configRecord shape resource).Mentions "page" name ↔
      shape.pageConfigName? = some name := by
  refine typing.mentions_iff_of_given shape resource (by decide) (by decide) (fun absent => ?_)
    (fun type paged => ?_) name
  · have unpaged : shape.pagination = none := Option.map_eq_none_iff.mp absent
    simp [ActionShape.map_key_payload, ActionShape.map_key_identityEntries, unpaged]
  · by_cases required : shape.paginationRequired = true
    · refine ⟨⟨"page", .named type, none⟩, ?_, rfl, rfl⟩
      simp [configRecord, ActionShape.pageFields, paged, required]
    · refine ⟨⟨"page", .nullable (.named type), some "null"⟩, ?_, rfl, rfl⟩
      simp [configRecord, ActionShape.pageFields, paged, required]

end Typing

/-! ## Inputs -/

/-- Whether a bound is neither infinite nor no number at all. -/
def Bound.isFinite : Bound → Bool
  | .int _ => true
  | .float (.finite ..) => true
  | .float _ => false

/-- Whether the bounds of numbers are finite. -/
def TypeRef.hasFiniteBounds (type : TypeRef) : Bool :=
  !type.isNumeric ||
    type.constraints?.all fun constraints =>
      constraints.min.all Bound.isFinite && constraints.max.all Bound.isFinite

/-- A bound can be written exactly when it is finite. -/
theorem Bound.truncate_isOk_iff (bound : Bound) :
    (∃ n, bound.truncate = .ok n) ↔ bound.isFinite = true := by
  match bound with
  | .int n => exact iff_of_true ⟨n, rfl⟩ rfl
  | .float (.finite negative significand exponent) => exact iff_of_true ⟨_, rfl⟩ rfl
  | .float (.infinite negative) => exact iff_of_false nofun nofun
  | .float .nan => exact iff_of_false nofun nofun

/-- The annotations for bounds are there exactly when the bounds are finite. -/
theorem boundChecks_isOk_iff (type : TypeRef) (constraints : Constraints) :
    (∀ check ∈ boundChecks type constraints, ∃ asked, check = .ok asked) ↔
      (type.isNumeric = true → constraints.min.all Bound.isFinite = true ∧
        constraints.max.all Bound.isFinite = true) := by
  have one (bound : Option Bound) (form : Int → InputCheck) :
      (∀ check ∈ (bound.map fun bound => bound.truncate.map form).toList,
          ∃ asked, check = .ok asked) ↔ bound.all Bound.isFinite = true := by
    cases bound with
    | none => simp
    | some bound =>
      rw [Option.map_some, Option.toList_some, List.forall_mem_singleton, Option.all_some,
        ← bound.truncate_isOk_iff]
      constructor
      · rintro ⟨_, done⟩
        obtain ⟨n, cut, -⟩ := map_eq_ok_iff.mp done
        exact ⟨n, cut⟩
      · rintro ⟨n, cut⟩
        exact ⟨form n, map_eq_ok_iff.mpr ⟨n, cut, rfl⟩⟩
  unfold boundChecks
  split
  · next numeric => rw [List.forall_mem_append, one, one, forall_prop_of_true numeric]
  · next other => simp [other]

theorem forall_mem_map_ok (asked : List InputCheck) :
    ∀ check ∈ asked.map (.ok : InputCheck → Except Breakdown InputCheck), ∃ one, check = .ok one :=
  List.forall_mem_map.mpr fun one _ => ⟨one, rfl⟩

/-- The annotations of a field are all there exactly when its bounds are finite. -/
theorem checks_isOk_iff (field : FieldSpec) :
    (∀ check ∈ field.checks, ∃ asked, check = .ok asked) ↔
      field.type.hasFiniteBounds = true := by
  unfold Field.checks TypeRef.hasFiniteBounds
  cases field.type.constraints? with
  | none => exact iff_of_true (forall_mem_map_ok _) (by simp)
  | some constraints =>
    dsimp only
    rw [List.forall_mem_append, List.forall_mem_append, boundChecks_isOk_iff,
      and_iff_right (forall_mem_map_ok _), and_iff_left (forall_mem_map_ok _)]
    cases field.type.isNumeric <;> simp

/-- Whether no integer in the annotations of a field is too long. -/
def Field.hasShortChecks (field : FieldSpec) : Bool :=
  field.checks.all fun check => check.toOption.all InputCheck.isWritable

/-- Whether the default of a field is no integer that is too long. -/
def Field.hasShortDefault (field : FieldSpec) : Bool :=
  match field.default with
  | .int n => Number.isWritable n
  | _ => true

/-- The annotations of a field can be written exactly when its bounds are finite and no integer is
too long. -/
theorem annotationTexts_isOk_iff (field : FieldSpec) :
    (∃ texts, field.annotationTexts = .ok texts) ↔
      field.hasShortChecks = true ∧ field.type.hasFiniteBounds = true := by
  rw [← checks_isOk_iff, Field.annotationTexts, mapM_isOk_iff, Field.hasShortChecks,
    List.all_eq_true, ← forall₂_and]
  refine forall₂_congr fun check listed => ?_
  simp only [bind_eq_ok_iff, InputCheck.write_eq_ok_iff]
  cases check with
  | error breakdown => simp
  | ok asked => simp [Except.toOption]

theorem checkDefault_isOk_iff (field : FieldSpec) :
    field.checkDefault = .ok () ↔ field.hasShortDefault = true := by
  unfold Field.checkDefault Field.hasShortDefault
  cases field.default with
  | int n =>
    dsimp only
    split
    · next short => exact iff_of_true rfl short
    · next long => exact iff_of_false nofun long
  | _ => exact iff_of_true rfl rfl

namespace Typing

variable {typing : Typing} {shape : ActionShape}

/-- Whether the fields of an input can be written: no integer that is written for them is too long,
and the bounds that are to be annotated are finite. -/
structure CanWrite (typing : Typing) (fields : List InputField) : Prop where
  shortDefaults : ∀ field ∈ fields, field.spec.hasShortDefault = true
  shortChecks : typing.options.validationAnnotations = true →
    ∀ field ∈ fields, field.spec.hasShortChecks = true
  finite : typing.options.validationAnnotations = true →
    ∀ field ∈ fields, field.spec.type.hasFiniteBounds = true

theorem CanWrite.nil : typing.CanWrite [] where
  shortDefaults := List.forall_mem_nil _
  shortChecks _ := List.forall_mem_nil _
  finite _ := List.forall_mem_nil _

theorem inputAnnotations_isOk_iff (field : FieldSpec) :
    (∃ annotations, typing.inputAnnotations field = .ok annotations) ↔
      (typing.options.validationAnnotations = true →
        field.hasShortChecks = true ∧ field.type.hasFiniteBounds = true) := by
  unfold inputAnnotations
  split
  · next annotated => rw [annotationTexts_isOk_iff, forall_prop_of_true annotated]
  · next plain => simp [plain]

theorem makeInputProperty_isOk_iff (field : FieldSpec) :
    (∃ property, (typing.makeInputProperty shape field).result = .ok property) ↔
      (typing.options.validationAnnotations = true →
        field.hasShortChecks = true ∧ field.type.hasFiniteBounds = true) ∧
      field.hasShortDefault = true := by
  rw [result_makeInputProperty, ← inputAnnotations_isOk_iff, ← checkDefault_isOk_iff]
  simp only [bind_eq_ok_iff]
  constructor
  · rintro ⟨_, annotations, annotated, _, checked, -⟩
    exact ⟨⟨annotations, annotated⟩, checked⟩
  · rintro ⟨⟨annotations, annotated⟩, checked⟩
    exact ⟨_, annotations, annotated, (), checked, rfl⟩

/-- There are properties for all fields of an input exactly when the fields can be written. -/
theorem exists_inputProperties_iff :
    (∃ properties, (shape.inputFields.mapM fun field =>
        typing.makeInputProperty shape field.spec).result = .ok properties) ↔
      typing.CanWrite shape.inputFields := by
  rw [Logged.result_mapM, mapM_isOk_iff]
  simp only [makeInputProperty_isOk_iff]
  constructor
  · intro each
    constructor
    case shortDefaults => exact fun field listed => (each field listed).2
    case shortChecks => exact fun on field listed => ((each field listed).1 on).1
    case finite => exact fun on field listed => ((each field listed).1 on).2
  · intro written field listed
    refine ⟨fun on => ⟨?_, ?_⟩, written.shortDefaults field listed⟩
    · exact written.shortChecks on field listed
    · exact written.finite on field listed

/-- **An input is declared exactly when the action takes one and its fields can be written.** -/
theorem exists_inputClass?_iff (name : String) :
    (∃ declared, (typing.inputClass? shape).result = .ok (some declared) ∧
        declared.name = name) ↔
      shape.inputName? = some name ∧ typing.CanWrite shape.inputFields := by
  rw [inputClass?, ← exists_inputProperties_iff]
  cases taken : shape.inputName? with
  | none =>
    constructor
    · rintro ⟨declared, done, -⟩
      cases done
    · rintro ⟨named, -⟩
      cases named
  | some given =>
    rw [Logged.result_bind]
    constructor
    · rintro ⟨declared, done, named⟩
      obtain ⟨properties, each, done⟩ := bind_eq_ok_iff.mp done
      cases done
      exact ⟨congrArg some named, properties, each⟩
    · rintro ⟨named, properties, each⟩
      exact ⟨_, bind_eq_ok_iff.mpr ⟨properties, each, rfl⟩, Option.some.inj named⟩

end Typing

/-! ## Pages -/

/-- A page of results as a declaration. -/
inductive PageResult where
  | single (declared : DataClass)
  | variants (declared : SealedClass)

namespace PageResult

/-- The name of the declaration. -/
def name : PageResult → String
  | .single declared => declared.name
  | .variants declared => declared.name

/-- The declaration as it is written. -/
def text : PageResult → String
  | .single declared => declared.text
  | .variants declared => declared.text

end PageResult

namespace Typing

variable (typing : Typing) (shape : ActionShape)

/-- The declaration of a page of results, if there are pages. -/
def pageResult? : Option PageResult :=
  let record := typing.recordType shape.resourceId
  shape.pagination.map fun kind =>
    let name := shape.typePrefix ++ kind.resultSuffix
    match kind with
    | .offset => .single { name := name, properties := typing.offsetProperties record }
    | .keyset => .single { name := name, properties := typing.keysetProperties record }
    | .both => .variants (typing.pageVariants name record)

/-- What is written for a page of results is its declaration. -/
theorem pageResultText_eq :
    typing.pageResultText shape = ((typing.pageResult? shape).map PageResult.text).getD "" := by
  unfold pageResultText pageResult?
  rcases shape.pagination with _ | kind
  · rfl
  · cases kind <;> rfl

/-- A page of results is declared under the name for it, or not at all. -/
theorem map_name_pageResult? :
    (typing.pageResult? shape).map PageResult.name = shape.pageResultName? := by
  unfold pageResult? ActionShape.pageResultName?
  rcases shape.pagination with _ | kind
  · rfl
  · cases kind <;> rfl

/-- Where there are pages, a successful call is answered with one. -/
theorem successData_of_paged {schema : Schema} {exposed : ExposedAction} {name : String}
    (paged : exposed.shape.pageResultName? = some name) :
    typing.successData schema exposed.shape = .named name := by
  have some_kind : exposed.shape.pagination.isSome = true := by
    obtain ⟨kind, chosen, -⟩ := Option.map_eq_some_iff.mp paged
    rw [chosen]
    rfl
  obtain ⟨⟨reads, many⟩, -⟩ :=
    (isSome_paginationOf_iff exposed.action exposed.rpcAction).mp some_kind
  have kind_eq : exposed.shape.kind = .read := reads
  have get_eq : exposed.shape.isGet = false := many
  simp only [successData, kind_eq, get_eq, paged]
  rfl

end Typing

/-- The types that ask for pages are those of the kinds that some action uses. -/
theorem map_name_pageClasses (shapes : List ActionShape) :
    (pageClasses shapes).map (·.name) =
      (([.offset, .keyset, .both] : List PaginationKind).filter fun kind =>
        shapes.any fun shape => shape.pagination = some kind).map PaginationKind.pageConfig := by
  unfold pageClasses
  induction ([.offset, .keyset, .both] : List PaginationKind) with
  | nil => rfl
  | cons kind rest ih =>
    rw [List.filterMap_cons, List.filter_cons]
    by_cases used : (shapes.any fun shape => shape.pagination = some kind) = true
    · simp only [if_pos used, List.map_cons, ih]
      rfl
    · simp only [if_neg used, ih]

/-- A type that asks for a page is declared once where some action has pages of its kind. -/
theorem count_map_name_pageClasses {shapes : List ActionShape} {shape : ActionShape}
    (listed : shape ∈ shapes) {name : String} (paged : shape.pageConfigName? = some name) :
    ((pageClasses shapes).map (·.name)).count name = 1 := by
  obtain ⟨kind, chosen, rfl⟩ := Option.map_eq_some_iff.mp paged
  have distinct : (([.offset, .keyset, .both] : List PaginationKind).map
      PaginationKind.pageConfig).Nodup := by decide
  have complete : kind ∈ ([.offset, .keyset, .both] : List PaginationKind) := by
    cases kind <;> decide
  have used : (shapes.any fun shape => shape.pagination = some kind) = true :=
    List.any_eq_true.mpr ⟨shape, listed, decide_eq_true chosen⟩
  rw [map_name_pageClasses]
  exact List.count_eq_one_of_mem (distinct.sublist (List.filter_sublist.map _))
    (List.mem_map_of_mem (List.mem_filter.mpr ⟨complete, used⟩))

/-! ## Metadata -/

namespace Typing

variable (typing : Typing) (shape : ActionShape)

theorem exists_metadataClass?_iff (name : String) :
    (∃ declared, typing.metadataClass? shape = some declared ∧ declared.name = name) ↔
      shape.metadataName? = some name := by
  unfold metadataClass?
  cases shape.metadataName? <;> simp

/-- The line of a result that mentions a metadata type. -/
def metadataLine (name : String) : String :=
  "        val metadata: " ++ name ++ "? = null"

/-- The argument of a converter that mentions a metadata type. -/
def metadataArgument (name : String) : String :=
  "            metadata = response.metadata?.let \x7b rpcJson.decodeFromJsonElement<" ++ name ++
    ">(it) \x7d"

/-- A line around a name stands behind another one exactly when there is the name. -/
theorem mem_cons_map_toList_iff {before after first : String}
    (apart : ∀ name, before ++ name ++ after ≠ first) (name? : Option String) (name : String) :
    before ++ name ++ after ∈ first :: (name?.map fun name => before ++ name ++ after).toList ↔
      name? = some name := by
  rw [List.mem_cons, or_iff_right (apart name)]
  cases name? with
  | none => exact iff_of_false nofun nofun
  | some given =>
    rw [Option.map_some, Option.toList_some, List.mem_singleton, String.append_left_inj,
      String.append_right_inj, Option.some.injEq, eq_comm]

/-- A result mentions a metadata type exactly when there is one. -/
theorem metadataLine_mem_successLines_iff (schema : Schema) (name : String) :
    metadataLine name ∈ typing.successLines schema shape ↔ shape.metadataName? = some name := by
  refine mem_cons_map_toList_iff (fun name same => ?_) shape.metadataName? name
  rw [String.append_assoc, String.append_assoc] at same
  simpa using congrArg String.toList same

/-- A converter mentions a metadata type exactly when there is one. -/
theorem metadataArgument_mem_successArguments_iff (schema : Schema) (name : String) :
    metadataArgument name ∈ typing.successArguments schema shape ↔
      shape.metadataName? = some name := by
  refine mem_cons_map_toList_iff (fun name same => ?_) shape.metadataName? name
  rw [String.append_assoc] at same
  simpa using congrArg String.toList same

end Typing

/-! ## All types of an action -/

/-- **Whether the types that an action brings along are declared where they are mentioned.** -/
structure TypesDeclared (schema : Schema) (typing : Typing) (exposed : ExposedAction) : Prop where
  input : ∀ name,
    (typing.configRecord exposed.shape exposed.resource).Mentions "input" name ↔
      ∃ declared, (typing.inputClass? exposed.shape).result = .ok (some declared) ∧
        declared.name = name
  resultMetadata : ∀ name,
    Typing.metadataLine name ∈ typing.successLines schema exposed.shape ↔
      ∃ declared, typing.metadataClass? exposed.shape = some declared ∧ declared.name = name
  converterMetadata : ∀ name,
    Typing.metadataArgument name ∈ typing.successArguments schema exposed.shape ↔
      ∃ declared, typing.metadataClass? exposed.shape = some declared ∧ declared.name = name
  pageMentioned : (∃ name,
      (typing.configRecord exposed.shape exposed.resource).Mentions "page" name) ↔
    exposed.shape.pagination.isSome
  /-- A type that asks for a page is declared once for all actions. -/
  pageDeclared : ∀ name,
    (typing.configRecord exposed.shape exposed.resource).Mentions "page" name →
      ((pageClasses (schema.exposedActions.map ExposedAction.shape)).map (·.name)).count name = 1
  pageResult : ∀ name,
    exposed.shape.pageResultName? = some name ∧
        typing.successData schema exposed.shape = .named name ↔
      ∃ declared, typing.pageResult? exposed.shape = some declared ∧ declared.name = name

/-- **The types that an action brings along are declared where they are mentioned, exactly when the
fields of its input can be written**: all bounds that are to be annotated are finite, and no integer
that is written is too long. -/
theorem typesDeclared_iff {schema : Schema} {exposed : ExposedAction}
    (listed : exposed ∈ schema.exposedActions) (typing : Typing) :
    TypesDeclared schema typing exposed ↔
      typing.CanWrite (inputFieldsOf exposed.resource exposed.action) := by
  constructor
  · intro declared
    by_cases empty : inputFieldsOf exposed.resource exposed.action = []
    · rw [empty]
      exact .nil
    · have some_input : exposed.shape.inputName? = some (exposed.shape.typePrefix ++ "Input") :=
        if_neg fun none => empty ((inputCardinalityOf_eq_none_iff _).mp none)
      have mentioned := (typing.mentions_input_iff exposed.shape exposed.resource _).mpr some_input
      exact (Typing.exists_inputClass?_iff _).mp ((declared.input _).mp mentioned) |>.2
  · intro written
    constructor
    case input =>
      intro name
      rw [Typing.mentions_input_iff, Typing.exists_inputClass?_iff]
      exact (and_iff_left written).symm
    case resultMetadata =>
      intro name
      rw [Typing.metadataLine_mem_successLines_iff, Typing.exists_metadataClass?_iff]
    case converterMetadata =>
      intro name
      rw [Typing.metadataArgument_mem_successArguments_iff, Typing.exists_metadataClass?_iff]
    case pageMentioned =>
      simp only [Typing.mentions_page_iff, ActionShape.pageConfigName?, ← Option.isSome_iff_exists,
        Option.isSome_map]
    case pageDeclared =>
      intro name mentioned
      rw [Typing.mentions_page_iff] at mentioned
      exact count_map_name_pageClasses (List.mem_map_of_mem listed) mentioned
    case pageResult =>
      intro name
      have declared : (∃ declared, typing.pageResult? exposed.shape = some declared ∧
          declared.name = name) ↔ exposed.shape.pageResultName? = some name := by
        rw [← Typing.map_name_pageResult?, Option.map_eq_some_iff]
      rw [declared]
      exact ⟨And.left, fun paged => ⟨paged, typing.successData_of_paged paged⟩⟩

/-- Restrictions stand above the fields of inputs as annotations. -/
def annotated : Options where
  validationAnnotations := true

/-- A search for books of some length, which answers with pages and says how it has found them. -/
def bookSearch : Action where
  name := "search"
  kind := .read
  arguments := [{
    name := "pages"
    type := .primitive .integer { min := some (.int 1), max := some (.int 2000) } }]
  pagination := some { offset := true, keyset := true }
  metadata := [{ name := "engine", type := .primitive .string {} }]

/-- Books that clients may search for. -/
def bookSchema : Schema where
  resources := [{ id := "Book", actions := [bookSearch] }]
  domains := [{
    name := "Main"
    rpc := [{ resource := "Book", actions := [{ name := "list_books", action := "search" }] }] }]

/-- The types that a search for books brings along. -/
theorem bookSearch_typesDeclared :
    ∃ exposed, exposed ∈ bookSchema.exposedActions ∧ exposed.action = bookSearch ∧
      TypesDeclared bookSchema (.ofSchema bookSchema annotated) exposed := by
  have listed : ⟨{ id := "Book", actions := [bookSearch] }, bookSearch,
      { name := "list_books", action := "search" }⟩ ∈ bookSchema.exposedActions :=
    List.mem_singleton.mpr rfl
  have written : (Typing.ofSchema bookSchema annotated).CanWrite
      (inputFieldsOf { id := "Book", actions := [bookSearch] } bookSearch) :=
    ⟨by decide, fun _ => by decide, fun _ => by decide⟩
  exact ⟨_, listed, rfl, (typesDeclared_iff listed _).mpr written⟩

/-- A document with a sample whose level may not be less than infinity. -/
def sampleDocument : Document where
  value := .record [
    ("resources", .list [.record [
      ("id", .text "Sample"),
      ("attributes", .list [.record [
        ("name", .text "level"),
        ("type", .record [
          ("kind", .text "primitive"), ("primitive", .text "float"),
          ("constraints", .record [("min", .text "inf")])])]]),
      ("actions", .list [.record [
        ("name", .text "create"), ("type", .text "create"),
        ("accept", .list [.text "level"])]])]]),
    ("domains", .list [.record [
      ("name", .text "Main"),
      ("rpc", .list [.record [
        ("resource", .text "Sample"),
        ("rpc_actions", .list [
          .record [("name", .text "create_sample"), ("action", .text "create")]])]])]])]

/-- The action that makes samples. -/
def sampleCreation : ExposedAction where
  resource := {
    id := "Sample"
    attributes := [{
      name := "level", type := .primitive .float { min := some (.float (.infinite false)) } }]
    actions := [{ name := "create", kind := .create, accept := ["level"] }] }
  action := { name := "create", kind := .create, accept := ["level"] }
  rpcAction := { name := "create_sample", action := "create" }

/-- The schema that the document describes. -/
def sampleSchema : Schema where
  resources := [sampleCreation.resource]
  domains := [{
    name := "Main"
    rpc := [{ resource := "Sample", actions := [sampleCreation.rpcAction] }] }]

/-- Nothing is found about an infinite bound, and the input that is mentioned cannot be declared
with annotations. -/
theorem unbounded_input_undeclared :
    Schema.ofDocument sampleDocument = .ok sampleSchema ∧
      ∃ plan, Plan.make sampleSchema annotated = .ok plan ∧ plan.verification.faults = [] ∧
        sampleCreation ∈ plan.exposed ∧
        ((Typing.ofSchema sampleSchema annotated).configRecord sampleCreation.shape
          sampleCreation.resource).Mentions "input" "CreateSampleInput" ∧
        ((Typing.ofSchema sampleSchema annotated).inputClass? sampleCreation.shape).result =
          .error .infiniteBound := by
  have accepted : Schema.ofDocument sampleDocument = .ok sampleSchema := by cbv
  have evaluated : (Plan.make sampleSchema annotated).toOption.map
      (·.verification.faults) = some [] := by
    cbv
  obtain ⟨plan, made, clean⟩ := Plan.exists_of_evaluated evaluated
  have listed : sampleCreation ∈ plan.exposed := by
    rw [Plan.exposed_eq made]
    exact List.mem_singleton.mpr rfl
  refine ⟨accepted, plan, made, clean, listed, ?_, rfl⟩
  rw [Typing.mentions_input_iff]
  decide +kernel

end TypedRpc
