import Mathlib.Data.List.Nodup
import TypedRpc.Proofs.Client.ActionTypes

/-!
# Names of the declared types

A client declares its records, enumerations and unions, and for each action some types that are
named after it: the name of the action in PascalCase, and then what the type is.  The checks compare
the first three with each other.  Nothing compares the types of actions with them, or with each
other.

That the beginnings of the names differ is not enough.  Two of the endings end in another one: a
page of results is a result as well, and the parameters of a validation are parameters.  So an
action whose name goes on where the name of another one stops may have types that are called like
those of the other.

* `ActionType.suffix_eq_append_iff`: which endings end in which others.
* `nodup_typeNames_iff`: when the types of some actions differ.
* `Plan.nodup_classNames_iff`: when all declared types differ.
* `todo_results_meet`: two types of one name in a plan without faults.
-/

namespace TypedRpc

open Target (DataClass)

/-! ## Endings -/

/-- What a page of results is called before it is a result. -/
def PaginationKind.qualifier : PaginationKind → String
  | .offset => "Offset"
  | .keyset => "Keyset"
  | .both => "Paginated"

/-- A type that may come with an action. -/
inductive ActionType where
  | page (kind : PaginationKind)
  | metadata
  | result
  | input
  | config
  | validation
  deriving DecidableEq, Repr

namespace ActionType

/-- The end of the name of a type. -/
def suffix : ActionType → String
  | .page kind => kind.resultSuffix
  | .metadata => "Metadata"
  | .result => "Result"
  | .input => "Input"
  | .config => "Config"
  | .validation => "ValidationConfig"

/-- Whether the end of one type is a word and then the end of another one. -/
inductive Extends : ActionType → String → ActionType → Prop
  | page (kind : PaginationKind) : Extends (.page kind) kind.qualifier .result
  | validation : Extends .validation "Validation" .config

variable {type other : ActionType} {word : String}

theorem Extends.suffix_eq (extends_other : type.Extends word other) :
    type.suffix = word ++ other.suffix := by
  cases extends_other with
  | page kind => cases kind <;> decide
  | validation => decide

theorem Extends.word_ne (extends_other : type.Extends word other) : word ≠ "" := by
  cases extends_other with
  | page kind => cases kind <;> decide
  | validation => decide

/-- The ends that end in others are those of pages and of validations. -/
theorem extends_of_isSuffix (tail : other.suffix.toList <:+ type.suffix.toList) :
    type = other ∨ ∃ word, type.Extends word other := by
  cases type with
  | page kind =>
    cases other with
    | page other =>
      cases kind <;> cases other <;> first | exact .inl rfl | exact absurd tail (by decide)
    | result => exact .inr ⟨_, .page kind⟩
    | metadata | input | config | validation => cases kind <;> exact absurd tail (by decide)
  | validation =>
    cases other with
    | page kind => cases kind <;> exact absurd tail (by decide)
    | validation => exact .inl rfl
    | config => exact .inr ⟨_, .validation⟩
    | metadata | result | input => exact absurd tail (by decide)
  | metadata | result | input | config =>
    cases other with
    | page kind => cases kind <;> exact absurd tail (by decide)
    | _ => first | exact .inl rfl | exact absurd tail (by decide)

theorem suffix_eq_append_iff :
    type.suffix = word ++ other.suffix ↔
      (type = other ∧ word = "") ∨ type.Extends word other := by
  constructor
  · intro same
    have tail : other.suffix.toList <:+ type.suffix.toList := by
      rw [same, String.toList_append]
      exact List.suffix_append ..
    rcases extends_of_isSuffix tail with rfl | ⟨given, extends_other⟩
    · exact .inl ⟨rfl, String.append_eq_right_iff.mp same.symm⟩
    · rw [extends_other.suffix_eq, String.append_left_inj] at same
      exact .inr (same ▸ extends_other)
  · rintro (⟨rfl, rfl⟩ | extends_other)
    · exact String.empty_append.symm
    · exact extends_other.suffix_eq

end ActionType

/-- Two texts put together are the same exactly when one of the first parts goes on with what the
other second part begins with. -/
theorem append_eq_append_iff {first second other last : String} :
    first ++ second = other ++ last ↔
      (∃ word, other = first ++ word ∧ second = word ++ last) ∨
        ∃ word, first = other ++ word ∧ last = word ++ second := by
  have chars : ∀ {a b c : String}, a = b ++ c ↔ a.toList = b.toList ++ c.toList := by
    intro a b c
    rw [← String.toList_append, String.toList_inj]
  have texts : ∀ {p : List Char → Prop}, (∃ word, p word) ↔ ∃ word : String, p word.toList := by
    refine fun {p} => ⟨fun ⟨word, held⟩ => ⟨.ofList word, ?_⟩, fun ⟨word, held⟩ => ⟨_, held⟩⟩
    rwa [String.toList_ofList]
  rw [← String.toList_inj, String.toList_append, String.toList_append, List.append_eq_append_iff,
    texts, texts]
  simp only [chars]

/-- **When types of actions are called alike.**  Either both are the same type and their names begin
alike, or the end of one is a word and then the end of the other, whose name has that word already
at its beginning. -/
theorem ActionType.called_alike_iff {type other : ActionType} {start before : String} :
    start ++ type.suffix = before ++ other.suffix ↔
      (type = other ∧ start = before) ∨
      (∃ word, type.Extends word other ∧ before = start ++ word) ∨
        ∃ word, other.Extends word type ∧ start = before ++ word := by
  rw [append_eq_append_iff]
  simp only [suffix_eq_append_iff]
  constructor
  · rintro (⟨word, rfl, ⟨rfl, rfl⟩ | extends_other⟩ | ⟨word, rfl, ⟨rfl, rfl⟩ | extends_type⟩)
    · exact .inl ⟨rfl, String.append_empty.symm⟩
    · exact .inr (.inl ⟨word, extends_other, rfl⟩)
    · exact .inl ⟨rfl, String.append_empty⟩
    · exact .inr (.inr ⟨word, extends_type, rfl⟩)
  · rintro (⟨rfl, rfl⟩ | ⟨word, extends_other, rfl⟩ | ⟨word, extends_type, rfl⟩)
    · exact .inl ⟨"", String.append_empty.symm, .inl ⟨rfl, rfl⟩⟩
    · exact .inl ⟨word, rfl, .inr extends_other⟩
    · exact .inr ⟨word, rfl, .inr extends_type⟩

/-! ## The types of an action -/

namespace ActionShape

variable (shape : ActionShape) (options : Options)

/-- Whether parameters of a validation are declared. -/
def declaresValidation : Bool :=
  options.validationFunctions && shape.supportsValidation

/-- The names of the types that are declared for an action. -/
def typeNames : List String :=
  shape.pageResultName?.toList ++ shape.metadataName?.toList ++ [shape.resultName] ++
    shape.inputName?.toList ++ [shape.configName] ++
    if shape.declaresValidation options then [shape.validationConfigName] else []

/-- The types that are declared for an action. -/
def types : List ActionType :=
  (shape.pagination.map ActionType.page).toList ++
    (if shape.metadata.isEmpty then [] else [.metadata]) ++ [.result] ++
    (if shape.inputCardinality = .none then [] else [.input]) ++ [.config] ++
    if shape.declaresValidation options then [.validation] else []

/-- The name of a type of an action. -/
def nameOf (type : ActionType) : String :=
  shape.typePrefix ++ type.suffix

/-- The types are named after the action and what they are. -/
theorem typeNames_eq : shape.typeNames options = (shape.types options).map shape.nameOf := by
  have page : shape.pageResultName?.toList =
      (shape.pagination.map ActionType.page).toList.map shape.nameOf := by
    unfold pageResultName?
    cases shape.pagination <;> rfl
  have metadata : shape.metadataName?.toList =
      (if shape.metadata.isEmpty then [] else [ActionType.metadata]).map shape.nameOf := by
    unfold metadataName?
    split <;> rfl
  have input : shape.inputName?.toList =
      (if shape.inputCardinality = .none then [] else [ActionType.input]).map shape.nameOf := by
    unfold inputName?
    split <;> rfl
  have validation :
      (if shape.declaresValidation options then [shape.validationConfigName] else []) =
        (if shape.declaresValidation options then [ActionType.validation] else []).map
          shape.nameOf := by
    split <;> rfl
  rw [typeNames, page, metadata, input, validation]
  simp only [types, List.map_append]
  rfl

theorem nodup_types : (shape.types options).Nodup := by
  unfold types
  cases shape.pagination <;> split <;> split <;> split <;> simp

theorem result_mem_types : ActionType.result ∈ shape.types options := by
  simp [types]

theorem config_mem_types : ActionType.config ∈ shape.types options := by
  simp [types]

theorem page_mem_types_iff {kind : PaginationKind} :
    .page kind ∈ shape.types options ↔ shape.pagination = some kind := by
  simp [types]

theorem validation_mem_types_iff :
    .validation ∈ shape.types options ↔ shape.declaresValidation options := by
  simp [types]

end ActionShape

/-! ## The types of several actions -/

section Several

variable {options : Options} {shapes : List ActionShape}

/-- The types that are declared for some actions, each with the beginning of its name. -/
def prefixedTypes (options : Options) (shapes : List ActionShape) : List (String × ActionType) :=
  shapes.flatMap fun shape => (shape.types options).map fun type => (shape.typePrefix, type)

theorem mem_prefixedTypes {start : String} {type : ActionType} :
    (start, type) ∈ prefixedTypes options shapes ↔
      ∃ shape ∈ shapes, type ∈ shape.types options ∧ shape.typePrefix = start := by
  simp [prefixedTypes]

theorem nodup_prefixedTypes (distinct : (shapes.map ActionShape.typePrefix).Nodup) :
    (prefixedTypes options shapes).Nodup := by
  refine List.nodup_flatMap.mpr ⟨fun shape _ => ?_, ?_⟩
  · exact (shape.nodup_types options).map (Prod.mk_right_injective _)
  · refine (List.pairwise_map.mp distinct).imp fun differ => List.disjoint_left.mpr ?_
    intro pair here there
    obtain ⟨_, -, rfl⟩ := List.mem_map.mp here
    obtain ⟨_, -, same⟩ := List.mem_map.mp there
    exact differ (congrArg Prod.fst same).symm

theorem flatMap_typeNames (options : Options) (shapes : List ActionShape) :
    shapes.flatMap (ActionShape.typeNames · options) =
      (prefixedTypes options shapes).map fun (start, type) => start ++ type.suffix := by
  simp only [prefixedTypes, List.map_flatMap, List.map_map, ActionShape.typeNames_eq]
  rfl

/-- Whether no action is named like another one and then the word that a page or a validation of the
other one is told apart by. -/
structure PrefixesApart (options : Options) (shapes : List ActionShape) : Prop where
  pages : ∀ shape ∈ shapes, ∀ kind ∈ shape.pagination, ∀ other ∈ shapes,
    other.typePrefix ≠ shape.typePrefix ++ kind.qualifier
  validations : ∀ shape ∈ shapes, shape.declaresValidation options → ∀ other ∈ shapes,
    other.typePrefix ≠ shape.typePrefix ++ "Validation"

theorem prefixesApart_iff :
    PrefixesApart options shapes ↔
      ∀ shape ∈ shapes, ∀ type ∈ shape.types options, ∀ word other, type.Extends word other →
        ∀ next ∈ shapes, next.typePrefix ≠ shape.typePrefix ++ word := by
  constructor
  · intro apart shape listed type declared word other extends_other
    cases extends_other with
    | page kind =>
      exact apart.pages shape listed kind ((shape.page_mem_types_iff options).mp declared)
    | validation =>
      exact apart.validations shape listed ((shape.validation_mem_types_iff options).mp declared)
  · intro apart
    constructor
    case pages =>
      intro shape listed kind paged
      exact apart shape listed _ ((shape.page_mem_types_iff options).mpr paged) _ _ (.page kind)
    case validations =>
      intro shape listed declared
      exact apart shape listed _ ((shape.validation_mem_types_iff options).mpr declared) _ _
        .validation

/-- What another type ends in is declared for every action. -/
theorem ActionType.Extends.mem_types {type other : ActionType} {word : String}
    (extends_other : type.Extends word other) (shape : ActionShape) :
    other ∈ shape.types options := by
  cases extends_other with
  | page kind => exact shape.result_mem_types options
  | validation => exact shape.config_mem_types options

/-- **When the types of some actions differ**, given that the beginnings of their names do. -/
theorem nodup_typeNames_iff (distinct : (shapes.map ActionShape.typePrefix).Nodup) :
    (shapes.flatMap (ActionShape.typeNames · options)).Nodup ↔ PrefixesApart options shapes := by
  rw [flatMap_typeNames, List.nodup_map_iff_inj_on (nodup_prefixedTypes distinct),
    prefixesApart_iff]
  constructor
  · intro differ shape listed type declared word other extends_other next held longer
    have here : (shape.typePrefix, type) ∈ prefixedTypes options shapes :=
      mem_prefixedTypes.mpr ⟨shape, listed, declared, rfl⟩
    have there : (next.typePrefix, other) ∈ prefixedTypes options shapes :=
      mem_prefixedTypes.mpr ⟨next, held, extends_other.mem_types next, rfl⟩
    have alike : shape.typePrefix ++ type.suffix = next.typePrefix ++ other.suffix :=
      ActionType.called_alike_iff.mpr (.inr (.inl ⟨word, extends_other, longer⟩))
    have starts : shape.typePrefix = next.typePrefix :=
      congrArg Prod.fst (differ _ here _ there alike)
    exact extends_other.word_ne (String.append_eq_left_iff.mp (longer.symm.trans starts.symm))
  · rintro apart ⟨start, type⟩ here ⟨before, other⟩ there alike
    obtain ⟨shape, listed, declared, rfl⟩ := mem_prefixedTypes.mp here
    obtain ⟨next, held, declared_next, rfl⟩ := mem_prefixedTypes.mp there
    rcases ActionType.called_alike_iff.mp alike with
      ⟨rfl, starts⟩ | ⟨word, extends_other, longer⟩ | ⟨word, extends_type, longer⟩
    · rw [starts]
    · exact absurd longer (apart shape listed type declared word other extends_other next held)
    · exact absurd longer (apart next held other declared_next word type extends_type shape listed)

end Several

/-! ## Declarations -/

namespace Typing

variable {typing : Typing}

/-- A metadata type is declared under the name for it, or not at all. -/
theorem map_name_metadataClass? (typing : Typing) (shape : ActionShape) :
    (typing.metadataClass? shape).map DataClass.name = shape.metadataName? := by
  unfold metadataClass?
  cases shape.metadataName? <;> rfl

/-- An input that can be declared is declared under the name for it, or not at all. -/
theorem map_name_of_inputClass? {shape : ActionShape} {input? : Option DataClass}
    (made : (typing.inputClass? shape).result = .ok input?) :
    input?.map DataClass.name = shape.inputName? := by
  rw [inputClass?] at made
  cases named : shape.inputName? with
  | none =>
    rw [named] at made
    cases made
    rfl
  | some name =>
    rw [named, Logged.result_bind] at made
    obtain ⟨properties, -, made⟩ := bind_eq_ok_iff.mp made
    cases made
    rfl

/-- **The names of the types of an action are those of its declarations.** -/
theorem typeNames_eq_declared {exposed : ExposedAction} {input? : Option DataClass}
    (made : (typing.inputClass? exposed.shape).result = .ok input?) :
    exposed.shape.typeNames typing.options =
      ((typing.pageResult? exposed.shape).map PageResult.name).toList ++
        ((typing.metadataClass? exposed.shape).map DataClass.name).toList ++
        [exposed.shape.resultName] ++ (input?.map DataClass.name).toList ++
        [(typing.configRecord exposed.shape exposed.resource).name] ++
        if exposed.shape.declaresValidation typing.options then
          [(typing.validationRecord exposed.shape exposed.resource).name] else [] := by
  rw [map_name_pageResult?, map_name_metadataClass?, map_name_of_inputClass? made]
  rfl

end Typing

namespace Plan

variable {schema : Schema} {options : Options} {plan : Plan}

/-- The names of the types that stand for what discovery finds. -/
def discoveredNames (plan : Plan) (schema : Schema) (typing : Typing) : List String :=
  (plan.discovered.records schema).map (fun record => (typing.record record).name) ++
    plan.discovered.enums.map (fun found => found.declaration.name) ++
    plan.discovered.unions.map (fun found => (typing.union found).name)

/-- The names of all types that stand for what discovery finds or come with an action. -/
def classNames (plan : Plan) (schema : Schema) (typing : Typing) : List String :=
  plan.discoveredNames schema typing ++
    plan.shapes.flatMap (ActionShape.typeNames · typing.options)

theorem nodup_discoveredNames (typing : Typing) (made : Plan.make schema options = .ok plan)
    (clean : plan.verification.faults = []) : (plan.discoveredNames schema typing).Nodup := by
  have agree := namesAgree made clean
  have kept := catalogued made
  unfold discoveredNames
  rw [discovered_eq made] at agree kept ⊢
  exact agree.nodup_names kept Discovery.nodup_allResources

/-- **When all declared types have names of their own.**  Nothing is found when the records, the
enumerations and the unions differ among themselves.  Where the beginnings of the names of actions
differ too, all types differ exactly when none of the former is named like a type of an action and
no two actions are called so that a type of one is named like a type of the other. -/
theorem nodup_classNames_iff (made : Plan.make schema options = .ok plan)
    (clean : plan.verification.faults = [])
    (distinct : (plan.shapes.map ActionShape.typePrefix).Nodup) :
    (plan.classNames schema (.ofSchema schema options)).Nodup ↔
      (∀ name ∈ plan.discoveredNames schema (.ofSchema schema options),
        ∀ shape ∈ plan.shapes, name ∉ shape.typeNames options) ∧
      PrefixesApart options plan.shapes := by
  have discovered := nodup_discoveredNames (.ofSchema schema options) made clean
  have types : (plan.shapes.flatMap (ActionShape.typeNames · options)).Nodup ↔
      PrefixesApart options plan.shapes := nodup_typeNames_iff distinct
  rw [classNames, List.nodup_append', and_iff_right discovered, and_comm]
  refine and_congr ?_ types
  simp only [List.disjoint_left, List.mem_flatMap, not_exists, not_and]
  rfl

end Plan

/-- To-dos that clients may read page by page and make. -/
def pagedTodo : Resource where
  id := "Todo"
  attributes := [
    { name := "title", type := .primitive .string {} },
    { name := "state", type := .enum ["open", "done"] none }]
  actions := [
    { name := "read", kind := .read, pagination := some { offset := true } },
    { name := "create", kind := .create, accept := ["title"] }]

/-- To-dos whose actions are called by some names. -/
def pagedTodos (rpcActions : List RpcAction) : Schema where
  resources := [pagedTodo]
  domains := [{ name := "Main", rpc := [{ resource := "Todo", actions := rpcActions }] }]

/-- To-dos under names that keep their types apart. -/
def plainNames : Schema :=
  pagedTodos [{ name := "list_todos", action := "read" },
    { name := "create_todo", action := "create" }]

/-- To-dos under two names, one of which goes on where the other one stops. -/
def stretchedNames : Schema :=
  pagedTodos [{ name := "list_todos", action := "read" },
    { name := "list_todos_offset", action := "read" }]

/-- The types of to-dos have names of their own. -/
theorem todo_types_differ :
    ∃ plan, Plan.make plainNames {} = .ok plan ∧ plan.verification.faults = [] ∧
      (plan.shapes.map ActionShape.typePrefix).Nodup ∧
      (plan.classNames plainNames (.ofSchema plainNames {})).Nodup := by
  have evaluated : (Plan.make plainNames {}).toOption.map (·.verification.faults) = some [] := by
    cbv
  obtain ⟨plan, made, clean⟩ := Plan.exists_of_evaluated evaluated
  have shapes : plan.shapes = plainNames.exposedActions.map ExposedAction.shape := by
    rw [Plan.shapes, Plan.exposed_eq made]
  have distinct : (plan.shapes.map ActionShape.typePrefix).Nodup := by
    rw [shapes]
    decide +kernel
  have discovered : plan.discoveredNames plainNames (.ofSchema plainNames {}) =
      ["Todo", "State"] := by
    rw [Plan.discoveredNames, Plan.discovered_eq made]
    cbv
  refine ⟨plan, made, clean, distinct, (Plan.nodup_classNames_iff made clean distinct).mpr ⟨?_, ?_⟩⟩
  · rw [discovered, shapes]
    decide +kernel
  · rw [shapes]
    constructor
    · decide +kernel
    · decide +kernel

/-- Nothing is found about a page of results and a result that are called alike: both are a
`ListTodosOffsetResult`. -/
theorem todo_results_meet :
    ∃ plan, Plan.make stretchedNames {} = .ok plan ∧ plan.verification.faults = [] ∧
      (plan.shapes.map ActionShape.typePrefix).Nodup ∧
      ¬(plan.classNames stretchedNames (.ofSchema stretchedNames {})).Nodup := by
  have evaluated :
      (Plan.make stretchedNames {}).toOption.map (·.verification.faults) = some [] := by
    cbv
  obtain ⟨plan, made, clean⟩ := Plan.exists_of_evaluated evaluated
  have shapes : plan.shapes = stretchedNames.exposedActions.map ExposedAction.shape := by
    rw [Plan.shapes, Plan.exposed_eq made]
  refine ⟨plan, made, clean, ?_, ?_⟩
  · rw [shapes]
    decide +kernel
  · intro differ
    rw [Plan.classNames, List.nodup_append, shapes] at differ
    exact absurd differ.2.1 (by decide +kernel)

end TypedRpc
