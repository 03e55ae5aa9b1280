import TypedRpc.Proofs.Client.ActionTypes

/-!
# Inputs may be left out when their properties say so

Whether an action is called with an input is decided when its shape is made, from the fields that it
takes and their defaults.  What stands behind the properties of the input is decided when it is
declared: the literal of a default, or null for a value that may be absent, as long as the options
write such defaults out.  The two agree field by field, whatever kind of value a default is.

An input that cannot be declared is the exception.  Its action still asks for it.

* `Typing.initializer_inputProperty_eq_none_iff`: a property has nothing behind it exactly when its
  field must be given.
* `Typing.map_isNone_initializer`: the properties of an input beside its fields.
* `CardinalityShown`, `cardinalityShown_iff`: the statement about all inputs.
* `unbounded_input_asked_for`: an input that must be given and is not declared.
-/

namespace TypedRpc

open Target (DataClass)

/-! ## Fields and their properties -/

/-- A default has a literal unless it is null: a value without one becomes null in the code. -/
theorem Field.defaultLiteral?_eq_none_iff (field : FieldSpec) :
    field.defaultLiteral? = none ↔ field.default = .null := by
  unfold Field.defaultLiteral?
  split
  case h_1 absent => exact iff_of_true rfl absent
  case h_2 present => exact iff_of_false (Option.some_ne_none _) present

theorem isRequiredInput_iff (field : FieldSpec) :
    isRequiredInput field ↔ field.default = .null ∧ field.nullable = false := by
  unfold isRequiredInput
  split
  case h_1 absent => simp [absent]
  case h_2 present => exact iff_of_false Bool.false_ne_true fun both => present both.1

theorem Options.nullDefault_eq_none_iff {options : Options}
    (explicit : options.nullableStrategy = .explicit) (nullable : Bool) :
    options.nullDefault nullable = none ↔ nullable = false := by
  unfold Options.nullDefault
  cases nullable <;> simp [explicit]

namespace Typing

variable {typing : Typing}

/-- **A property of an input has nothing behind it exactly when its field must be given.** -/
theorem initializer_inputProperty_eq_none_iff
    (explicit : typing.options.nullableStrategy = .explicit) (shape : ActionShape)
    (annotations : List String) (field : FieldSpec) :
    (typing.inputProperty shape annotations field).initializer = none ↔
      isRequiredInput field := by
  have written : (typing.inputProperty shape annotations field).initializer =
      field.defaultLiteral?.or (typing.options.nullDefault field.nullable) := rfl
  rw [written, Option.or_eq_none_iff, field.defaultLiteral?_eq_none_iff,
    Options.nullDefault_eq_none_iff explicit, isRequiredInput_iff]

/-- The properties of an input have nothing behind them where its fields must be given, one after
another. -/
theorem map_isNone_initializer (explicit : typing.options.nullableStrategy = .explicit)
    {shape : ActionShape} {declared : DataClass}
    (made : (typing.inputClass? shape).result = .ok (some declared)) :
    declared.properties.map (·.initializer.isNone) =
      shape.inputFields.map fun field => isRequiredInput field.spec := by
  refine map_of_inputClass? (·.initializer.isNone) isRequiredInput ?_ made
  intro field annotations _
  rw [Bool.eq_iff_iff, Option.isNone_iff_eq_none]
  exact initializer_inputProperty_eq_none_iff explicit shape annotations field

end Typing

/-! ## Inputs and cardinalities -/

namespace Target.DataClass

/-- Whether a new value of the class needs some argument. -/
def NeedsArgument (declared : DataClass) : Prop :=
  ∃ property ∈ declared.properties, property.initializer = none

/-- Whether the class has properties, and a new value of it needs no argument. -/
def MakesDoWithout (declared : DataClass) : Prop :=
  declared.properties ≠ [] ∧ ∀ property ∈ declared.properties, property.initializer ≠ none

end Target.DataClass

/-- Whether the input of an action is declared as its cardinality says. -/
structure CardinalityShown (typing : Typing) (shape : ActionShape) : Prop where
  required : shape.inputCardinality = .required ↔
    ∃ declared, (typing.inputClass? shape).result = .ok (some declared) ∧ declared.NeedsArgument
  optional : shape.inputCardinality = .optional ↔
    ∃ declared, (typing.inputClass? shape).result = .ok (some declared) ∧ declared.MakesDoWithout
  none : shape.inputCardinality = .none ↔
    ∀ declared, (typing.inputClass? shape).result ≠ .ok (some declared)

section Shapes

variable {typing : Typing} {resource : Resource} {action : Action} {rpcAction : RpcAction}

/-- An input is declared exactly when there are fields for it and they can be written. -/
theorem exists_inputClass?_of_iff :
    (∃ declared, (typing.inputClass? (.of resource action rpcAction)).result =
        .ok (some declared)) ↔
      inputFieldsOf resource action ≠ [] ∧
        typing.CanWrite (inputFieldsOf resource action) := by
  have taken : (∃ name, (ActionShape.of resource action rpcAction).inputName? = some name) ↔
      inputFieldsOf resource action ≠ [] := by
    rw [ne_eq, ← inputCardinalityOf_eq_none_iff]
    unfold ActionShape.inputName?
    split_ifs with absent
    · exact iff_of_false nofun fun present => present absent
    · exact iff_of_true ⟨_, rfl⟩ absent
  rw [← taken]
  constructor
  · rintro ⟨declared, made⟩
    obtain ⟨named, written⟩ := (Typing.exists_inputClass?_iff _).mp ⟨declared, made, rfl⟩
    exact ⟨⟨declared.name, named⟩, written⟩
  · rintro ⟨⟨name, named⟩, written⟩
    obtain ⟨declared, made, -⟩ := (Typing.exists_inputClass?_iff name).mpr ⟨named, written⟩
    exact ⟨declared, made⟩

/-- An input that is declared needs an argument exactly when some field must be given. -/
theorem needsArgument_iff (explicit : typing.options.nullableStrategy = .explicit)
    {declared : DataClass}
    (made : (typing.inputClass? (.of resource action rpcAction)).result = .ok (some declared)) :
    declared.NeedsArgument ↔
      ∃ field ∈ inputFieldsOf resource action, isRequiredInput field.spec := by
  have beside := Typing.map_isNone_initializer explicit made
  have inProperties : declared.NeedsArgument ↔
      true ∈ declared.properties.map (·.initializer.isNone) := by
    simp [DataClass.NeedsArgument]
  rw [inProperties, beside, List.mem_map]
  rfl

/-- An input that is declared has properties exactly when the action takes fields. -/
theorem properties_ne_nil_iff {declared : DataClass}
    (made : (typing.inputClass? (.of resource action rpcAction)).result = .ok (some declared)) :
    declared.properties ≠ [] ↔ inputFieldsOf resource action ≠ [] := by
  have beside : (inputFieldsOf resource action).length = declared.properties.length :=
    (Typing.properties_of_inputClass? made).length_eq
  rw [← List.length_pos_iff, ← List.length_pos_iff, beside]

/-- An input that is declared makes do without arguments exactly when the action takes fields and
none of them must be given. -/
theorem makesDoWithout_iff (explicit : typing.options.nullableStrategy = .explicit)
    {declared : DataClass}
    (made : (typing.inputClass? (.of resource action rpcAction)).result = .ok (some declared)) :
    declared.MakesDoWithout ↔ inputFieldsOf resource action ≠ [] ∧
      ∀ field ∈ inputFieldsOf resource action, ¬ isRequiredInput field.spec := by
  have needs := not_congr (needsArgument_iff explicit made)
  unfold DataClass.NeedsArgument at needs
  push Not at needs
  unfold DataClass.MakesDoWithout
  rw [properties_ne_nil_iff made, needs]

/-- When the fields of an input can be written, what holds of it holds of its fields, as long as it
takes some field to hold. -/
theorem exists_declared_and_iff {P : DataClass → Prop} {fieldsSay : Prop}
    (written : typing.CanWrite (inputFieldsOf resource action))
    (each : ∀ declared,
      (typing.inputClass? (.of resource action rpcAction)).result = .ok (some declared) →
        (P declared ↔ fieldsSay))
    (some_fields : fieldsSay → inputFieldsOf resource action ≠ []) :
    (∃ declared, (typing.inputClass? (.of resource action rpcAction)).result =
        .ok (some declared) ∧ P declared) ↔ fieldsSay := by
  constructor
  · rintro ⟨declared, made, holds⟩
    exact (each declared made).mp holds
  · intro said
    obtain ⟨declared, made⟩ := exists_inputClass?_of_iff.mpr ⟨some_fields said, written⟩
    exact ⟨declared, made, (each declared made).mpr said⟩

end Shapes

/-- **The input of every action is declared as its cardinality says, exactly when its fields can be
written**, provided that the options write defaults of null out: all bounds that are to be annotated
are finite, and no integer that is written is too long. -/
theorem cardinalityShown_iff {typing : Typing}
    (explicit : typing.options.nullableStrategy = .explicit) (resource : Resource)
    (action : Action) (rpcAction : RpcAction) :
    CardinalityShown typing (.of resource action rpcAction) ↔
      typing.CanWrite (inputFieldsOf resource action) := by
  have absent := inputCardinalityOf_eq_none_iff (inputFieldsOf resource action)
  constructor
  · intro shown
    by_cases empty : inputFieldsOf resource action = []
    · rw [empty]
      exact .nil
    · -- a field makes the cardinality, so some input has to be there
      have undeclared := mt shown.none.mpr (mt absent.mp empty)
      push Not at undeclared
      exact (exists_inputClass?_of_iff.mp undeclared).2
  · intro written
    constructor
    case required =>
      have given := inputCardinalityOf_eq_required_iff (inputFieldsOf resource action)
      refine given.trans (exists_declared_and_iff written ?_ ?_).symm
      · exact fun declared made => needsArgument_iff explicit made
      · rintro ⟨field, taken, -⟩
        exact List.ne_nil_of_mem taken
    case optional =>
      have free := inputCardinalityOf_eq_optional_iff (inputFieldsOf resource action)
      refine free.trans (exists_declared_and_iff written ?_ ?_).symm
      · exact fun declared made => makesDoWithout_iff explicit made
      · exact And.left
    case none =>
      rw [← not_exists, exists_inputClass?_of_iff, and_iff_left written, not_not]
      exact absent

/-- A search for places: how far away they may be has to be said, everything else has a default or
may be left open. -/
def placeSearch : Action where
  name := "search"
  kind := .read
  arguments := [
    { name := "radius", type := .primitive .float { min := some (.int 0) }, nullable := false },
    { name := "near", type := .primitive .string {}, default := .text "$here" },
    { name := "kinds", type := .array (.primitive .string {}) {}, nullable := false,
      default := .list [.text "park"] },
    { name := "open_at", type := .primitive .time {} }]

/-- Places that clients may search for. -/
def placeSchema : Schema where
  resources := [{ id := "Place", actions := [placeSearch] }]
  domains := [{
    name := "Main"
    rpc := [{ resource := "Place", actions := [{ name := "list_places", action := "search" }] }] }]

/-- The input of a search for places is declared as its cardinality says: it must be given, and
there is a property with nothing behind it. -/
theorem placeSearch_cardinalityShown :
    ∃ exposed, exposed ∈ placeSchema.exposedActions ∧ exposed.action = placeSearch ∧
      (Typing.ofSchema placeSchema annotated).options.nullableStrategy = .explicit ∧
      exposed.shape.inputCardinality = .required ∧
      CardinalityShown (.ofSchema placeSchema annotated) exposed.shape := by
  have listed : ⟨{ id := "Place", actions := [placeSearch] }, placeSearch,
      { name := "list_places", action := "search" }⟩ ∈ placeSchema.exposedActions :=
    List.mem_singleton.mpr rfl
  have written : (Typing.ofSchema placeSchema annotated).CanWrite
      (inputFieldsOf { id := "Place", actions := [placeSearch] } placeSearch) :=
    ⟨by decide, fun _ => by decide, fun _ => by decide⟩
  exact ⟨_, listed, rfl, rfl, rfl, (cardinalityShown_iff rfl _ _ _).mpr written⟩

/-- A document with a search for places that may be infinitely far away. -/
def farPlaceDocument : Document where
  value := .record [
    ("resources", .list [.record [
      ("id", .text "Place"),
      ("actions", .list [.record [
        ("name", .text "search"), ("type", .text "read"),
        ("arguments", .list [.record [
          ("name", .text "radius"),
          ("type", .record [
            ("kind", .text "primitive"), ("primitive", .text "float"),
            ("constraints", .record [("max", .text "inf")])]),
          ("nullable", .bool false)]])]])]]),
    ("domains", .list [.record [
      ("name", .text "Main"),
      ("rpc", .list [.record [
        ("resource", .text "Place"),
        ("rpc_actions", .list [
          .record [("name", .text "list_places"), ("action", .text "search")]])]])]])]

/-- The search for places that may be infinitely far away. -/
def farSearch : Action where
  name := "search"
  kind := .read
  arguments := [{
    name := "radius"
    type := .primitive .float { max := some (.float (.infinite false)) }
    nullable := false }]

/-- The search as clients call it. -/
def farPlaceSearch : ExposedAction where
  resource := { id := "Place", actions := [farSearch] }
  action := farSearch
  rpcAction := { name := "list_places", action := "search" }

/-- The schema that the document describes. -/
def farPlaceSchema : Schema where
  resources := [farPlaceSearch.resource]
  domains := [{
    name := "Main"
    rpc := [{ resource := "Place", actions := [farPlaceSearch.rpcAction] }] }]

/-- Nothing is found about an infinite bound, and the input that must be given cannot be declared
with annotations. -/
theorem unbounded_input_asked_for :
    Schema.ofDocument farPlaceDocument = .ok farPlaceSchema ∧
      ∃ plan, Plan.make farPlaceSchema annotated = .ok plan ∧ plan.verification.faults = [] ∧
        farPlaceSearch ∈ plan.exposed ∧
        farPlaceSearch.shape.inputCardinality = .required ∧
        ((Typing.ofSchema farPlaceSchema annotated).inputClass? farPlaceSearch.shape).result =
          .error .infiniteBound ∧
        ¬ CardinalityShown (.ofSchema farPlaceSchema annotated) farPlaceSearch.shape := by
  have accepted : Schema.ofDocument farPlaceDocument = .ok farPlaceSchema := by cbv
  have evaluated : (Plan.make farPlaceSchema annotated).toOption.map
      (·.verification.faults) = some [] := by
    cbv
  obtain ⟨plan, made, clean⟩ := Plan.exists_of_evaluated evaluated
  have listed : farPlaceSearch ∈ plan.exposed := by
    rw [Plan.exposed_eq made]
    exact List.mem_singleton.mpr rfl
  have failed : ((Typing.ofSchema farPlaceSchema annotated).inputClass?
      farPlaceSearch.shape).result = .error .infiniteBound := rfl
  refine ⟨accepted, plan, made, clean, listed, rfl, failed, ?_⟩
  intro shown
  obtain ⟨declared, rendered, -⟩ := shown.required.mp rfl
  rw [failed] at rendered
  cases rendered

end TypedRpc
