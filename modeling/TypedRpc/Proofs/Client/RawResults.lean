import TypedRpc.Proofs.Client.ClosedWorld
import TypedRpc.Proofs.Text.Occurrence

/-!
# Results that stay raw

A client cannot decode a type that is built on the open type, so what an action with such a result
answers with stays raw JSON.  Whether a type is built on the open type is read off its text, and
there the word for the open type may also be a part of a longer name that a resource, a union or the
options have chosen.

What parts a name is made of is left open, as long as the marks that types are written with are not
among them.

* `TypeExpr.BuiltOnOpen`: the word for the open type stands in a type by itself;
  `builtOnOpen_inLists_iff`: lists around a type neither add nor hide it.
* `Typing.chosenName?`: the name that a resource, a union or the options have chosen for a type.
* `Typing.mistakenForOpen_typeOf_iff`: only such a name is mistaken for the open type.
* `rawWhenOpen_iff`: the result of a generic action is raw exactly when its type is built on the
  open type, unless such a name is mistaken for it; `event_taken_for_open` shows one that is.
-/

namespace TypedRpc

open Target (TypeExpr)

/-- Inside arrays there is no array. -/
theorem TypeRef.core_ne_array (type : TypeRef) {item : TypeRef} {constraints : Constraints} :
    type.core ≠ .array item constraints := by
  induction type using TypeRef.core.induct with
  | case1 inner _ ih =>
    rw [TypeRef.core]
    exact ih
  | case2 type notArray => cases type <;> simp_all [TypeRef.core]

/-! ## Types that are built on the open type -/

/-- Whether the marks that types are written with are no parts of names. -/
structure LeavesMarks (isPart : Char → Bool) : Prop where
  opening : isPart '<' = false
  closing : isPart '>' = false
  question : isPart '?' = false

namespace Target.TypeExpr

/-- Whether a type is built on the open type: the word for it stands in the type by itself. -/
def BuiltOnOpen (isPart : Char → Bool) (type : TypeExpr) : Prop :=
  Text.StandsIn isPart "Any".toList type.text.toList

/-- Whether the word for the open type occurs in a type, but only as a part of longer names. -/
def MistakenForOpen (isPart : Char → Bool) (type : TypeExpr) : Prop :=
  "Any".toList <:+: type.text.toList ∧ ¬type.BuiltOnOpen isPart

section Marks

variable {isPart : Char → Bool}

/-- A list is built on the open type when its items are. -/
theorem builtOnOpen_list_iff (marks : LeavesMarks isPart) {item : TypeExpr} :
    (list item).BuiltOnOpen isPart ↔ item.BuiltOnOpen isPart := by
  have written : (list item).text.toList =
      "List".toList ++ '<' :: (item.text.toList ++ '>' :: []) := by
    simp [text]
  have opening : ¬Text.StandsIn isPart "Any".toList "List".toList :=
    Text.not_standsIn_of_not_occursIn (by decide)
  have closing : ¬Text.StandsIn isPart "Any".toList [] :=
    Text.not_standsIn_of_not_occursIn (by decide)
  rw [BuiltOnOpen, written,
    Text.standsIn_cons_iff marks.opening (by decide) (by decide),
    Text.standsIn_cons_iff marks.closing (by decide) (by decide),
    or_iff_right opening, or_iff_left closing]
  rfl

/-- A type that admits null is built on the open type when the type without null is. -/
theorem builtOnOpen_nullable_iff (marks : LeavesMarks isPart) {type : TypeExpr} :
    (nullable type).BuiltOnOpen isPart ↔ type.BuiltOnOpen isPart := by
  have written : (nullable type).text.toList = type.text.toList ++ '?' :: [] := by
    simp [text]
  have behind : ¬Text.StandsIn isPart "Any".toList [] :=
    Text.not_standsIn_of_not_occursIn (by decide)
  rw [BuiltOnOpen, written, Text.standsIn_cons_iff marks.question (by decide) (by decide),
    or_iff_left behind]
  rfl

/-- **Lists around a type neither add the open type nor hide it.** -/
theorem builtOnOpen_inLists_iff (marks : LeavesMarks isPart) (type : TypeRef) {shown : TypeExpr} :
    (type.inLists shown).BuiltOnOpen isPart ↔ shown.BuiltOnOpen isPart := by
  induction type using TypeRef.core.induct with
  | case1 item constraints ih => rw [TypeRef.inLists, builtOnOpen_list_iff marks, ih]
  | case2 type notArray => cases type <;> simp_all [TypeRef.inLists]

/-- Where nothing is part of a name, every occurrence of the word stands by itself. -/
theorem builtOnOpen_of_nothing_iff {type : TypeExpr} :
    type.BuiltOnOpen (fun _ => false) ↔ "Any".toList <:+: type.text.toList :=
  Text.standsIn_of_nothing_iff

theorem leavesMarks_of_nothing : LeavesMarks fun _ => false :=
  ⟨rfl, rfl, rfl⟩

theorem mistakenForOpen_inLists_iff (marks : LeavesMarks isPart) (type : TypeRef)
    {shown : TypeExpr} :
    (type.inLists shown).MistakenForOpen isPart ↔ shown.MistakenForOpen isPart := by
  unfold MistakenForOpen
  rw [← builtOnOpen_of_nothing_iff, ← builtOnOpen_of_nothing_iff,
    builtOnOpen_inLists_iff leavesMarks_of_nothing, builtOnOpen_inLists_iff marks]

/-- A type in which the word for the open type does not occur is not mistaken for it. -/
theorem not_mistakenForOpen_of_not_occursIn {type : TypeExpr}
    (absent : Text.occursIn "Any".toList type.text.toList = false) :
    ¬type.MistakenForOpen isPart := by
  rintro ⟨occurs, -⟩
  rw [Text.occursIn_iff.mpr occurs] at absent
  cases absent

end Marks

end Target.TypeExpr

/-- The marks are read as such where the word for the open type occurs in the type of a result. -/
theorem Typing.isUndecodable_nullable_iff {type : TypeExpr} :
    Typing.isUndecodable (.nullable type) ↔ "Any".toList <:+: type.text.toList := by
  rw [Typing.isUndecodable, Text.occursIn_iff, ← TypeExpr.builtOnOpen_of_nothing_iff,
    TypeExpr.builtOnOpen_nullable_iff TypeExpr.leavesMarks_of_nothing,
    TypeExpr.builtOnOpen_of_nothing_iff]

/-! ## Names that are chosen -/

namespace Typing

variable {typing : Typing} {isPart : Char → Bool}

/-- The name that a resource, a union or the options have chosen for a type, given the name of the
value that holds it.  All other types are written in one way only. -/
def chosenName? (typing : Typing) (owner : Option String) : TypeRef → Option String
  | .primitive kind _ =>
    match kind with
    | .map | .keyword | .json => some typing.options.untypedMapType
    | _ => none
  | .resource id => some (typing.resourceName id)
  | .struct container fields instanceOf _ =>
    match given? instanceOf with
    | some id => some (typing.resourceName id)
    | none =>
      if container = .tuple && fields.isEmpty then none else some typing.options.untypedMapType
  | .union _ name => unionName? owner name
  | .array _ _ | .enum _ _ | .unknown _ => none

/-- A chosen name is what is written for a type. -/
theorem typeOf_of_chosenName? (plain : typing.options.typeOverrides = []) {owner : Option String}
    {type : TypeRef} {name : String} (chosen : typing.chosenName? owner type = some name) :
    typing.typeOf owner type = .named name := by
  have none : typing.options.overrideOf? type = none := by
    simp [Options.overrideOf?, plain]
  cases type with
  | primitive kind constraints =>
    rw [typeOf, none]
    cases kind
    case map | keyword | json => exact congrArg TypeExpr.named (Option.some_inj.mp chosen)
    all_goals cases chosen
  | resource id => rw [typeOf_resource plain, Option.some_inj.mp chosen]
  | struct container fields instanceOf renames =>
    rw [typeOf, none]
    rw [chosenName?] at chosen
    dsimp only [structType]
    cases instance? : given? instanceOf with
    | some id =>
      rw [instance?] at chosen
      exact congrArg TypeExpr.named (Option.some_inj.mp chosen)
    | none =>
      rw [instance?] at chosen
      dsimp only at chosen ⊢
      split_ifs at chosen ⊢
      exact congrArg TypeExpr.named (Option.some_inj.mp chosen)
  | union members own =>
    have named : unionName? owner own = some name := chosen
    rw [typeOf, none, named]
    rfl
  | array | enum | unknown => cases chosen

/-- The open type is not mistaken for itself, and neither is a list of anything. -/
theorem not_mistakenForOpen_anyType : ¬Target.anyType.MistakenForOpen isPart := by
  rintro ⟨-, apart⟩
  exact apart (Text.standsIn_self isPart _)

theorem not_mistakenForOpen_anyList (marks : LeavesMarks isPart) :
    ¬anyList.MistakenForOpen isPart := by
  rintro ⟨-, apart⟩
  refine apart ?_
  rw [anyList, TypeExpr.builtOnOpen_list_iff marks, TypeExpr.builtOnOpen_nullable_iff marks]
  exact Text.standsIn_self isPart _

/-- The word for the open type does not occur in the types that stand for dates and times. -/
theorem not_occursIn_of_datetime {library : DatetimeLibrary} {kind : PrimitiveKind} {name : String}
    (found : library.typeOf? kind = some name) :
    Text.occursIn "Any".toList name.toList = false := by
  cases library <;> cases kind <;> cases found <;> decide

/-- What is written for a primitive type without a chosen name is not mistaken for the open type. -/
theorem not_mistakenForOpen_primitiveType (marks : LeavesMarks isPart) {owner : Option String}
    {kind : PrimitiveKind} {constraints : Constraints}
    (unchosen : typing.chosenName? owner (.primitive kind constraints) = none) :
    ¬(typing.options.primitiveType kind).MistakenForOpen isPart := by
  have fixed {name : String} (absent : Text.occursIn "Any".toList name.toList = false) :
      ¬(TypeExpr.named name).MistakenForOpen isPart :=
    TypeExpr.not_mistakenForOpen_of_not_occursIn absent
  cases kind
  case map | keyword | json => cases unchosen
  case string | ciString | atom | decimal | uuid =>
    exact fixed (by decide : Text.occursIn "Any".toList "String".toList = false)
  case integer => exact fixed (by decide : Text.occursIn "Any".toList "Int".toList = false)
  case float => exact fixed (by decide : Text.occursIn "Any".toList "Double".toList = false)
  case boolean => exact fixed (by decide : Text.occursIn "Any".toList "Boolean".toList = false)
  case binary => exact fixed (by decide : Text.occursIn "Any".toList "ByteArray".toList = false)
  case tuple => exact not_mistakenForOpen_anyList marks
  all_goals
    unfold Options.primitiveType
    dsimp only
    split
    case h_1 name found => exact fixed (not_occursIn_of_datetime found)
    case h_2 => exact not_mistakenForOpen_anyType

/-- **What is written for a type without a chosen name is not mistaken for the open type.** -/
theorem not_mistakenForOpen_of_unchosen (plain : typing.options.typeOverrides = [])
    (marks : LeavesMarks isPart) {owner : Option String} {type : TypeRef}
    (unchosen : typing.chosenName? owner type.core = none) :
    ¬(typing.typeOf owner type.core).MistakenForOpen isPart := by
  have none (other : TypeRef) : typing.options.overrideOf? other = none := by
    simp [Options.overrideOf?, plain]
  cases core : type.core with
  | primitive kind constraints =>
    rw [core] at unchosen
    rw [typeOf, none]
    exact not_mistakenForOpen_primitiveType marks unchosen
  | array item constraints => exact absurd core (TypeRef.core_ne_array type)
  | enum values name =>
    rw [typeOf, none]
    exact TypeExpr.not_mistakenForOpen_of_not_occursIn
      (by decide : Text.occursIn "Any".toList "String".toList = false)
  | union members name =>
    rw [core] at unchosen
    have unnamed : unionName? owner name = Option.none := unchosen
    rw [typeOf, none, unnamed]
    exact not_mistakenForOpen_anyType
  | struct container fields instanceOf renames =>
    rw [core, chosenName?] at unchosen
    rw [typeOf, none]
    dsimp only [structType]
    cases instance? : given? instanceOf with
    | some id =>
      rw [instance?] at unchosen
      cases unchosen
    | none =>
      rw [instance?] at unchosen
      dsimp only at unchosen ⊢
      split_ifs at unchosen ⊢
      exact not_mistakenForOpen_anyList marks
  | resource id =>
    rw [core] at unchosen
    cases unchosen
  | unknown name =>
    rw [typeOf, none]
    exact not_mistakenForOpen_anyType

/-- **Only a chosen name is mistaken for the open type**, under any number of lists. -/
theorem mistakenForOpen_typeOf_iff (plain : typing.options.typeOverrides = [])
    (marks : LeavesMarks isPart) (owner : Option String) (type : TypeRef) :
    (typing.typeOf owner type).MistakenForOpen isPart ↔
      ∃ name ∈ typing.chosenName? owner type.core,
        (TypeExpr.named name).MistakenForOpen isPart := by
  rw [typeOf_eq plain, TypeExpr.mistakenForOpen_inLists_iff marks]
  cases chosen : typing.chosenName? owner type.core with
  | none => simpa using not_mistakenForOpen_of_unchosen plain marks chosen
  | some name => simp [typeOf_of_chosenName? plain chosen]

end Typing

/-! ## Results of generic actions -/

/-- Whether the data of an action is shown as the type that it is mapped to asks: raw exactly when
that is built on the open type, and otherwise as that type, which may be absent. -/
structure RawWhenOpen (isPart : Char → Bool) (shown mapped : TypeExpr) : Prop where
  raw : shown.text = "JsonElement?" ↔ mapped.BuiltOnOpen isPart
  typed : ¬mapped.BuiltOnOpen isPart → shown.text = mapped.text ++ "?"

namespace Typing

variable {typing : Typing} {isPart : Char → Bool}

/-- A result in which the word for the open type occurs is raw, and any other is typed. -/
theorem text_successData_of_generic {schema : Schema} {exposed : ExposedAction}
    (listed : exposed ∈ schema.exposedActions) (generic : exposed.action.kind = .generic)
    {type : TypeRef} (returned : exposed.action.returns = some type) {mapped : TypeExpr}
    (mapped_eq : typing.typeOf (some exposed.rpcAction.name) type = mapped) :
    ("Any".toList <:+: mapped.text.toList →
      (typing.successData schema exposed.shape).text = "JsonElement?") ∧
    (¬"Any".toList <:+: mapped.text.toList →
      (typing.successData schema exposed.shape).text = mapped.text ++ "?") := by
  have value_eq : typing.valueType exposed.rpcAction.name type true = .nullable mapped :=
    congrArg TypeExpr.nullable mapped_eq
  rw [successData_of_generic listed generic returned, value_eq, ← isUndecodable_nullable_iff]
  constructor
  · intro occurs
    rw [if_pos occurs]
    rfl
  · intro absent
    rw [if_neg absent]
    rfl

/-- **A generic action answers with raw JSON exactly when the type that its result is mapped to is
built on the open type, and with that type otherwise**, unless a chosen name is mistaken for the
open type, or is the name of raw JSON.  What is built on the open type is raw in any case. -/
theorem rawWhenOpen_iff {schema : Schema} (plain : typing.options.typeOverrides = [])
    (marks : LeavesMarks isPart) {exposed : ExposedAction}
    (listed : exposed ∈ schema.exposedActions) (generic : exposed.action.kind = .generic)
    {type : TypeRef} (returned : exposed.action.returns = some type) {mapped : TypeExpr}
    (mapped_eq : typing.typeOf (some exposed.rpcAction.name) type = mapped) :
    (mapped.BuiltOnOpen isPart →
      (typing.successData schema exposed.shape).text = "JsonElement?") ∧
    (RawWhenOpen isPart (typing.successData schema exposed.shape) mapped ↔
      (∀ name ∈ typing.chosenName? (some exposed.rpcAction.name) type.core,
        ¬(TypeExpr.named name).MistakenForOpen isPart) ∧ mapped.text ≠ "JsonElement") := by
  obtain ⟨raw, typed⟩ := text_successData_of_generic listed generic returned mapped_eq
  have occurs_of_open : mapped.BuiltOnOpen isPart → "Any".toList <:+: mapped.text.toList :=
    Text.StandsIn.occurs
  have mistaken := mistakenForOpen_typeOf_iff plain marks (some exposed.rpcAction.name) type
  rw [mapped_eq] at mistaken
  have apart_iff : (∀ name ∈ typing.chosenName? (some exposed.rpcAction.name) type.core,
      ¬(TypeExpr.named name).MistakenForOpen isPart) ↔ ¬mapped.MistakenForOpen isPart := by
    rw [mistaken]
    push Not
    rfl
  rw [apart_iff]
  refine ⟨fun isOpen => raw (occurs_of_open isOpen), ?_⟩
  constructor
  · intro asAsked
    refine ⟨fun ⟨occurs, closed⟩ => closed (asAsked.raw.mp (raw occurs)), fun named => ?_⟩
    -- a type that has the name of raw JSON is not built on the open type, and shown as if it were
    have absent : ¬"Any".toList <:+: mapped.text.toList := by
      rw [named, ← Text.occursIn_iff]
      decide
    refine absent (occurs_of_open (asAsked.raw.mp ?_))
    rw [typed absent, named]
    rfl
  · rintro ⟨apart, unnamed⟩
    have open_of_occurs (occurs : "Any".toList <:+: mapped.text.toList) :
        mapped.BuiltOnOpen isPart := by
      by_contra closed
      exact apart ⟨occurs, closed⟩
    refine ⟨⟨fun shown => ?_, fun isOpen => raw (occurs_of_open isOpen)⟩, ?_⟩
    · by_contra closed
      have absent := mt open_of_occurs closed
      rw [typed absent] at shown
      exact unnamed ((String.append_left_inj "?").mp shown)
    · exact fun closed => typed (mt open_of_occurs closed)

end Typing

/-- Letters, digits and underscores. -/
def isNamePart (c : Char) : Bool :=
  c.isAlphanum || c == '_'

theorem leavesMarks_isNamePart : LeavesMarks isNamePart :=
  ⟨by decide, by decide, by decide⟩

/-- An action of a calendar that returns something. -/
def lookUp (name : String) (type : TypeRef) : Action where
  name := name
  kind := .generic
  returns := some type

/-- A calendar whose days are maps, and are kept by a company. -/
def dayCalendar : Resource where
  id := "Calendar"
  actions := [lookUp "days" (.array (.primitive .map {}) {}), lookUp "keeper" (.resource "Company")]

/-- Calendars that clients may look at. -/
def dayCalendarSchema : Schema where
  resources := [dayCalendar, { id := "Company" }]
  domains := [{
    name := "Main"
    rpc := [{
      resource := "Calendar"
      actions := [
        { name := "list_days", action := "days" },
        { name := "get_keeper", action := "keeper" }] }] }]

/-- Days are raw, because nothing is known about what is in a map, and companies are not. -/
theorem days_raw_when_open :
    ∃ days ∈ dayCalendarSchema.exposedActions, ∃ keeper ∈ dayCalendarSchema.exposedActions,
      ((Typing.ofSchema dayCalendarSchema {}).successData dayCalendarSchema days.shape).text =
        "JsonElement?" ∧
      RawWhenOpen isNamePart
        ((Typing.ofSchema dayCalendarSchema {}).successData dayCalendarSchema days.shape)
        (.list (.named "Map<String, Any?>")) ∧
      ((Typing.ofSchema dayCalendarSchema {}).successData dayCalendarSchema keeper.shape).text =
        "Company?" ∧
      RawWhenOpen isNamePart
        ((Typing.ofSchema dayCalendarSchema {}).successData dayCalendarSchema keeper.shape)
        (.named "Company") := by
  have days : ⟨dayCalendar, lookUp "days" (.array (.primitive .map {}) {}),
      { name := "list_days", action := "days" }⟩ ∈ dayCalendarSchema.exposedActions :=
    List.mem_cons_self
  have keeper : ⟨dayCalendar, lookUp "keeper" (.resource "Company"),
      { name := "get_keeper", action := "keeper" }⟩ ∈ dayCalendarSchema.exposedActions :=
    List.mem_cons_of_mem _ List.mem_cons_self
  have openMap : (TypeExpr.named "Map<String, Any?>").BuiltOnOpen isNamePart :=
    ⟨"Map<String, ".toList, "?>".toList, by decide, by simp [isNamePart], by simp [isNamePart]⟩
  have company : ¬(TypeExpr.named "Company").MistakenForOpen isNamePart :=
    TypeExpr.not_mistakenForOpen_of_not_occursIn (by decide)
  refine ⟨_, days, _, keeper, ?_, ?_, ?_, ?_⟩
  · exact (Typing.rawWhenOpen_iff rfl leavesMarks_isNamePart days rfl rfl rfl).1
      ((TypeExpr.builtOnOpen_list_iff leavesMarks_isNamePart).mpr openMap)
  · refine (Typing.rawWhenOpen_iff rfl leavesMarks_isNamePart days rfl rfl rfl).2.mpr ⟨?_, ?_⟩
    · rintro _ ⟨⟩ ⟨-, closed⟩
      exact closed openMap
    · decide
  · rfl
  · refine (Typing.rawWhenOpen_iff rfl leavesMarks_isNamePart keeper rfl rfl rfl).2.mpr ⟨?_, ?_⟩
    · rintro _ ⟨⟩
      exact company
    · decide

/-- A calendar whose events may be of any kind. -/
def eventCalendar : Resource where
  id := "Calendar"
  actions := [lookUp "next" (.resource "AnyEvent")]

/-- Calendars whose next event clients may look up. -/
def eventCalendarSchema : Schema where
  resources := [
    eventCalendar,
    { id := "AnyEvent"
      attributes := [{ name := "id", type := .primitive .uuid {}, isPrimaryKey := true }] }]
  domains := [{
    name := "Main"
    rpc := [{ resource := "Calendar", actions := [{ name := "next_event", action := "next" }] }] }]

/-- The call for the next event. -/
def nextEvent : ExposedAction where
  resource := eventCalendar
  action := lookUp "next" (.resource "AnyEvent")
  rpcAction := { name := "next_event", action := "next" }

/-- **The name of a record is mistaken for the open type**: an event stays raw, though its type is
declared, and nothing is found about it. -/
theorem event_taken_for_open :
    (∃ plan, Plan.make eventCalendarSchema {} = .ok plan ∧ plan.verification.faults = [] ∧
      nextEvent ∈ plan.exposed) ∧
      (Typing.ofSchema eventCalendarSchema {}).typeOf (some "next_event") (.resource "AnyEvent") =
        .named "AnyEvent" ∧
      ¬(TypeExpr.named "AnyEvent").BuiltOnOpen isNamePart ∧
      ((Typing.ofSchema eventCalendarSchema {}).successData eventCalendarSchema
        nextEvent.shape).text = "JsonElement?" ∧
      ¬∀ (schema : Schema) (options : Options) (exposed : ExposedAction) (type : TypeRef),
        options.typeOverrides = [] → exposed ∈ schema.exposedActions →
          exposed.action.kind = .generic → exposed.action.returns = some type →
            RawWhenOpen isNamePart
              ((Typing.ofSchema schema options).successData schema exposed.shape)
              ((Typing.ofSchema schema options).typeOf (some exposed.rpcAction.name) type) := by
  have evaluated : (Plan.make eventCalendarSchema {}).toOption.map
      (·.verification.faults) = some [] := by
    cbv
  obtain ⟨plan, made, clean⟩ := Plan.exists_of_evaluated evaluated
  have listed : nextEvent ∈ eventCalendarSchema.exposedActions := List.mem_singleton.mpr rfl
  have planned : nextEvent ∈ plan.exposed := by
    rw [Plan.exposed_eq made]
    exact listed
  have occurs : "Any".toList <:+: (TypeExpr.named "AnyEvent").text.toList :=
    ⟨[], "Event".toList, by decide⟩
  have closed : ¬(TypeExpr.named "AnyEvent").BuiltOnOpen isNamePart := by
    rintro ⟨before, after, split, -, followed⟩
    cases before with
    | nil =>
      -- the word at the beginning goes on with an `E`
      have rest : "Any".toList ++ after = "Any".toList ++ "Event".toList := split
      obtain rfl := List.append_cancel_left rest
      exact followed 'E' rfl (by decide)
    | cons c before =>
      have behind : "Any".toList <:+: "nyEvent".toList :=
        ⟨before, after, by rw [List.append_assoc]; exact (List.cons.inj split).2⟩
      rw [← Text.occursIn_iff] at behind
      exact absurd behind (by decide)
  have raw : ((Typing.ofSchema eventCalendarSchema {}).successData eventCalendarSchema
      nextEvent.shape).text = "JsonElement?" :=
    (Typing.text_successData_of_generic listed rfl rfl rfl).1 occurs
  refine ⟨⟨plan, made, clean, planned⟩, rfl, closed, raw, ?_⟩
  intro claimed
  exact closed ((claimed eventCalendarSchema {} nextEvent _ rfl listed rfl rfl).raw.mp raw)

end TypedRpc
