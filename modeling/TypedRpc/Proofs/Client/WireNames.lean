import TypedRpc.Proofs.Client.GeneratedNames
import TypedRpc.Proofs.Client.TypedQuery

/-!
# Names on the wire

A property has two names.  The one in the code is what the document calls the field, or else the
camelCase form of its name in the schema; the one on the wire is always made from the name in the
schema.  The checks tell the names in the code apart.  That tells the names on the wire apart as
well, except where a field is renamed: a rename parts two fields in the code that have one camelCase
form, and on the wire they still meet.

* `RenamesKeepApart`: no renamed field has the camelCase form of another field.
* `nodup_wireNames_iff`: names that differ in the code differ on the wire exactly then.
* `Plan.wireNames_distinct_iff`: the statement about the records and inputs of a plan without
  faults; `renamed_fields_meet` shows two fields that meet.
-/

namespace TypedRpc

open Naming (WireFormat)

/-- Whether no field that is renamed has the form of another field in camelCase.  It matters only
where names on the wire are in camelCase. -/
def RenamesKeepApart (format : WireFormat) (rename : String → Option String)
    (names : List String) : Prop :=
  format = .snakeCase ∨ ∀ renamed ∈ names, (given? (rename renamed)).isSome → ∀ other ∈ names,
    Naming.camelCase other = Naming.camelCase renamed → other = renamed

/-- Fields that are not renamed are called by their camelCase forms. -/
theorem kotlinNameOf_of_not_given {name : String} {rename : Option String}
    (none : ¬ (given? rename).isSome) : kotlinNameOf name rename = Naming.camelCase name := by
  rw [kotlinNameOf, Option.not_isSome_iff_eq_none.mp none, Option.getD_none]

/-- **Names that differ in the code differ on the wire exactly when renames keep them apart.** -/
theorem nodup_wireNames_iff {format : WireFormat} {rename : String → Option String}
    {names : List String}
    (apart : (names.map fun name => kotlinNameOf name (rename name)).Nodup) :
    (names.map format.apply).Nodup ↔ RenamesKeepApart format rename names := by
  have distinct : names.Nodup := apart.of_map _
  rw [List.nodup_map_iff_inj_on distinct] at apart ⊢
  cases format with
  | snakeCase => exact iff_of_true (fun _ _ _ _ same => same) (.inl rfl)
  | camelCase =>
    simp only [RenamesKeepApart, reduceCtorEq, false_or, WireFormat.apply]
    constructor
    · exact fun differ renamed here _ other there same => differ other there renamed here same
    · intro kept a here b there same
      by_cases renamed_a : (given? (rename a)).isSome
      · exact (kept a here renamed_a b there same.symm).symm
      by_cases renamed_b : (given? (rename b)).isSome
      · exact kept b there renamed_b a here same
      -- neither is renamed, so the two would meet in the code as well
      · refine apart a here b there ?_
        rw [kotlinNameOf_of_not_given renamed_a, kotlinNameOf_of_not_given renamed_b, same]

/-! ## Records and inputs -/

/-- The names in the schema of the fields that a record shows. -/
def recordSources (resource : Resource) : List String :=
  resource.publicAttributes.map (·.name) ++ resource.publicRelationships.map (·.name)

/-- The names in the schema of the fields of an input. -/
def inputSources (shape : ActionShape) : List String :=
  shape.inputFields.map fun field => field.spec.name

namespace Typing

variable {typing : Typing}

theorem wireNames_record (typing : Typing) (resource : Resource) :
    (typing.record resource).wireNames =
      (recordSources resource).map typing.options.outputFormat.apply := by
  simp only [Target.DataClass.wireNames, record, recordSources, List.map_append, List.map_map]
  rfl

theorem kotlinNames_record_eq (typing : Typing) (resource : Resource) :
    (typing.record resource).kotlinNames =
      (recordSources resource).map fun name => kotlinNameOf name (resource.fieldRename? name) := by
  rw [kotlinNames_record, recordNames, List.map_map]
  rfl

/-- An input has the names of its fields on the wire, whatever is logged about it. -/
theorem wireNames_of_inputClass? {shape : ActionShape} {declared : Target.DataClass}
    (made : (typing.inputClass? shape).result = .ok (some declared)) :
    declared.wireNames = (inputSources shape).map typing.options.inputFormat.apply := by
  rw [Target.DataClass.wireNames, inputSources, List.map_map]
  exact map_of_inputClass? (·.wireName) (fun field => typing.options.inputFormat.apply field.name)
    (fun _ _ _ => rfl) made

theorem kotlinNames_input_eq {shape : ActionShape} {declared : Target.DataClass}
    (made : (typing.inputClass? shape).result = .ok (some declared)) :
    declared.kotlinNames =
      (inputSources shape).map fun name => kotlinNameOf name (shape.inputNames.lookup name) := by
  rw [kotlinNames_of_inputClass? made, inputNames, inputSources, List.map_map, List.map_map]
  rfl

end Typing

/-- **When the properties of a class have names of their own on the wire**, in a plan without
faults.  Those of a record do exactly when no renamed field of the resource has the camelCase form
of another one, or names are in snake case there; and so do those of an input. -/
theorem Plan.wireNames_distinct_iff {schema : Schema} {options : Options} {plan : Plan}
    (typing : Typing) (made : Plan.make schema options = .ok plan)
    (clean : plan.verification.faults = []) :
    (∀ record ∈ plan.discovered.records schema,
      ((typing.record record).wireNames.Nodup ↔
        RenamesKeepApart typing.options.outputFormat record.fieldRename?
          (recordSources record))) ∧
    ∀ exposed ∈ plan.exposed, ∀ declared,
      (typing.inputClass? exposed.shape).result = .ok (some declared) →
        (declared.wireNames.Nodup ↔
          RenamesKeepApart typing.options.inputFormat
            (fun name => exposed.shape.inputNames.lookup name)
            (inputSources exposed.shape)) := by
  constructor
  · intro record reached
    have apart := nodup_record typing made clean reached
    rw [Typing.kotlinNames_record_eq] at apart
    rw [Typing.wireNames_record, nodup_wireNames_iff apart]
  · intro exposed listed declared rendered
    have apart := nodup_input made clean listed rendered
    rw [Typing.kotlinNames_input_eq rendered] at apart
    rw [Typing.wireNames_of_inputClass? rendered, nodup_wireNames_iff apart]

/-- The names on the wire of the properties for to-dos that are renamed. -/
theorem renamed_wireNames_distinct :
    ∃ plan, Plan.make renamedSchema {} = .ok plan ∧ plan.verification.faults = [] ∧
      (∀ record ∈ plan.discovered.records renamedSchema,
        (((Typing.ofSchema renamedSchema {}).record record).wireNames.Nodup ↔
          RenamesKeepApart .camelCase record.fieldRename? (recordSources record))) ∧
      ∀ exposed ∈ plan.exposed, ∀ declared,
        ((Typing.ofSchema renamedSchema {}).inputClass? exposed.shape).result =
            .ok (some declared) →
          (declared.wireNames.Nodup ↔
            RenamesKeepApart .camelCase (fun name => exposed.shape.inputNames.lookup name)
              (inputSources exposed.shape)) := by
  have evaluated :
      (Plan.make renamedSchema {}).toOption.map (·.verification.faults) = some [] := by
    cbv
  obtain ⟨plan, made, clean⟩ := Plan.exists_of_evaluated evaluated
  exact ⟨plan, made, clean, Plan.wireNames_distinct_iff _ made clean⟩

/-- To-dos with two fields of one form in camelCase, one of which has been renamed. -/
def deadlineSchema : Schema where
  resources := [{
    id := "Todo"
    attributes := [
      { name := "due_date", type := .primitive .date {} },
      { name := "dueDate", type := .primitive .date {} }]
    actions := [{ name := "create", kind := .create, accept := ["due_date", "dueDate"] }]
    fieldNames := [("due_date", "deadline")] }]
  domains := [{
    name := "Main"
    rpc := [{
      resource := "Todo"
      actions := [{ name := "create_todo", action := "create" }] }] }]

/-- **Renamed fields may meet on the wire**, although the plan has no faults: the record has one
name there for both of its fields, and so has the input. -/
theorem renamed_fields_meet :
    ¬ ∀ (schema : Schema) (options : Options) (plan : Plan),
      Plan.make schema options = .ok plan → plan.verification.faults = [] →
        (∀ record ∈ plan.discovered.records schema,
          ((Typing.ofSchema schema options).record record).wireNames.Nodup) ∧
        ∀ exposed ∈ plan.exposed, ∀ declared,
          ((Typing.ofSchema schema options).inputClass? exposed.shape).result =
              .ok (some declared) →
            declared.wireNames.Nodup := by
  intro distinct
  have evaluated :
      (Plan.make deadlineSchema {}).toOption.map (·.verification.faults) = some [] := by
    cbv
  have recorded :
      (Plan.make deadlineSchema {}).toOption.map (fun plan =>
        (plan.discovered.records deadlineSchema).map fun record =>
          ((Typing.ofSchema deadlineSchema {}).record record).wireNames) =
        some [["dueDate", "dueDate"]] := by
    cbv
  obtain ⟨plan, made, clean⟩ := Plan.exists_of_evaluated evaluated
  rw [made] at recorded
  have shown : (plan.discovered.records deadlineSchema).map (fun record =>
      ((Typing.ofSchema deadlineSchema {}).record record).wireNames) =
        [["dueDate", "dueDate"]] := Option.some.inj recorded
  have each := (distinct deadlineSchema {} plan made clean).1
  rw [← List.forall_mem_map (P := List.Nodup), shown] at each
  simp at each

end TypedRpc
