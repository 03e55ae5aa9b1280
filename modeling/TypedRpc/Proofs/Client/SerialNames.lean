import TypedRpc.Proofs.Client.WireNames
import TypedRpc.Proofs.Target.Literal

/-!
# Renames never reach the wire

What a property is called on the wire is nowhere written as such.  It has to be read off the lines
of the property: a mark above it gives the name, and where there is no mark the name is the one in
the code, without the backticks of a keyword.  A mark is left out exactly when the two names agree,
so it must come out the same whether the name in the code is the camelCase form, a rename, or a
rename that happens to be some name on the wire.

* `serialName?`, `serialName?_mark`: the name that a line gives.
* `Property.serialName`, `SourceField.serialName_property`: the name of a property, and that it is
  made from the name in the schema alone.
* `Typing.ServesSources`, `WireView`, `renames_unseen`: the statement about all classes of an
  action, and about any two choices of renames.
-/

namespace TypedRpc

/-! ## Marks -/

namespace Target

/-- How the mark of a name on the wire begins. -/
def markOpening : List Char := "@SerialName(".toList

/-- The name that a line gives, if the line is the mark of a name: the text of a literal between
brackets, with nothing behind it. -/
def serialName? (line : String) : Option String :=
  if markOpening.isPrefixOf line.toList then
    match readLiteral (line.toList.drop markOpening.length) with
    | some (name, [')']) => some (String.ofList name)
    | _ => none
  else none

/-- **A mark gives the name that it was written for.** -/
theorem serialName?_mark (name : String) : serialName? (serialNameMark name) = some name := by
  have written : (serialNameMark name).toList =
      markOpening ++ (stringLiteralChars name.toList ++ [')']) := by
    simp only [serialNameMark, stringLiteral, String.toList_append, String.toList_ofList,
      List.append_assoc]
    rfl
  have opened : markOpening.isPrefixOf (serialNameMark name).toList = true := by
    rw [written]
    exact List.isPrefixOf_iff_prefix.mpr (List.prefix_append _ _)
  rw [serialName?, if_pos opened, written, List.drop_left, readLiteral_append]
  exact congrArg some String.ofList_toList

/-- A line that begins otherwise gives no name. -/
theorem serialName?_eq_none {line : String} {beginning : List Char}
    (begins : beginning <+: line.toList) (short : beginning.length ≤ markOpening.length)
    (apart : ¬beginning <+: markOpening) : serialName? line = none := by
  refine if_neg fun opened => apart ?_
  exact List.prefix_of_prefix_length_le begins (List.isPrefixOf_iff_prefix.mp opened) short

namespace Property

/-- The name of a property on the wire, as it is read off its lines. -/
def serialName (property : Property) : String :=
  (property.lines.findSome? serialName?).getD property.kotlinName

theorem serialName?_declaration (property : Property) :
    serialName? property.declaration = none := by
  have begins : "val ".toList <+: property.declaration.toList := by
    simp only [declaration, String.toList_append, List.append_assoc]
    exact List.prefix_append _ _
  exact serialName?_eq_none begins (by decide) (by decide)

/-- **What is read off a property is its name on the wire**, provided that no annotation looks like
a mark. -/
theorem serialName_eq_wireName {property : Property}
    (unmarked : ∀ annotation ∈ property.annotations, serialName? annotation = none) :
    property.serialName = property.wireName := by
  have above : property.annotations.findSome? serialName? = none :=
    List.findSome?_eq_none_iff.mpr unmarked
  rw [serialName, lines, List.findSome?_append, List.findSome?_append, above, Option.none_or]
  by_cases same : property.kotlinName = property.wireName
  · -- no mark is written, and the name in the code stands for both
    have unwritten : property.mark = [] := if_pos same
    rw [unwritten, List.findSome?_singleton, serialName?_declaration]
    exact same
  · have written : property.mark = [serialNameMark property.wireName] := if_neg same
    rw [written, List.findSome?_singleton, serialName?_mark]
    rfl

end Property

/-- The names of the properties of a class on the wire, as they are read off its lines. -/
def DataClass.serialNames (declared : DataClass) : List String :=
  declared.properties.map Property.serialName

end Target

/-- No annotation of an input looks like a mark. -/
theorem InputCheck.serialName?_text (check : InputCheck) :
    Target.serialName? check.text = none := by
  have begins : "@field:".toList <+: check.text.toList := by
    unfold InputCheck.text
    split
    case h_1 => decide
    case h_2 => decide
    all_goals
      simp only [String.toList_append, List.append_assoc]
      exact List.prefix_append_of_prefix (by decide)
  exact Target.serialName?_eq_none begins (by decide) (by decide)

/-- **The name of a property on the wire is made from the name of its field in the schema**,
whatever the field is renamed to. -/
theorem SourceField.serialName_property {field : SourceField} (options : Options)
    (format : Naming.WireFormat)
    (unmarked : ∀ annotation ∈ field.annotations, Target.serialName? annotation = none) :
    (field.property options format).serialName = format.apply field.name :=
  Target.Property.serialName_eq_wireName unmarked

/-! ## The classes of an action -/

namespace Typing

variable (typing : Typing)

/-- A record has the names that its attributes and relationships have in the schema. -/
theorem serialNames_record (resource : Resource) :
    (typing.record resource).serialNames =
      (recordSources resource).map typing.options.outputFormat.apply := by
  have attributes : ∀ stored : Attribute, (typing.attributeProperty resource stored).serialName =
      typing.options.outputFormat.apply stored.name :=
    fun _ => SourceField.serialName_property _ _ nofun
  have relationships : ∀ relationship : Relationship,
      (typing.relationshipProperty resource relationship).serialName =
        typing.options.outputFormat.apply relationship.name :=
    fun _ => SourceField.serialName_property _ _ nofun
  rw [Target.DataClass.serialNames, record, recordSources]
  simp only [List.map_append, List.map_map, Function.comp_def, attributes, relationships]

/-- What is read off a property of an input is the name of its field, whatever annotations the
options ask for. -/
theorem serialName_inputProperty (shape : ActionShape) (field : FieldSpec)
    (annotations : List String) (annotated : typing.inputAnnotations field = .ok annotations) :
    (typing.inputProperty shape annotations field).serialName =
      typing.options.inputFormat.apply field.name := by
  refine SourceField.serialName_property _ _ fun annotation listed => ?_
  rw [inputAnnotations] at annotated
  split_ifs at annotated with asked
  · obtain ⟨_, -, made⟩ := exists_of_mem_results annotated listed
    obtain ⟨check, -, written⟩ := bind_eq_ok_iff.mp made
    obtain ⟨-, rfl⟩ := InputCheck.write_eq_ok_iff.mp written
    exact check.serialName?_text
  · cases annotated
    cases listed

/-- The names that an input has on the wire, or why it cannot be written.  Its renames do not occur
on the right. -/
theorem serialNames_inputClass? (shape : ActionShape) :
    (typing.inputClass? shape).result.map (Option.map Target.DataClass.serialNames) =
      match shape.inputName? with
      | none => .ok none
      | some _ => (shape.inputFields.mapM fun field =>
          (typing.inputAnnotations field.spec >>= fun _ => field.spec.checkDefault).map fun _ =>
            typing.options.inputFormat.apply field.spec.name).map some := by
  have each : ∀ field : InputField,
      (typing.inputAnnotations field.spec >>= fun _ => field.spec.checkDefault).map
          (fun _ => typing.options.inputFormat.apply field.spec.name) =
        (typing.makeInputProperty shape field.spec).result.map Target.Property.serialName := by
    intro field
    rw [result_makeInputProperty]
    cases annotated : typing.inputAnnotations field.spec with
    | error breakdown => rfl
    | ok annotations =>
      rw [← typing.serialName_inputProperty shape _ _ annotated]
      cases field.spec.checkDefault <;> rfl
  rw [inputClass?]
  cases shape.inputName? with
  | none => rfl
  | some name =>
    simp only [each]
    rw [Logged.result_bind, Logged.result_mapM, mapM_map]
    cases shape.inputFields.mapM fun field =>
      (typing.makeInputProperty shape field.spec).result <;> rfl

/-- Metadata have the names that their fields have in the schema. -/
theorem serialNames_metadataClass? (shape : ActionShape) :
    (typing.metadataClass? shape).map Target.DataClass.serialNames =
      shape.metadataName?.map fun _ =>
        shape.metadata.map fun field => typing.options.outputFormat.apply field.name := by
  have each : ∀ field, (typing.metadataProperty shape field).serialName =
      typing.options.outputFormat.apply field.name :=
    fun _ => SourceField.serialName_property _ _ nofun
  rw [metadataClass?, Option.map_map]
  refine congrArg (Option.map · shape.metadataName?) (funext fun name => ?_)
  simp only [Function.comp_apply, Target.DataClass.serialNames, List.map_map, Function.comp_def,
    each]

end Typing

/-- The action with other renames: of the fields of its resource, of the arguments of its
resource's actions, and of its metadata. -/
def ExposedAction.renamed (exposed : ExposedAction) (fieldNames : Renames)
    (argumentNames : List (String × Renames)) (metadataNames : Renames) : ExposedAction where
  resource := { exposed.resource with fieldNames := fieldNames, argumentNames := argumentNames }
  action := exposed.action
  rpcAction := { exposed.rpcAction with metadataFieldNames := metadataNames }

/-- What is seen of the classes of an action on the wire: the names of the properties of its record,
of its input, if it takes one and unless that cannot be written, and of its metadata, if there are
any. -/
structure WireView where
  record : List String
  input : Except Breakdown (Option (List String))
  metadata : Option (List String)

/-- What is seen of the classes of an action, read off the lines of their properties. -/
def Typing.wireView (typing : Typing) (exposed : ExposedAction) : WireView where
  record := (typing.record exposed.resource).serialNames
  input := (typing.inputClass? exposed.shape).result.map (Option.map Target.DataClass.serialNames)
  metadata := (typing.metadataClass? exposed.shape).map Target.DataClass.serialNames

/-- Whether the classes of an action have the names on the wire that their fields have in the
schema, under the convention for inputs or for what the server answers. -/
structure Typing.ServesSources (typing : Typing) (exposed : ExposedAction) : Prop where
  record : (typing.record exposed.resource).serialNames =
    (recordSources exposed.resource).map typing.options.outputFormat.apply
  input : ∀ declared, (typing.inputClass? exposed.shape).result = .ok (some declared) →
    declared.serialNames = (inputSources exposed.shape).map typing.options.inputFormat.apply
  metadata : ∀ declared, typing.metadataClass? exposed.shape = some declared →
    declared.serialNames =
      exposed.shape.metadata.map fun field => typing.options.outputFormat.apply field.name

theorem Typing.servesSources (typing : Typing) (exposed : ExposedAction) :
    typing.ServesSources exposed where
  record := typing.serialNames_record exposed.resource
  input := by
    intro declared made
    rw [Target.DataClass.serialNames, inputSources, List.map_map]
    exact map_of_inputClass? _ (fun field => typing.options.inputFormat.apply field.name)
      (typing.serialName_inputProperty exposed.shape) made
  metadata := by
    intro declared made
    have seen := typing.serialNames_metadataClass? exposed.shape
    rw [made] at seen
    obtain ⟨_, -, names⟩ := Option.map_eq_some_iff.mp seen.symm
    exact names.symm

/-- **Renames never reach the wire.**  Whatever an action is and whatever the document renames, the
properties of its record, of its input and of its metadata have the names on the wire that their
fields have in the schema; so under any other renames the same is seen of them, one name after
another, and an input that cannot be written fails in the same way. -/
theorem renames_unseen (typing : Typing) (exposed : ExposedAction) :
    typing.ServesSources exposed ∧
      ∀ fieldNames argumentNames metadataNames,
        typing.wireView (exposed.renamed fieldNames argumentNames metadataNames) =
          typing.wireView exposed := by
  refine ⟨typing.servesSources exposed, fun fieldNames argumentNames metadataNames => ?_⟩
  unfold Typing.wireView
  simp only [Typing.serialNames_record, Typing.serialNames_inputClass?,
    Typing.serialNames_metadataClass?]
  rfl

end TypedRpc
