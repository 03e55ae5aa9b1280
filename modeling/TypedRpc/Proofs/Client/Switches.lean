import TypedRpc.Client.Generation

/-!
# What switches leave alone

Some options say where the client goes, which warnings are given, where validations are sent and
which of its extras a client has.  No declaration is written from any of them, the functions of
those extras left aside: types, names, payloads and calls read the other options only.

* `Typing.record_switched` and its like: one statement for each kind of declaration.
-/

namespace TypedRpc

/-- The options that no shared declaration is written from. -/
structure Switches where
  outputFile : String
  validateEndpoint : String
  validationFunctions : Bool
  channelClient : Bool
  warnOnMissingRpc : Bool
  warnOnNonRpcReferences : Bool

/-- Options with other switches. -/
def Options.switched (options : Options) (switches : Switches) : Options :=
  { options with
    outputFile := switches.outputFile
    validateEndpoint := switches.validateEndpoint
    validationFunctions := switches.validationFunctions
    channelClient := switches.channelClient
    warnOnMissingRpc := switches.warnOnMissingRpc
    warnOnNonRpcReferences := switches.warnOnNonRpcReferences }

/-- A typing under options with other switches. -/
def Typing.switched (typing : Typing) (switches : Switches) : Typing :=
  ⟨typing.options.switched switches, typing.resolve⟩

variable {options : Options} {typing : Typing} {switches : Switches} {schema : Schema}
  {resource : Resource} {shape : ActionShape}

/-! ## Options -/

section

variable (options) (switches)

@[simp] theorem Options.inputFormat_switched :
    (options.switched switches).inputFormat = options.inputFormat := rfl

@[simp] theorem Options.filterTypes_switched :
    (options.switched switches).filterTypes = options.filterTypes := rfl

@[simp] theorem Options.package_switched :
    (options.switched switches).package = options.package := rfl

@[simp] theorem Options.overrideOf?_switched :
    (options.switched switches).overrideOf? = options.overrideOf? := rfl

@[simp] theorem Options.primitiveType_switched :
    (options.switched switches).primitiveType = options.primitiveType := rfl

@[simp] theorem Options.baseFiltersText_switched :
    (options.switched switches).baseFiltersText = options.baseFiltersText := rfl

@[simp] theorem SourceField.property_switched (field : SourceField) :
    field.property (options.switched switches) = field.property options := rfl

@[simp] theorem SourceField.output_switched (field : SourceField) :
    field.output (options.switched switches) = field.output options := rfl

@[simp] theorem ActionShape.payloadText_switched (shape : ActionShape) :
    shape.payloadText (options.switched switches) = shape.payloadText options := rfl

@[simp] theorem ActionShape.httpText_switched (shape : ActionShape) :
    shape.httpText (options.switched switches) = shape.httpText options := rfl

@[simp] theorem wrapperText_switched :
    wrapperText (options.switched switches) = wrapperText options := rfl

end

namespace Typing

variable (typing) (switches)

@[simp] theorem ofSchema_switched (schema : Schema) (options : Options) :
    ofSchema schema (options.switched switches) = (ofSchema schema options).switched switches := rfl

@[simp] theorem options_switched :
    (typing.switched switches).options = typing.options.switched switches := rfl

/-! ## Types of fields -/

@[simp] theorem resourceName_switched :
    (typing.switched switches).resourceName = typing.resourceName := rfl

@[simp] theorem structType_switched :
    (typing.switched switches).structType = typing.structType := rfl

/-- A type is written without regard to switches. -/
@[simp] theorem typeOf_switched (owner : Option String) : ∀ type : TypeRef,
    (typing.switched switches).typeOf owner type = typing.typeOf owner type
  | .array item _ => by simp [typeOf, typeOf_switched owner item]
  | .primitive _ _ | .enum _ _ | .resource _ | .struct _ _ _ _ | .union _ _ | .unknown _ => by
    simp [typeOf]

@[simp] theorem valueType_switched : (typing.switched switches).valueType = typing.valueType := by
  funext
  simp [valueType]

@[simp] theorem fieldType_switched : (typing.switched switches).fieldType = typing.fieldType := by
  funext
  simp [fieldType]

@[simp] theorem recordType_switched :
    (typing.switched switches).recordType = typing.recordType := by
  funext
  simp [recordType]

@[simp] theorem relatedType_switched :
    (typing.switched switches).relatedType = typing.relatedType := by
  funext id cardinality
  cases cardinality <;> simp [relatedType]

/-! ## Records and unions -/

@[simp] theorem attributeProperty_switched :
    (typing.switched switches).attributeProperty = typing.attributeProperty := by
  funext
  simp [attributeProperty]

@[simp] theorem relationshipProperty_switched :
    (typing.switched switches).relationshipProperty = typing.relationshipProperty := by
  funext
  simp [relationshipProperty]

@[simp] theorem record_switched : (typing.switched switches).record = typing.record := by
  funext
  simp [record]

@[simp] theorem structFieldProperty_switched :
    (typing.switched switches).structFieldProperty = typing.structFieldProperty := by
  funext
  simp [structFieldProperty]

@[simp] theorem memberProperties_switched :
    (typing.switched switches).memberProperties = typing.memberProperties := by
  funext tag member
  cases member <;> simp [memberProperties, valueProperty]

@[simp] theorem union_switched : (typing.switched switches).union = typing.union := by
  funext
  simp [union, variant]

/-! ## Types of single actions -/

@[simp] theorem pageProperty_switched :
    (typing.switched switches).pageProperty = typing.pageProperty := by
  funext
  simp [pageProperty]

@[simp] theorem pageResultText_switched :
    (typing.switched switches).pageResultText = typing.pageResultText := by
  funext
  simp [pageResultText, pageVariants, offsetProperties, keysetProperties]

@[simp] theorem metadataProperty_switched :
    (typing.switched switches).metadataProperty = typing.metadataProperty := by
  funext
  simp [metadataProperty]

@[simp] theorem metadataText_switched :
    (typing.switched switches).metadataText = typing.metadataText := by
  funext
  simp [metadataText, metadataClass?]

@[simp] theorem successData_switched :
    (typing.switched switches).successData = typing.successData := by
  funext
  simp [successData]

@[simp] theorem resultText_switched :
    (typing.switched switches).resultText = typing.resultText := by
  funext
  simp [resultText, successLines]

@[simp] theorem inputProperty_switched :
    (typing.switched switches).inputProperty = typing.inputProperty := by
  funext
  simp [inputProperty]

@[simp] theorem inputAnnotations_switched :
    (typing.switched switches).inputAnnotations = typing.inputAnnotations := rfl

@[simp] theorem makeInputProperty_switched :
    (typing.switched switches).makeInputProperty = typing.makeInputProperty := by
  funext
  simp only [makeInputProperty, fieldType_switched, inputProperty_switched,
    inputAnnotations_switched]

@[simp] theorem inputText_switched : (typing.switched switches).inputText = typing.inputText := by
  funext
  simp [inputText, inputClass?]

/-! ## Calls -/

@[simp] theorem filterInputName_switched :
    (typing.switched switches).filterInputName = typing.filterInputName := by
  funext
  simp [filterInputName]

@[simp] theorem configRecord_switched :
    (typing.switched switches).configRecord = typing.configRecord := by
  funext
  simp [configRecord, commonFields, identityType, filterType]

@[simp] theorem actionText_switched :
    (typing.switched switches).actionText = typing.actionText := by
  funext
  simp [actionText, converterText, successArguments, convertedData]

/-! ## Filters -/

@[simp] theorem filterProperty_switched :
    (typing.switched switches).filterProperty = typing.filterProperty := by
  funext
  simp [filterProperty]

@[simp] theorem filterInput_switched :
    (typing.switched switches).filterInput = typing.filterInput := by
  funext
  simp [filterInput, aggregateFilters, relationshipFilters]

@[simp] theorem filterTypesText_switched :
    (typing.switched switches).filterTypesText = typing.filterTypesText := by
  funext
  simp [filterTypesText, filterInputs]

/-! ## Typed queries -/

@[simp] theorem queryProperty_switched :
    (typing.switched switches).queryProperty = typing.queryProperty := by
  funext
  simp [queryProperty]

@[simp] theorem selectedProperty_switched :
    (typing.switched switches).selectedProperty = typing.selectedProperty := by
  funext schema resource parent item
  cases item <;> simp [selectedProperty, selectedField, selectedRelationship]

@[simp] theorem selectedClass_switched :
    (typing.switched switches).selectedClass = typing.selectedClass := by
  funext
  simp [selectedClass]

mutual

@[simp] theorem nestedClasses_switched (schema : Schema) (resource : Resource) (parent : String) :
    ∀ item : Selection, (typing.switched switches).nestedClasses schema resource parent item =
      typing.nestedClasses schema resource parent item
  | .field _ | .stray _ | .unusable _ _ => by rw [nestedClasses, nestedClasses]
  | .nested key inner => by
    rw [nestedClasses, nestedClasses]
    simp only [selectedClass_switched, nestedClassesOf_switched schema _ _ inner]

@[simp] theorem nestedClassesOf_switched (schema : Schema) (resource : Resource)
    (parent : String) : ∀ items : List Selection,
    (typing.switched switches).nestedClassesOf schema resource parent items =
      typing.nestedClassesOf schema resource parent items
  | [] => by rw [nestedClassesOf, nestedClassesOf]
  | item :: rest => by
    rw [nestedClassesOf, nestedClassesOf, nestedClasses_switched schema resource parent item,
      nestedClassesOf_switched schema resource parent rest]

end

@[simp] theorem wireLiteral_switched :
    (typing.switched switches).wireLiteral = typing.wireLiteral := rfl

mutual

@[simp] theorem itemLiteral_switched : ∀ item : Selection,
    (typing.switched switches).itemLiteral item = typing.itemLiteral item
  | .field _ | .unusable _ _ | .stray _ => by simp [itemLiteral]
  | .nested key inner => by simp [itemLiteral, itemLiterals_switched inner]

@[simp] theorem itemLiterals_switched : ∀ items : List Selection,
    (typing.switched switches).itemLiterals items = typing.itemLiterals items
  | [] => by rw [itemLiterals, itemLiterals]
  | item :: rest => by
    rw [itemLiterals, itemLiterals, itemLiteral_switched item, itemLiterals_switched rest]

end

@[simp] theorem queryText_switched :
    (typing.switched switches).queryText = typing.queryText := by
  funext
  simp [queryText, queryClasses, selectionLiteral]

@[simp] theorem typedQueriesText_switched :
    (typing.switched switches).typedQueriesText = typing.typedQueriesText := by
  funext
  simp [typedQueriesText, resourceQueriesText]

end Typing
end TypedRpc
