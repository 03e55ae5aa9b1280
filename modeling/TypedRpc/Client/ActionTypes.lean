import TypedRpc.Action.Shape
import TypedRpc.Client.Record

/-!
# Types of single actions

The types that an action brings along, all named after it: a page of results, its metadata, its
result and its input.  Reads are answered with one record, a list or a page of them, creates and
updates with the record, destroys with nothing that could be decoded, and generic actions with what
they return.  A result built on the open type cannot be decoded and stays raw.
-/

namespace TypedRpc

open Target (TypeExpr Property DataClass SealedClass)
open Text (joinLines joinBlocks)

/-- The type of data that is not decoded. -/
def untypedData : TypeExpr := .nullable (.named "JsonElement")

/-! ## Names -/

/-- The end of the name of a page of results. -/
def PaginationKind.resultSuffix : PaginationKind → String
  | .offset => "OffsetResult"
  | .keyset => "KeysetResult"
  | .both => "PaginatedResult"

/-- The type that asks for a page. -/
def PaginationKind.pageConfig : PaginationKind → String
  | .offset => "OffsetPageConfig"
  | .keyset => "KeysetPageConfig"
  | .both => "PageConfig"

namespace ActionShape

variable (shape : ActionShape)

/-- The name of a page of results. -/
def pageResultName? : Option String :=
  shape.pagination.map fun kind => shape.typePrefix ++ kind.resultSuffix

/-- The type that asks for a page. -/
def pageConfigName? : Option String :=
  shape.pagination.map PaginationKind.pageConfig

/-- The name of the metadata type, if clients see any metadata. -/
def metadataName? : Option String :=
  if shape.metadata.isEmpty then none else some (shape.typePrefix ++ "Metadata")

/-- The name of the result type. -/
def resultName : String :=
  shape.typePrefix ++ "Result"

/-- The name of the input type, if the action takes any input. -/
def inputName? : Option String :=
  if shape.inputCardinality = .none then none else some (shape.typePrefix ++ "Input")

/-- The name of the record of call parameters. -/
def configName : String :=
  shape.typePrefix ++ "Config"

/-- The name of the record of parameters for a validation. -/
def validationConfigName : String :=
  shape.typePrefix ++ "ValidationConfig"

/-- Whether the input of the action can be validated without calling it. -/
def supportsValidation : Bool :=
  shape.kind.acceptsAttributes

end ActionShape

/-! ## Asking for pages -/

/-- A property that may be left out and is called the same everywhere. -/
def optionalProperty (name type : String) : Property where
  kotlinName := name
  wireName := name
  type := .nullable (.named type)
  initializer := some "null"

/-- The properties of a type that asks for a page. -/
def PaginationKind.pageProperties : PaginationKind → List Property
  | .offset => [("limit", "Int"), ("offset", "Int"), ("count", "Boolean")].map property
  | .keyset =>
    [("limit", "Int"), ("after", "String"), ("before", "String"), ("count", "Boolean")].map property
  | .both =>
    [("limit", "Int"), ("offset", "Int"), ("after", "String"), ("before", "String"),
      ("count", "Boolean")].map property
where
  /-- A property from its name and its type. -/
  property (entry : String × String) : Property := optionalProperty entry.1 entry.2

/-- The declaration of a type that asks for a page. -/
def PaginationKind.pageClass (kind : PaginationKind) : DataClass where
  name := kind.pageConfig
  properties := kind.pageProperties

/-- The declarations of the types that ask for pages and are used by some action. -/
def pageClasses (shapes : List ActionShape) : List DataClass :=
  ([.offset, .keyset, .both] : List PaginationKind).filterMap fun kind =>
    if shapes.any fun shape => shape.pagination = some kind then some kind.pageClass else none

namespace Typing

variable (typing : Typing)

/-! ## Pages of results -/

/-- A property of a page of results. -/
def pageProperty (name : String) (type : TypeExpr) (nullable : Bool)
    (rename initializer : Option String) : Property :=
  SourceField.output
    { name := name, type := type, nullable := nullable, rename := rename
      initializer := initializer }
    typing.options

/-- The properties of a page that is found by its offset. -/
def offsetProperties (record : TypeExpr) : List Property := [
  typing.pageProperty "results" (.list record) false none none,
  typing.pageProperty "has_more" (.named "Boolean") false none none,
  typing.pageProperty "limit" (.named "Int") false none none,
  typing.pageProperty "offset" (.named "Int") false none none,
  typing.pageProperty "count" (.named "Int") true none (some "null")]

/-- The properties of a page that is found by the keys around it. -/
def keysetProperties (record : TypeExpr) : List Property := [
  typing.pageProperty "results" (.list record) false none none,
  typing.pageProperty "has_more" (.named "Boolean") false none none,
  typing.pageProperty "limit" (.named "Int") false none none,
  typing.pageProperty "after" (.named "String") true (some "afterCursor") (some "null"),
  typing.pageProperty "before" (.named "String") true (some "beforeCursor") (some "null"),
  typing.pageProperty "previous_page" (.named "String") false none (some "\"\""),
  typing.pageProperty "next_page" (.named "String") false none (some "\"\""),
  typing.pageProperty "count" (.named "Int") true none (some "null")]

/-- A page of results as one of two variants. -/
def pageVariants (name : String) (record : TypeExpr) : SealedClass where
  name := name
  variants := [
    { name := "Offset", properties := typing.offsetProperties record
      serialName := some "offset", variantOf := some name },
    { name := "Keyset", properties := typing.keysetProperties record
      serialName := some "keyset", variantOf := some name }]

/-- The declaration of a page of results; empty when there are no pages. -/
def pageResultText (shape : ActionShape) : String :=
  let record := typing.recordType shape.resourceId
  match shape.pagination with
  | none => ""
  | some kind =>
    let name := shape.typePrefix ++ kind.resultSuffix
    match kind with
    | .offset => DataClass.text { name := name, properties := typing.offsetProperties record }
    | .keyset => DataClass.text { name := name, properties := typing.keysetProperties record }
    | .both => (typing.pageVariants name record).text

/-! ## Metadata -/

/-- The property for a metadata field. -/
def metadataProperty (shape : ActionShape) (field : FieldSpec) : Property :=
  SourceField.output
    { name := field.name
      type := typing.fieldType field
      nullable := field.nullable
      rename := shape.metadataNames.lookup field.name }
    typing.options

/-- The metadata type, if clients see any metadata. -/
def metadataClass? (shape : ActionShape) : Option DataClass :=
  shape.metadataName?.map fun name =>
    { name := name, properties := shape.metadata.map (typing.metadataProperty shape) }

/-- The declaration of the metadata type, or nothing. -/
def metadataText (shape : ActionShape) : String :=
  ((typing.metadataClass? shape).map DataClass.text).getD ""

/-! ## Results -/

/-- The type that a generic action returns. -/
def returnType? (schema : Schema) (shape : ActionShape) : Option TypeRef := do
  let resource ← schema.resource? shape.resourceId
  let action ← resource.action? shape.actionName
  action.returns

/-- Whether a type is built on the open type. -/
def isUndecodable (type : TypeExpr) : Bool :=
  Text.occursIn "Any".toList type.text.toList

/-- The type of the data of a successful call. -/
def successData (schema : Schema) (shape : ActionShape) : TypeExpr :=
  let record := typing.recordType shape.resourceId
  match shape.kind with
  | .destroy => untypedData
  | .read =>
    if shape.isGet then .nullable record
    else ((shape.pageResultName?).map TypeExpr.named).getD (.list record)
  | .generic =>
    match returnType? schema shape with
    | none => untypedData
    | some type =>
      let data := typing.valueType shape.rpcName type true
      if isUndecodable data then untypedData else data
  | .create | .update => record

/-- The lines of a successful result. -/
def successLines (schema : Schema) (shape : ActionShape) : List String :=
  let data := typing.successData schema shape
  let absent := if data.text = untypedData.text then " = null" else ""
  ("        val data: " ++ data.text ++ absent) ::
    (shape.metadataName?.map fun name => "        val metadata: " ++ name ++ "? = null").toList

/-- The declaration of the result of an action: success or failure. -/
def resultText (schema : Schema) (shape : ActionShape) : String :=
  let name := shape.resultName
  joinLines [
    "sealed class " ++ name ++ " \x7b",
    "    data class Success(",
    ",\n".intercalate (typing.successLines schema shape),
    "    ) : " ++ name ++ "()",
    "",
    "    data class Error(",
    "        val errors: List<AshRpcError>",
    "    ) : " ++ name ++ "()",
    "\x7d"]

end Typing
end TypedRpc
