import TypedRpc.Options.Basic
import TypedRpc.Schema.Basic
import TypedRpc.Target.TypeExpr

/-!
# Types of fields

Which type of the generated language stands for a type of the schema.  An override of the options
comes first, and the first one with the type's key counts.  Otherwise arrays become lists, primitive
types are looked up, enumerations travel as texts, references and structs that are instances take
the name of the resource, unions their own name or that of the field that holds them, and whatever
is left becomes the open type.
-/

namespace TypedRpc

open Target (TypeExpr)

/-- What the types of fields depend on: the options, and the declared names of resources. -/
structure Typing where
  options : Options
  resolve : String → Option String

/-- The names of the resources of a schema under some options. -/
def Typing.ofSchema (schema : Schema) (options : Options) : Typing :=
  ⟨options, schema.typeName?⟩

/-- The key that overrides of a type go by. -/
def TypeRef.overrideKey? : TypeRef → Option String
  | .primitive kind _ => some kind.word
  | .unknown name => name
  | .resource id => some id
  | .struct _ _ instanceOf _ => instanceOf
  | .enum _ name => name
  | .union _ name => name
  | .array _ _ => none

/-- The type that stands for points in time, days and times of day. -/
def DatetimeLibrary.typeOf? : DatetimeLibrary → PrimitiveKind → Option String
  | .kotlinx, .date => some "kotlinx.datetime.LocalDate"
  | .kotlinx, .time => some "kotlinx.datetime.LocalTime"
  | .kotlinx, .utcDatetime => some "kotlinx.datetime.Instant"
  | .kotlinx, .utcDatetimeUsec => some "kotlinx.datetime.Instant"
  | .kotlinx, .datetime => some "kotlinx.datetime.Instant"
  | .kotlinx, .naiveDatetime => some "kotlinx.datetime.LocalDateTime"
  | .javaTime, .date => some "java.time.LocalDate"
  | .javaTime, .time => some "java.time.LocalTime"
  | .javaTime, .utcDatetime => some "java.time.Instant"
  | .javaTime, .utcDatetimeUsec => some "java.time.Instant"
  | .javaTime, .datetime => some "java.time.ZonedDateTime"
  | .javaTime, .naiveDatetime => some "java.time.LocalDateTime"
  | _, _ => none

/-- A list of anything. -/
def anyList : TypeExpr := .list (.nullable Target.anyType)

/-- The type that stands for a primitive type. -/
def Options.primitiveType (options : Options) (kind : PrimitiveKind) : TypeExpr :=
  match kind with
  | .map | .keyword | .json => .named options.untypedMapType
  | .string | .ciString | .atom | .decimal | .uuid => .named "String"
  | .integer => .named "Int"
  | .float => .named "Double"
  | .boolean => .named "Boolean"
  | .binary => .named "ByteArray"
  | .tuple => anyList
  | kind =>
    match options.datetimeLibrary.typeOf? kind with
    | some name => .named name
    | none => Target.anyType

/-- The type that the options give to a type of the schema. -/
def Options.overrideOf? (options : Options) (type : TypeRef) : Option TypeExpr := do
  let key ← type.overrideKey?
  let override ← options.typeOverrides.find? (·.source == key)
  pure (.named override.target)

namespace Typing

variable (typing : Typing)

/-- The name of a resource: its declared name, or the last segment of its id. -/
def resourceName (id : String) : String :=
  (typing.resolve id).getD (shortNameOf id)

/-- The type that stands for a struct. -/
def structType (container : Container) (isEmpty : Bool) (instanceOf : Option String) : TypeExpr :=
  match given? instanceOf with
  | some id => .named (typing.resourceName id)
  | none =>
    if container = .tuple && isEmpty then anyList else .named typing.options.untypedMapType

/-- The name of a union: its own, or the one it gets from its owner. -/
def unionName? (owner name : Option String) : Option String :=
  (given? name).or ((given? owner).map Naming.unionTypeName)

/-- The type that stands for a type of the schema, given the name of the field that holds it. -/
def typeOf (owner : Option String) (type : TypeRef) : TypeExpr :=
  match typing.options.overrideOf? type with
  | some chosen => chosen
  | none =>
    match type with
    | .array item _ => .list (typeOf owner item)
    | .primitive kind _ => typing.options.primitiveType kind
    | .enum _ _ => .named "String"
    | .resource id => .named (typing.resourceName id)
    | .struct container fields instanceOf _ =>
      typing.structType container fields.isEmpty instanceOf
    | .union _ name => ((unionName? owner name).map TypeExpr.named).getD Target.anyType
    | .unknown _ => Target.anyType

/-- The type of a named value, given whether it admits null. -/
def valueType (name : String) (type : TypeRef) (nullable : Bool) : TypeExpr :=
  let mapped := typing.typeOf (some name) type
  if nullable then .nullable mapped else mapped

/-- The type of a field. -/
def fieldType (field : FieldSpec) : TypeExpr :=
  typing.valueType field.name field.type field.nullable

/-- The type of the records of a resource. -/
def recordType (id : String) : TypeExpr :=
  typing.typeOf none (.resource id)

/-- The type of one or many records of a resource. -/
def relatedType (id : String) : Cardinality → TypeExpr
  | .one => typing.recordType id
  | .many => .list (typing.recordType id)

end Typing
end TypedRpc
