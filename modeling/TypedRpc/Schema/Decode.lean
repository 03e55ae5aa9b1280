import TypedRpc.Schema.Basic
import TypedRpc.Schema.Nesting
import TypedRpc.Schema.Scalar

/-!
# Reading schemas from documents

Each part of a schema is read from a map with a fixed set of fields; other fields are ignored.
Fields are read in their documented order, which is also the order of the problems found in them.

A type descriptor names its kind, and the kind decides its other fields.  Descriptors stand inside
each other, and each takes up some of the room that there is for nesting.
-/

namespace TypedRpc
namespace Checked

/-- Restrictions on the values of a type. -/
def constraints : Reader Constraints :=
  record "ValueConstraints" fun fields =>
    Constraints.mk <$> optional fields "min" none (orNull bound)
      <*> optional fields "max" none (orNull bound)
      <*> optional fields "min_length" none (orNull integer)
      <*> optional fields "max_length" none (orNull integer)
      <*> optional fields "match" none (orNull text)

/-- A table of renames. -/
def renames : Reader Renames :=
  table text

/-- Any value. -/
def anything : Reader Value := fun document =>
  .ok document.whole

/-- A primitive type. -/
def primitiveType (fields : Entries) : Checked TypeRef :=
  TypeRef.primitive <$> required fields "primitive" word
    <*> optional fields "constraints" {} constraints

/-- An enumeration. -/
def enumType (fields : Entries) : Checked TypeRef :=
  TypeRef.enum <$> required fields "values" (list text)
    <*> optional fields "name" none (orNull text)

/-- A reference to a resource. -/
def resourceType (fields : Entries) : Checked TypeRef :=
  TypeRef.resource <$> required fields "resource" text

/-- A type that nothing is known about. -/
def unknownType (fields : Entries) : Checked TypeRef :=
  TypeRef.unknown <$> optional fields "name" none (orNull text)

/-- An array, given how its items are read. -/
def arrayType (item : Reader TypeRef) (fields : Entries) : Checked TypeRef :=
  TypeRef.array <$> required fields "item_type" item
    <*> optional fields "constraints" {} constraints

/-- A union, given how its members are read. -/
def unionType (member : Reader TypeRef) (fields : Entries) : Checked TypeRef :=
  TypeRef.union <$> required fields "members" (table member)
    <*> optional fields "name" none (orNull text)

/-- A struct, given how its fields are read. -/
def structType (field : Reader FieldSpec) (fields : Entries) : Checked TypeRef :=
  TypeRef.struct <$> optional fields "container" .map word
    <*> optional fields "fields" [] (list field)
    <*> optional fields "instance_of" none (orNull text)
    <*> optional fields "field_names" [] renames

/-- What every named value has, given how its type is read. -/
def namedValue (type : Reader TypeRef) (fields : Entries) : Checked FieldSpec :=
  Field.mk <$> required fields "name" text
    <*> required fields "type" type
    <*> optional fields "nullable" true boolean
    <*> optional fields "default" .null anything
    <*> optional fields "description" none (orNull text)

/-- The kind that a descriptor names. -/
def descriptorKind (fields : Entries) : Except Cause DescriptorKind :=
  match Value.field? fields "kind" with
  | none => .error .noTag
  | some tag =>
    match tag.value.asText?.bind Vocabulary.ofWord? with
    | some kind => .ok kind
    | none => .error (.unknownTag tag.whole.plain (Vocabulary.words DescriptorKind))

/-- A type descriptor inside others. -/
def descriptorIn (nesting : Nesting) (document : Document) : Checked TypeRef :=
  match document.content with
  | .map found =>
    let fields := document.entries found
    match descriptorKind fields with
    | .error cause => refuse cause
    | .ok kind =>
      let read : Checked TypeRef :=
        match _entered : nesting.enter kind document with
        | .error cause => refuse cause
        | .ok inner =>
          match kind with
          | .primitive => primitiveType fields
          | .array => arrayType (fun item => descriptorIn inner item) fields
          | .enum => enumType fields
          | .union => unionType (fun member => descriptorIn inner member) fields
          | .struct =>
            let field : Reader FieldSpec := fun document =>
              match _marked : inner.enterField document with
              | .error cause => refuse cause
              | .ok inside =>
                record "FieldSpec" (namedValue fun type => descriptorIn inside type) document
            structType field fields
          | .resource => resourceType fields
          | .unknown => unknownType fields
      read.under (.name kind.word)
  | _ => refuse .notDescriptor
termination_by nesting.room
decreasing_by
  all_goals
    have := Nesting.room_lt_of_enter _entered
    try have := Nesting.room_lt_of_enterField _marked
    omega

/-- A type descriptor. -/
def descriptor : Reader TypeRef :=
  descriptorIn {}

/-- A named value with a type. -/
def fieldSpec : Reader FieldSpec := fun document =>
  match Nesting.enterField {} document with
  | .error cause => refuse cause
  | .ok nesting => record "FieldSpec" (namedValue (descriptorIn nesting)) document

/-- What every named value outside of structs has. -/
def fieldOf : Entries → Checked FieldSpec :=
  namedValue descriptor

/-- An attribute. -/
def storedAttribute : Reader Attribute :=
  record "Attribute" fun fields =>
    Attribute.mk <$> fieldOf fields
      <*> optional fields "public" true boolean
      <*> optional fields "primary_key" false boolean

/-- A calculation. -/
def calculation : Reader Calculation :=
  record "Calculation" fun fields =>
    Calculation.mk <$> fieldOf fields <*> optional fields "public" true boolean

/-- An aggregate. -/
def aggregate : Reader Aggregate :=
  record "Aggregate" fun fields =>
    Aggregate.mk <$> required fields "name" text
      <*> required fields "kind" word
      <*> optional fields "relationship_path" [] (list text)
      <*> optional fields "field" none (orNull text)
      <*> optional fields "public" true boolean
      <*> optional fields "nullable" true boolean

/-- A relationship. -/
def relationship : Reader Relationship :=
  record "Relationship" fun fields =>
    Relationship.mk <$> required fields "name" text
      <*> required fields "type" word
      <*> required fields "destination" text
      <*> optional fields "public" true boolean

/-- An identity. -/
def identity : Reader Identity :=
  record "Identity" fun fields =>
    Identity.mk <$> required fields "name" text <*> optional fields "keys" [] (list text)

/-- An argument of an action. -/
def argument : Reader Argument :=
  record "Argument" fun fields =>
    Argument.mk <$> fieldOf fields <*> optional fields "public" true boolean

/-- A metadata field of an action. -/
def metadataField : Reader FieldSpec :=
  record "MetadataField" fieldOf

/-- The pagination of an action. -/
def pagination : Reader Pagination :=
  record "Pagination" fun fields =>
    Pagination.mk <$> optional fields "offset" false boolean
      <*> optional fields "keyset" false boolean
      <*> optional fields "required" false boolean
      <*> optional fields "countable" false boolean
      <*> optional fields "default_limit" none (orNull integer)

/-- An action. -/
def action : Reader Action :=
  record "Action" fun fields =>
    Action.mk <$> required fields "name" text
      <*> required fields "type" word
      <*> optional fields "arguments" [] (list argument)
      <*> optional fields "accept" [] (list text)
      <*> optional fields "get" false boolean
      <*> optional fields "pagination" none (orNull pagination)
      <*> optional fields "metadata" [] (list metadataField)
      <*> optional fields "returns" none (orNull descriptor)
      <*> optional fields "description" none (orNull text)

/-- A resource. -/
def resource : Reader Resource :=
  record "Resource" fun fields =>
    Resource.mk <$> required fields "id" text
      <*> optional fields "type_name" none (orNull text)
      <*> optional fields "embedded" false boolean
      <*> optional fields "multitenancy" .none word
      <*> optional fields "attributes" [] (list storedAttribute)
      <*> optional fields "relationships" [] (list relationship)
      <*> optional fields "calculations" [] (list calculation)
      <*> optional fields "aggregates" [] (list aggregate)
      <*> optional fields "identities" [] (list identity)
      <*> optional fields "actions" [] (list action)
      <*> optional fields "field_names" [] renames
      <*> optional fields "argument_names" [] (table renames)

/-- A choice of metadata fields: a list of names, or anything that reads as a boolean. -/
def metadataChoice : Reader MetadataChoice := fun value =>
  match boolean value, list text value with
  | .ok shown, _ => .ok (.all shown)
  | _, .ok names => .ok (.only names)
  | asBoolean, asList =>
    (fun shown _ => .all shown) <$> asBoolean.under (.name "bool")
      <*> asList.under (.name "list[str]")

/-- An action that clients may call. -/
def rpcAction : Reader RpcAction :=
  record "RpcAction" fun fields =>
    RpcAction.mk <$> required fields "name" text
      <*> required fields "action" text
      <*> optional fields "identities" none (orNull (list text))
      <*> optional fields "show_metadata" none (orNull metadataChoice)
      <*> optional fields "metadata_field_names" [] renames
      <*> optional fields "get" false boolean
      <*> optional fields "get_by" [] (list text)

/-- An entry of a selection: a text, or a map from texts to lists. -/
def selectionEntry : Reader SelectionEntry := fun value =>
  match text value, table (list anything) value with
  | .ok name, _ => .ok (.field name)
  | _, .ok selections => .ok (.nested selections)
  | asText, asTable =>
    (fun name _ => .field name) <$> asText.under (.name "str")
      <*> asTable.under (.name "dict[str,list[any]]")

/-- A selection of fields with a type of its own. -/
def typedQuery : Reader TypedQuery :=
  record "TypedQuery" fun fields =>
    TypedQuery.mk <$> required fields "name" text
      <*> required fields "action" text
      <*> optional fields "fields" [] (list selectionEntry)
      <*> optional fields "result_type_name" none (orNull text)
      <*> optional fields "fields_const_name" none (orNull text)

/-- What clients may do with a resource. -/
def rpcResource : Reader RpcResource :=
  record "RpcResource" fun fields =>
    RpcResource.mk <$> required fields "resource" text
      <*> optional fields "rpc_actions" [] (list rpcAction)
      <*> optional fields "typed_queries" [] (list typedQuery)

/-- A group of resources. -/
def domain : Reader Domain :=
  record "Domain" fun fields =>
    Domain.mk <$> required fields "name" text
      <*> optional fields "resources" [] (list text)
      <*> optional fields "rpc" [] (list rpcResource)

/-- A whole schema. -/
def schema : Reader Schema :=
  record "Schema" fun fields =>
    Schema.mk <$> optional fields "app" "app" text
      <*> optional fields "resources" [] (list resource)
      <*> optional fields "domains" [] (list domain)

end Checked
end TypedRpc
