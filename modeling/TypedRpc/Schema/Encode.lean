import TypedRpc.Schema.Basic

/-!
# Writing schemas as documents

A schema is written with every field of every part spelled out, in the documented order, so that a
reader of the document needs to know no defaults.
-/

namespace TypedRpc

/-- The word of a vocabulary as a value. -/
def wordValue {α : Type} [Vocabulary α] (member : α) : Value :=
  .text (Vocabulary.word member)

/-- The restrictions of a type as a document. -/
def Constraints.toValue (c : Constraints) : Value :=
  .record [
    ("min", (c.min.map Bound.toValue).getD .null),
    ("max", (c.max.map Bound.toValue).getD .null),
    ("min_length", .ofInt? c.minLength),
    ("max_length", .ofInt? c.maxLength),
    ("match", .ofText? c.pattern)]

/-- The fields that every named value has, given its type as a document. -/
def fieldEntries (name : String) (type : Value) (nullable : Bool) (default : Value)
    (description : Option String) : List (String × Value) := [
  ("name", .text name),
  ("type", type),
  ("nullable", .bool nullable),
  ("default", default),
  ("description", .ofText? description)]

namespace TypeRef

mutual

/-- A type descriptor as a document. -/
def toValue : TypeRef → Value
  | .primitive kind constraints => .record [
      ("kind", .text "primitive"), ("primitive", wordValue kind),
      ("constraints", constraints.toValue)]
  | .array item constraints => .record [
      ("kind", .text "array"), ("item_type", toValue item),
      ("constraints", constraints.toValue)]
  | .enum values name => .record [
      ("kind", .text "enum"), ("values", .texts values), ("name", .ofText? name)]
  | .union members name => .record [
      ("kind", .text "union"), ("members", .map (memberEntries members)),
      ("name", .ofText? name)]
  | .struct container fields instanceOf fieldNames => .record [
      ("kind", .text "struct"), ("container", wordValue container),
      ("fields", .list (fieldValues fields)), ("instance_of", .ofText? instanceOf),
      ("field_names", .ofTable fieldNames)]
  | .resource id => .record [("kind", .text "resource"), ("resource", .text id)]
  | .unknown name => .record [("kind", .text "unknown"), ("name", .ofText? name)]

/-- The members of a union as the entries of a map. -/
def memberEntries : List (String × TypeRef) → List (Value × Value)
  | [] => []
  | (tag, type) :: rest => (.text tag, toValue type) :: memberEntries rest

/-- The fields of a struct as documents. -/
def fieldValues : List (Field TypeRef) → List Value
  | [] => []
  | ⟨name, type, nullable, default, description⟩ :: rest =>
    .record (fieldEntries name (toValue type) nullable default description) :: fieldValues rest

end

end TypeRef

/-- The entries of a named value. -/
def Field.entries (field : FieldSpec) : List (String × Value) :=
  fieldEntries field.name field.type.toValue field.nullable field.default field.description

/-- A named value as a document. -/
def Field.toValue (field : FieldSpec) : Value :=
  .record field.entries

/-- An attribute as a document. -/
def Attribute.toValue (stored : Attribute) : Value :=
  .record (stored.toField.entries ++ [
    ("public", .bool stored.isPublic), ("primary_key", .bool stored.isPrimaryKey)])

/-- A calculation as a document. -/
def Calculation.toValue (calculation : Calculation) : Value :=
  .record (calculation.toField.entries ++ [("public", .bool calculation.isPublic)])

/-- An argument as a document. -/
def Argument.toValue (argument : Argument) : Value :=
  .record (argument.toField.entries ++ [("public", .bool argument.isPublic)])

/-- An aggregate as a document. -/
def Aggregate.toValue (aggregate : Aggregate) : Value :=
  .record [
    ("name", .text aggregate.name),
    ("kind", wordValue aggregate.kind),
    ("relationship_path", .texts aggregate.relationshipPath),
    ("field", .ofText? aggregate.field),
    ("public", .bool aggregate.isPublic),
    ("nullable", .bool aggregate.nullable)]

/-- A relationship as a document. -/
def Relationship.toValue (relationship : Relationship) : Value :=
  .record [
    ("name", .text relationship.name),
    ("type", wordValue relationship.kind),
    ("destination", .text relationship.destination),
    ("public", .bool relationship.isPublic)]

/-- An identity as a document. -/
def Identity.toValue (identity : Identity) : Value :=
  .record [("name", .text identity.name), ("keys", .texts identity.keys)]

/-- The pagination of an action as a document. -/
def Pagination.toValue (pagination : Pagination) : Value :=
  .record [
    ("offset", .bool pagination.offset),
    ("keyset", .bool pagination.keyset),
    ("required", .bool pagination.required),
    ("countable", .bool pagination.countable),
    ("default_limit", .ofInt? pagination.defaultLimit)]

/-- An action as a document. -/
def Action.toValue (action : Action) : Value :=
  .record [
    ("name", .text action.name),
    ("type", wordValue action.kind),
    ("arguments", .list (action.arguments.map Argument.toValue)),
    ("accept", .texts action.accept),
    ("get", .bool action.get),
    ("pagination", (action.pagination.map Pagination.toValue).getD .null),
    ("metadata", .list (action.metadata.map Field.toValue)),
    ("returns", (action.returns.map TypeRef.toValue).getD .null),
    ("description", .ofText? action.description)]

/-- A resource as a document. -/
def Resource.toValue (resource : Resource) : Value :=
  .record [
    ("id", .text resource.id),
    ("type_name", .ofText? resource.typeName),
    ("embedded", .bool resource.embedded),
    ("multitenancy", wordValue resource.multitenancy),
    ("attributes", .list (resource.attributes.map Attribute.toValue)),
    ("relationships", .list (resource.relationships.map Relationship.toValue)),
    ("calculations", .list (resource.calculations.map Calculation.toValue)),
    ("aggregates", .list (resource.aggregates.map Aggregate.toValue)),
    ("identities", .list (resource.identities.map Identity.toValue)),
    ("actions", .list (resource.actions.map Action.toValue)),
    ("field_names", .ofTable resource.fieldNames),
    ("argument_names", .record (resource.argumentNames.map fun entry =>
      (entry.1, .ofTable entry.2)))]

/-- A choice of metadata fields as a document. -/
def MetadataChoice.toValue : MetadataChoice → Value
  | .all shown => .bool shown
  | .only names => .texts names

/-- An exposed action as a document. -/
def RpcAction.toValue (rpcAction : RpcAction) : Value :=
  .record [
    ("name", .text rpcAction.name),
    ("action", .text rpcAction.action),
    ("identities", (rpcAction.identities.map Value.texts).getD .null),
    ("show_metadata", (rpcAction.showMetadata.map MetadataChoice.toValue).getD .null),
    ("metadata_field_names", .ofTable rpcAction.metadataFieldNames),
    ("get", .bool rpcAction.get),
    ("get_by", .texts rpcAction.getBy)]

/-- An entry of a selection as a document. -/
def SelectionEntry.toValue : SelectionEntry → Value
  | .field name => .text name
  | .nested selections => .record (selections.map fun entry => (entry.1, .list entry.2))

/-- A typed query as a document. -/
def TypedQuery.toValue (query : TypedQuery) : Value :=
  .record [
    ("name", .text query.name),
    ("action", .text query.action),
    ("fields", .list (query.fields.map SelectionEntry.toValue)),
    ("result_type_name", .ofText? query.resultTypeName),
    ("fields_const_name", .ofText? query.fieldsConstName)]

/-- What clients may do with a resource, as a document. -/
def RpcResource.toValue (rpcResource : RpcResource) : Value :=
  .record [
    ("resource", .text rpcResource.resource),
    ("rpc_actions", .list (rpcResource.actions.map RpcAction.toValue)),
    ("typed_queries", .list (rpcResource.typedQueries.map TypedQuery.toValue))]

/-- A domain as a document. -/
def Domain.toValue (domain : Domain) : Value :=
  .record [
    ("name", .text domain.name),
    ("resources", .texts domain.resources),
    ("rpc", .list (domain.rpc.map RpcResource.toValue))]

/-- A whole schema as a document. -/
def Schema.toValue (schema : Schema) : Value :=
  .record [
    ("app", .text schema.app),
    ("resources", .list (schema.resources.map Resource.toValue)),
    ("domains", .list (schema.domains.map Domain.toValue))]

end TypedRpc
