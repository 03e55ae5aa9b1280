import TypedRpc.Schema.TypeRef

/-!
# Resources and their actions

A resource has stored attributes, computed ones, aggregates over related records, relationships to
other resources, identities by which its records are found, and actions that a client may be given
access to.  What is not public never reaches a client, but the document may refer to it.

Members are looked up by name, and of several with one name the first counts.
-/

namespace TypedRpc

/-- The word that stands for the primary key where identities are listed. -/
def primaryKeyIdentity : String := "_primary_key"

/-- A stored attribute. -/
structure Attribute extends Field TypeRef where
  isPublic : Bool := true
  isPrimaryKey : Bool := false
  deriving Repr

/-- A computed attribute. -/
structure Calculation extends Field TypeRef where
  isPublic : Bool := true
  deriving Repr

/-- A value over the records at the end of a path of relationships. -/
structure Aggregate where
  name : String
  kind : AggregateKind
  relationshipPath : List String := []
  field : Option String := none
  isPublic : Bool := true
  nullable : Bool := true
  deriving Repr

/-- Whether the type of the aggregate is the type of a field at the end of its path. -/
def Aggregate.hasBackingField (aggregate : Aggregate) : Bool :=
  aggregate.kind.takesFieldType && aggregate.field.isSome && !aggregate.relationshipPath.isEmpty

/-- A relationship to another resource. -/
structure Relationship where
  name : String
  kind : RelationshipKind
  destination : String
  isPublic : Bool := true
  deriving Repr

/-- How many records the relationship leads to. -/
def Relationship.cardinality (relationship : Relationship) : Cardinality :=
  relationship.kind.cardinality

/-- A set of attributes that tells records apart. -/
structure Identity where
  name : String
  keys : List String := []
  deriving Repr

/-- An argument of an action. -/
structure Argument extends Field TypeRef where
  isPublic : Bool := true
  deriving Repr

/-- The ways in which a read action can be asked for one page of its records. -/
structure Pagination where
  offset : Bool := false
  keyset : Bool := false
  required : Bool := false
  countable : Bool := false
  defaultLimit : Option Int := none
  deriving Repr

/-- An action of a resource. -/
structure Action where
  name : String
  kind : ActionKind
  arguments : List Argument := []
  accept : List String := []
  get : Bool := false
  pagination : Option Pagination := none
  metadata : List FieldSpec := []
  returns : Option TypeRef := none
  description : Option String := none
  deriving Repr

/-- The arguments that clients see. -/
def Action.publicArguments (action : Action) : List Argument :=
  action.arguments.filter (·.isPublic)

/-- A resource. -/
structure Resource where
  id : String
  typeName : Option String := none
  embedded : Bool := false
  multitenancy : Multitenancy := .none
  attributes : List Attribute := []
  relationships : List Relationship := []
  calculations : List Calculation := []
  aggregates : List Aggregate := []
  identities : List Identity := []
  actions : List Action := []
  fieldNames : Renames := []
  argumentNames : List (String × Renames) := []
  deriving Repr

/-- The characters after the last dot. -/
def lastSegment (cs : List Char) : List Char :=
  (cs.reverse.takeWhile (· ≠ '.')).reverse

/-- The last segment of a qualified name. -/
def shortNameOf (id : String) : String :=
  String.ofList (lastSegment id.toList)

namespace Resource

variable (resource : Resource)

/-- The last segment of the id. -/
def shortName : String :=
  shortNameOf resource.id

/-- The name of the record type: the one that the document gives, or the short name. -/
def declaredTypeName : String :=
  (given? resource.typeName).getD resource.shortName

/-- The attributes of the primary key in order. -/
def primaryKey : List Attribute :=
  resource.attributes.filter (·.isPrimaryKey)

/-- The attributes that clients see. -/
def publicAttributes : List Attribute :=
  resource.attributes.filter (·.isPublic)

/-- The relationships that clients see. -/
def publicRelationships : List Relationship :=
  resource.relationships.filter (·.isPublic)

/-- The computed attributes that clients see. -/
def publicCalculations : List Calculation :=
  resource.calculations.filter (·.isPublic)

/-- The aggregates that clients see. -/
def publicAggregates : List Aggregate :=
  resource.aggregates.filter (·.isPublic)

/-- The attribute of a name. -/
def attribute? (name : String) : Option Attribute :=
  resource.attributes.find? (·.name == name)

/-- The relationship of a name. -/
def relationship? (name : String) : Option Relationship :=
  resource.relationships.find? (·.name == name)

/-- The calculation of a name. -/
def calculation? (name : String) : Option Calculation :=
  resource.calculations.find? (·.name == name)

/-- The aggregate of a name. -/
def aggregate? (name : String) : Option Aggregate :=
  resource.aggregates.find? (·.name == name)

/-- The identity of a name. -/
def identity? (name : String) : Option Identity :=
  resource.identities.find? (·.name == name)

/-- The action of a name. -/
def action? (name : String) : Option Action :=
  resource.actions.find? (·.name == name)

/-- The name that the document gives to a field of the client, if it gives any. -/
def fieldRename? (name : String) : Option String :=
  resource.fieldNames.lookup name

/-- The name of a field after the renames of the document. -/
def mappedFieldName (name : String) : String :=
  (resource.fieldRename? name).getD name

/-- The name of an argument of an action after the renames of the document. -/
def mappedArgumentName (action argument : String) : String :=
  (((resource.argumentNames.lookup action).getD []).lookup argument).getD argument

end Resource
end TypedRpc
