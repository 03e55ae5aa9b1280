/-!
# Closed vocabularies of schemas

The words that a schema document may use where only a few are known: kinds of type descriptors,
primitive types, containers, kinds of actions, relationships and aggregates, and the ways in which a
resource is shared between tenants.  Each vocabulary lists its members in their documented order and
knows the word for each.
-/

namespace TypedRpc

/-- A closed vocabulary: its members in order, and the word for each. -/
class Vocabulary (α : Type) where
  members : List α
  word : α → String

/-- The member that a word stands for. -/
def Vocabulary.ofWord? {α : Type} [Vocabulary α] (word : String) : Option α :=
  (Vocabulary.members (α := α)).find? fun member => Vocabulary.word member == word

/-- The words of a vocabulary in order. -/
def Vocabulary.words (α : Type) [Vocabulary α] : List String :=
  (Vocabulary.members (α := α)).map Vocabulary.word

/-- What a type descriptor describes. -/
inductive DescriptorKind where
  | primitive
  | array
  | enum
  | union
  | struct
  | resource
  | unknown
  deriving DecidableEq, Repr

/-- The word for a kind of descriptor. -/
def DescriptorKind.word : DescriptorKind → String
  | .primitive => "primitive"
  | .array => "array"
  | .enum => "enum"
  | .union => "union"
  | .struct => "struct"
  | .resource => "resource"
  | .unknown => "unknown"

instance : Vocabulary DescriptorKind where
  members := [.primitive, .array, .enum, .union, .struct, .resource, .unknown]
  word := DescriptorKind.word

/-- A primitive type. -/
inductive PrimitiveKind where
  | string
  | ciString
  | integer
  | float
  | boolean
  | binary
  | decimal
  | uuid
  | date
  | time
  | utcDatetime
  | utcDatetimeUsec
  | datetime
  | naiveDatetime
  | atom
  | map
  | keyword
  | tuple
  | json
  deriving DecidableEq, Repr

/-- The word for a primitive type. -/
def PrimitiveKind.word : PrimitiveKind → String
  | .string => "string"
  | .ciString => "ci_string"
  | .integer => "integer"
  | .float => "float"
  | .boolean => "boolean"
  | .binary => "binary"
  | .decimal => "decimal"
  | .uuid => "uuid"
  | .date => "date"
  | .time => "time"
  | .utcDatetime => "utc_datetime"
  | .utcDatetimeUsec => "utc_datetime_usec"
  | .datetime => "datetime"
  | .naiveDatetime => "naive_datetime"
  | .atom => "atom"
  | .map => "map"
  | .keyword => "keyword"
  | .tuple => "tuple"
  | .json => "json"

instance : Vocabulary PrimitiveKind where
  members := [.string, .ciString, .integer, .float, .boolean, .binary, .decimal, .uuid, .date,
    .time, .utcDatetime, .utcDatetimeUsec, .datetime, .naiveDatetime, .atom, .map, .keyword,
    .tuple, .json]
  word := PrimitiveKind.word

/-- What kind of value holds the fields of a struct. -/
inductive Container where
  | map
  | keyword
  | tuple
  | struct
  deriving DecidableEq, Repr

/-- The word for a container. -/
def Container.word : Container → String
  | .map => "map"
  | .keyword => "keyword"
  | .tuple => "tuple"
  | .struct => "struct"

instance : Vocabulary Container where
  members := [.map, .keyword, .tuple, .struct]
  word := Container.word

/-- What an action does. -/
inductive ActionKind where
  | read
  | create
  | update
  | destroy
  | generic
  deriving DecidableEq, Repr

/-- The word for a kind of action. -/
def ActionKind.word : ActionKind → String
  | .read => "read"
  | .create => "create"
  | .update => "update"
  | .destroy => "destroy"
  | .generic => "action"

instance : Vocabulary ActionKind where
  members := [.read, .create, .update, .destroy, .generic]
  word := ActionKind.word

/-- How two resources are related. -/
inductive RelationshipKind where
  | belongsTo
  | hasOne
  | hasMany
  | manyToMany
  deriving DecidableEq, Repr

/-- The word for a kind of relationship. -/
def RelationshipKind.word : RelationshipKind → String
  | .belongsTo => "belongs_to"
  | .hasOne => "has_one"
  | .hasMany => "has_many"
  | .manyToMany => "many_to_many"

instance : Vocabulary RelationshipKind where
  members := [.belongsTo, .hasOne, .hasMany, .manyToMany]
  word := RelationshipKind.word

/-- How many records a relationship leads to. -/
inductive Cardinality where
  | one
  | many
  deriving DecidableEq, Repr

/-- The word for a cardinality. -/
def Cardinality.word : Cardinality → String
  | .one => "one"
  | .many => "many"

/-- The number of records that a kind of relationship leads to. -/
def RelationshipKind.cardinality : RelationshipKind → Cardinality
  | .belongsTo | .hasOne => .one
  | .hasMany | .manyToMany => .many

/-- How an aggregate combines the values it is taken over. -/
inductive AggregateKind where
  | count
  | any
  | sum
  | avg
  | first
  | list
  | max
  | min
  | custom
  deriving DecidableEq, Repr

/-- The word for a kind of aggregate. -/
def AggregateKind.word : AggregateKind → String
  | .count => "count"
  | .any => "exists"
  | .sum => "sum"
  | .avg => "avg"
  | .first => "first"
  | .list => "list"
  | .max => "max"
  | .min => "min"
  | .custom => "custom"

instance : Vocabulary AggregateKind where
  members := [.count, .any, .sum, .avg, .first, .list, .max, .min, .custom]
  word := AggregateKind.word

/-- Whether an aggregate of this kind has the type of the field it is taken over. -/
def AggregateKind.takesFieldType : AggregateKind → Bool
  | .first | .list | .max | .min | .custom => true
  | .count | .any | .sum | .avg => false

/-- How a resource is shared between tenants. -/
inductive Multitenancy where
  | none
  | byAttribute
  | byContext
  deriving DecidableEq, Repr

/-- The word for a way of sharing. -/
def Multitenancy.word : Multitenancy → String
  | .none => "none"
  | .byAttribute => "attribute"
  | .byContext => "context"

instance : Vocabulary Multitenancy where
  members := [.none, .byAttribute, .byContext]
  word := Multitenancy.word

end TypedRpc
