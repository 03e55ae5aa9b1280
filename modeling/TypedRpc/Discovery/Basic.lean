import TypedRpc.Naming.Convention
import TypedRpc.Schema.Basic

/-!
# Discovered types

What can be reached from the resources that clients have access to: resources, enumerations and
tagged unions.  Every occurrence of an enumeration or a union is kept with the path on which it was
found, and so is every reference to a resource.  Of several occurrences with one name the first
defines the type.
-/

namespace TypedRpc

/-- The names of the steps to a value. -/
abbrev AccessPath : Type := List String

/-- A path as it is shown: `Todo -> user`. -/
def AccessPath.text (path : AccessPath) : String :=
  " -> ".intercalate path

/-- An enumeration found on a field. -/
structure EnumDef where
  name : String
  values : List String
  origin : AccessPath
  deriving Repr

/-- A tagged union found on a field. -/
structure UnionDef where
  name : String
  members : List (String × TypeRef)
  origin : AccessPath
  deriving Repr

/-- A reference to a resource and where it was found. -/
structure Reference where
  id : String
  path : AccessPath
  deriving DecidableEq, Repr

/-- A type to start from besides the resources, such as the type of an argument. -/
structure TypeRoot where
  /-- The name of the value that has the type. -/
  owner : String
  type : TypeRef
  path : AccessPath
  deriving Repr

/-- Whether two lists of members have the same tags in the same order and the same types. -/
def sameMemberList : List (String × TypeRef) → List (String × TypeRef) → Bool
  | [], [] => true
  | (tag, type) :: rest, (tag', type') :: rest' =>
    tag == tag' && type.same type' && sameMemberList rest rest'
  | _, _ => false

/-- Whether two unions have the same tags in the same order and the same types. -/
def UnionDef.sameShape (a b : UnionDef) : Bool :=
  sameMemberList a.members b.members

/-- Adds an item at the end of a table, unless one of its name is there. -/
def addByName {α : Type} (name : α → String) (table : List α) (item : α) : List α :=
  if table.any fun other => name other == name item then table else table ++ [item]

/-- What a traversal has found. -/
structure Discovery where
  /-- The resources whose fields have been traversed, in the order of their first visits. -/
  visited : List String := []
  /-- The resources that are not embedded, those that clients have access to first. -/
  resources : List String := []
  /-- The embedded resources. -/
  embedded : List String := []
  enumOccurrences : List EnumDef := []
  /-- The enumerations by name.  A name that is known keeps what it stands for. -/
  enums : List EnumDef := []
  unionOccurrences : List UnionDef := []
  /-- The unions by name. -/
  unions : List UnionDef := []
  references : List Reference := []
  /-- References to resources that do not exist. -/
  missing : List Reference := []
  deriving Repr

namespace Discovery

variable (found : Discovery)

/-- The enumeration of a name. -/
def enum? (name : String) : Option EnumDef :=
  found.enums.find? (·.name == name)

/-- The union of a name. -/
def union? (name : String) : Option UnionDef :=
  found.unions.find? (·.name == name)

/-- All resources, embedded ones last. -/
def allResources : List String :=
  found.resources ++ found.embedded

/-- Notes that a resource is reached. -/
def register (resource : Resource) : Discovery :=
  if resource.embedded then
    if found.embedded.contains resource.id then found
    else { found with embedded := found.embedded ++ [resource.id] }
  else
    if found.resources.contains resource.id then found
    else { found with resources := found.resources ++ [resource.id] }

/-- Notes that the fields of a resource are traversed. -/
def visit (id : String) : Discovery :=
  { found with visited := found.visited ++ [id] }

/-- Notes an enumeration. -/
def addEnum (occurrence : EnumDef) : Discovery :=
  { found with
    enumOccurrences := found.enumOccurrences ++ [occurrence]
    enums := addByName EnumDef.name found.enums occurrence }

/-- Notes a union. -/
def addUnion (occurrence : UnionDef) : Discovery :=
  { found with
    unionOccurrences := found.unionOccurrences ++ [occurrence]
    unions := addByName UnionDef.name found.unions occurrence }

/-- Notes a reference. -/
def addReference (reference : Reference) : Discovery :=
  { found with references := found.references ++ [reference] }

/-- Notes a reference to a resource that does not exist. -/
def addMissing (reference : Reference) : Discovery :=
  { found with missing := found.missing ++ [reference] }

end Discovery
end TypedRpc
