import TypedRpc.Schema.Resource

/-!
# Schemas

A schema lists resources, and domains that group them.  A domain also says which actions a client
may call and under which names, and which selections of fields are given a type of their own.

The id of a resource names the first resource with that id.
-/

namespace TypedRpc

/-- Which metadata fields of an action a client sees. -/
inductive MetadataChoice where
  /-- All of them, or none. -/
  | all (shown : Bool)
  /-- Those listed. -/
  | only (names : List String)
  deriving DecidableEq, Repr

/-- An action that clients may call. -/
structure RpcAction where
  name : String
  action : String
  identities : Option (List String) := none
  showMetadata : Option MetadataChoice := none
  metadataFieldNames : Renames := []
  get : Bool := false
  getBy : List String := []
  deriving Repr

/-- An entry of a selection: a field, or relationships with a selection each.  What a nested
selection holds is not checked when the document is read. -/
inductive SelectionEntry where
  | field (name : String)
  | nested (selections : List (String × List Value))
  deriving Repr

/-- A selection of fields with a type of its own. -/
structure TypedQuery where
  name : String
  action : String
  fields : List SelectionEntry := []
  resultTypeName : Option String := none
  fieldsConstName : Option String := none
  deriving Repr

/-- What clients may do with a resource. -/
structure RpcResource where
  resource : String
  actions : List RpcAction := []
  typedQueries : List TypedQuery := []
  deriving Repr

/-- A group of resources. -/
structure Domain where
  name : String
  resources : List String := []
  rpc : List RpcResource := []
  deriving Repr

/-- A whole schema. -/
structure Schema where
  app : String := "app"
  resources : List Resource := []
  domains : List Domain := []
  deriving Repr

/-- The members of a list at their first places. -/
def firstOccurrences (items : List String) : List String :=
  items.foldl (fun seen item => if seen.contains item then seen else seen ++ [item]) []

namespace Schema

variable (schema : Schema)

/-- The resource that an id names. -/
def resource? (id : String) : Option Resource :=
  schema.resources.find? (·.id == id)

/-- What clients may do with each resource, over all domains. -/
def rpcResources : List RpcResource :=
  schema.domains.flatMap (·.rpc)

/-- The ids of the resources that clients have access to. -/
def exposedResourceIds : List String :=
  firstOccurrences (schema.rpcResources.map (·.resource))

/-- The ids of the resources that domains list. -/
def domainResourceIds : List String :=
  firstOccurrences (schema.domains.flatMap (·.resources))

/-- The type name that an id resolves to. -/
def typeName? (id : String) : Option String :=
  (schema.resource? id).map (·.declaredTypeName)

/-- The end of a path of relationships that starts at a resource. -/
def relatedResource? (start : Option Resource) (path : List String) : Option Resource :=
  path.foldl
    (fun current name => do
      let relationship ← (← current).relationship? name
      schema.resource? relationship.destination)
    start

/-- The type of the field at the end of an aggregate's path. -/
def backingFieldType? (resource : Resource) (aggregate : Aggregate) : Option TypeRef := do
  let field ← aggregate.field
  let destination ← schema.relatedResource? (some resource) aggregate.relationshipPath
  match destination.attribute? field with
  | some stored => some stored.type
  | none => (destination.calculation? field).map (·.type)

/-- The type of an aggregate's value.  Counts are integers, existence is a boolean and averages are
floats; any other aggregate has the type of its backing field, in an array for lists, and an unknown
type when that field cannot be found. -/
def aggregateType (resource : Resource) (aggregate : Aggregate) : TypeRef :=
  match aggregate.kind with
  | .count => .primitive .integer {}
  | .any => .primitive .boolean {}
  | .avg => .primitive .float {}
  | kind =>
    match schema.backingFieldType? resource aggregate with
    | none => .unknown (some (resource.id ++ "." ++ aggregate.name))
    | some type => if kind = .list then .array type {} else type

/-- The resource that an id names has that id. -/
theorem id_of_resource? {schema : Schema} {id : String} {resource : Resource}
    (h : schema.resource? id = some resource) : resource.id = id := by
  simpa using List.find?_some h

/-- Looking ids up one by one and taking the ids of what is found changes nothing, if all of them
name resources. -/
theorem ids_filterMap_resource? (schema : Schema) {ids : List String}
    (existing : ∀ id ∈ ids, (schema.resource? id).isSome) :
    (ids.filterMap schema.resource?).map Resource.id = ids := by
  induction ids with
  | nil => rfl
  | cons id rest ih =>
    rw [List.forall_mem_cons] at existing
    obtain ⟨resource, named⟩ := Option.isSome_iff_exists.mp existing.1
    rw [List.filterMap_cons_some named, List.map_cons, id_of_resource? named, ih existing.2]

/-- The resource that an id names is a resource of the schema. -/
theorem mem_of_resource? {schema : Schema} {id : String} {resource : Resource}
    (h : schema.resource? id = some resource) : resource ∈ schema.resources :=
  List.mem_of_find?_eq_some h

end Schema
end TypedRpc
