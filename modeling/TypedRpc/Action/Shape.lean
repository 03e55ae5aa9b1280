import TypedRpc.Naming.Convention
import TypedRpc.Schema.Basic

/-!
# Shapes of exposed actions

What a client has to know about an action: what it is called with, how it finds the record it works
on, whether its results come in pages, and which metadata come along.  A shape is derived once for
each exposed action, so that everything that is generated for the action agrees.
-/

namespace TypedRpc

/-- Whether an action is called with an input, and whether the input may be left out. -/
inductive InputCardinality where
  | none
  | optional
  | required
  deriving DecidableEq, Repr

/-- The word for an input cardinality. -/
def InputCardinality.word : InputCardinality → String
  | .none => "none"
  | .optional => "optional"
  | .required => "required"

/-- The ways in which an action can be asked for pages. -/
inductive PaginationKind where
  | offset
  | keyset
  | both
  deriving DecidableEq, Repr

/-- The word for a kind of pagination. -/
def PaginationKind.word : PaginationKind → String
  | .offset => "offset"
  | .keyset => "keyset"
  | .both => "both"

/-- How an action finds the record it works on. -/
inductive IdentityRequirement where
  /-- It works on none. -/
  | none
  | primaryKey
  /-- By one of some identities, among which may be the primary key. -/
  | named (identities : List String)
  deriving DecidableEq, Repr

/-- The word for a kind of requirement. -/
def IdentityRequirement.word : IdentityRequirement → String
  | .none => "none"
  | .primaryKey => "primary_key"
  | .named _ => "named"

/-- The identities of a requirement. -/
def IdentityRequirement.identities : IdentityRequirement → List String
  | .none => []
  | .primaryKey => [primaryKeyIdentity]
  | .named identities => identities

/-- A field of the input of an action. -/
inductive InputField where
  | stored (field : Attribute)
  | argument (field : Argument)
  deriving Repr

/-- The named value of an input field. -/
def InputField.spec : InputField → FieldSpec
  | .stored field => field.toField
  | .argument field => field.toField

/-- Everything that is generated from for one exposed action. -/
structure ActionShape where
  /-- The name that clients call the action by. -/
  rpcName : String
  resourceId : String
  /-- The name of the action behind it. -/
  actionName : String
  kind : ActionKind
  requiresTenant : Bool
  identity : IdentityRequirement
  inputCardinality : InputCardinality
  /-- Accepted attributes, then public arguments. -/
  inputFields : List InputField
  pagination : Option PaginationKind
  paginationRequired : Bool
  countable : Bool
  supportsFiltering : Bool
  /-- Whether the action reads at most one record. -/
  isGet : Bool
  metadata : List FieldSpec
  metadataNames : Renames
  inputNames : Renames
  deriving Repr

namespace ActionShape

variable (shape : ActionShape)

/-- Whether clients can select fields of what the action answers. -/
def hasFieldSelection : Bool :=
  shape.kind != .destroy

/-- The name of the generated function. -/
def functionName : String :=
  Naming.camelCase shape.rpcName

/-- The beginning of the names of the generated types. -/
def typePrefix : String :=
  Naming.pascalCase shape.rpcName

end ActionShape

/-- Whether the action changes or makes a record from an input. -/
def ActionKind.acceptsAttributes : ActionKind → Bool
  | .create | .update => true
  | .read | .destroy | .generic => false

/-- Whether the action works on a record that exists. -/
def ActionKind.findsRecord : ActionKind → Bool
  | .update | .destroy => true
  | .read | .create | .generic => false

/-- The attributes that an action accepts, in the order in which it lists them. -/
def acceptedAttributes (resource : Resource) (action : Action) : List Attribute :=
  if action.kind.acceptsAttributes then action.accept.filterMap resource.attribute? else []

/-- The fields of an action's input. -/
def inputFieldsOf (resource : Resource) (action : Action) : List InputField :=
  (acceptedAttributes resource action).map .stored ++ action.publicArguments.map .argument

/-- The name that the document gives to an input field. -/
def mappedInputName (resource : Resource) (action : Action) : InputField → String
  | .stored field => resource.mappedFieldName field.name
  | .argument field => resource.mappedArgumentName action.name field.name

/-- Sets the name for a source name. -/
def setRename (names : Renames) (source target : String) : Renames :=
  match names with
  | [] => [(source, target)]
  | (name, old) :: rest =>
    if name = source then (name, target) :: rest else (name, old) :: setRename rest source target

/-- The renames of input fields.  A field that keeps its name does not undo the rename of another
field with that name. -/
def inputRenames (resource : Resource) (action : Action) (fields : List InputField) : Renames :=
  fields.foldl
    (fun names field =>
      let mapped := mappedInputName resource action field
      if mapped = field.spec.name then names else setRename names field.spec.name mapped)
    []

/-- Whether a field must be given. -/
def isRequiredInput (field : FieldSpec) : Bool :=
  match field.default with
  | .null => !field.nullable
  | _ => false

/-- Whether an input with some fields is needed. -/
def inputCardinalityOf (fields : List InputField) : InputCardinality :=
  if fields.isEmpty then .none
  else if fields.any fun field => isRequiredInput field.spec then .required
  else .optional

/-- How an action finds its record.  No list of identities stands for the primary key, an empty one
for nothing at all. -/
def identityRequirementOf (action : Action) (rpcAction : RpcAction) : IdentityRequirement :=
  if action.kind.findsRecord then
    match rpcAction.identities with
    | none => .primaryKey
    | some [] => .none
    | some identities =>
      if identities = [primaryKeyIdentity] then .primaryKey else .named identities
  else .none

/-- Whether an action reads at most one record. -/
def isGetAction (action : Action) (rpcAction : RpcAction) : Bool :=
  action.kind == .read && (action.get || rpcAction.get || !rpcAction.getBy.isEmpty)

/-- How the results of an action can be paged.  Only reads of many records are. -/
def paginationOf (action : Action) (isGet : Bool) : Option PaginationKind :=
  if action.kind == .read && !isGet then
    action.pagination.bind fun pagination =>
      match pagination.offset, pagination.keyset with
      | true, true => some .both
      | true, false => some .offset
      | false, true => some .keyset
      | false, false => none
  else none

/-- The metadata fields that clients see: all unless something else is chosen, and of a list those
that exist, in the order of the action. -/
def exposedMetadata (action : Action) (rpcAction : RpcAction) : List FieldSpec :=
  match rpcAction.showMetadata with
  | none | some (.all true) => action.metadata
  | some (.all false) => []
  | some (.only names) => action.metadata.filter fun field => names.contains field.name

/-- The shape of an exposed action. -/
def ActionShape.of (resource : Resource) (action : Action) (rpcAction : RpcAction) : ActionShape :=
  let fields := inputFieldsOf resource action
  let isGet := isGetAction action rpcAction
  let pagination := paginationOf action isGet
  let whenPaged (flag : Pagination → Bool) : Bool :=
    pagination.isSome && ((action.pagination.map flag).getD false)
  { rpcName := rpcAction.name
    resourceId := resource.id
    actionName := action.name
    kind := action.kind
    requiresTenant := resource.multitenancy != .none
    identity := identityRequirementOf action rpcAction
    inputCardinality := inputCardinalityOf fields
    inputFields := fields
    pagination := pagination
    paginationRequired := whenPaged (·.required)
    countable := whenPaged (·.countable)
    supportsFiltering := action.kind == .read && !isGet
    isGet := isGet
    metadata := exposedMetadata action rpcAction
    metadataNames := rpcAction.metadataFieldNames
    inputNames := inputRenames resource action fields }

end TypedRpc
