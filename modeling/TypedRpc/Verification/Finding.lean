import TypedRpc.Discovery.Basic
import TypedRpc.Naming.Legality
import TypedRpc.Text.Blocks
import TypedRpc.Text.Quoted

/-!
# Findings

What a verification may find in a schema.  A fault stops the generation, a warning does not.  Each
has a category, and wording that says where it was found; a fault about a name offers a corrected
name as well.
-/

namespace TypedRpc

/-- The categories of faults. -/
inductive FaultCategory where
  | rpcConfig
  | fieldNames
  | actionTypes
  | typeNames
  | identities
  deriving DecidableEq, Repr

/-- The word for a category. -/
def FaultCategory.word : FaultCategory → String
  | .rpcConfig => "invalid_rpc_config"
  | .fieldNames => "invalid_field_names"
  | .actionTypes => "invalid_action_types"
  | .typeNames => "duplicate_type_names"
  | .identities => "invalid_identities"

/-- The title of a category in a report. -/
def FaultCategory.title : FaultCategory → String
  | .rpcConfig => "Invalid RPC configuration"
  | .fieldNames => "Invalid field names (question marks or digits preceded by underscores)"
  | .actionTypes => "Invalid field names in action argument, return or metadata types"
  | .typeNames => "Duplicate Kotlin type names"
  | .identities => "Invalid identity configuration in RPC actions"

/-- What a field of a resource is. -/
inductive MemberKind where
  | stored
  | relationship
  | calculation
  | aggregate
  deriving DecidableEq, Repr

/-- The word for a kind of member. -/
def MemberKind.word : MemberKind → String
  | .stored => "attribute"
  | .relationship => "relationship"
  | .calculation => "calculation"
  | .aggregate => "aggregate"

/-- An exposed action as it is named in findings. -/
structure ActionPlace where
  resourceId : String
  rpcName : String
  deriving DecidableEq, Repr

/-- The wording for an exposed action. -/
def ActionPlace.text (place : ActionPlace) : String :=
  place.resourceId ++ ": RPC action '" ++ place.rpcName ++ "'"

/-- Something that stops the generation. -/
inductive Fault where
  | nothingExposed
  | unknownExposedResource (id : String)
  | sharedRpcName (name previous id : String)
  | unknownAction (place : ActionPlace) (action : String)
  | unknownMetadata (place : ActionPlace) (field action : String)
  | invalidMetadataName (rpcName field mapped : String)
  | unknownGetBy (place : ActionPlace) (key : String)
  | queryWithoutRead (query id action : String)
  | unknownSelection (query field id : String)
  | nestedWithoutRelationship (query field : String)
  | unknownReference (reference : Reference)
  | invalidFieldName (id : String) (kind : MemberKind) (field mapped : String)
  | sharedRecordProperty (id property : String) (fields : List String)
  | invalidArgumentName (place : ActionPlace) (argument mapped : String)
  | invalidNestedName (place : ActionPlace) (location field mapped : String)
  | sharedInputProperty (place : ActionPlace) (property : String) (fields : List String)
  | sharedTypeName (name : String) (ids : List String)
  | enumNamedLikeRecord (name : String) (origin : AccessPath) (ids : List String)
  | unionNamedLikeOther (name : String) (origin : AccessPath)
  | enumRedefined (name : String) (first second : AccessPath)
  | unionRedefined (name : String) (first second : AccessPath)
  | sharedEnumEntry (name : String) (origin : AccessPath) (entry : String) (values : List String)
  | sharedVariant (name : String) (origin : AccessPath) (variant : String) (tags : List String)
  | noPrimaryKey (place : ActionPlace) (action : String)
  | unknownIdentity (place : ActionPlace) (action identity : String) (available : List String)
  deriving DecidableEq, Repr

namespace Fault

/-- The category of a fault. -/
def category : Fault → FaultCategory
  | .nothingExposed | .unknownExposedResource .. | .sharedRpcName .. | .unknownAction ..
  | .unknownMetadata .. | .invalidMetadataName .. | .unknownGetBy .. | .queryWithoutRead ..
  | .unknownSelection .. | .nestedWithoutRelationship .. | .unknownReference .. => .rpcConfig
  | .invalidFieldName .. | .sharedRecordProperty .. => .fieldNames
  | .invalidArgumentName .. | .invalidNestedName .. | .sharedInputProperty .. => .actionTypes
  | .sharedTypeName .. | .enumNamedLikeRecord .. | .unionNamedLikeOther .. | .enumRedefined ..
  | .unionRedefined .. | .sharedEnumEntry .. | .sharedVariant .. => .typeNames
  | .noPrimaryKey .. | .unknownIdentity .. => .identities

/-- The corrected name that a fault about a name offers. -/
def suggestion? : Fault → Option String
  | .invalidMetadataName _ _ mapped | .invalidFieldName _ _ _ mapped
  | .invalidArgumentName _ _ mapped | .invalidNestedName _ _ _ mapped =>
    some (Naming.suggest mapped)
  | _ => none

/-- The wording for fields that are called the same. -/
def sharedPropertyMessage (place property : String) (fields : List String) : String :=
  place ++ " fields " ++ Text.listing fields ++ " all map to the Kotlin property '" ++ property ++
    "'"

/-- The wording for the identities that could have been named. -/
def availableMessage (available : List String) : String :=
  if available.isEmpty then "No identities are defined on this resource."
  else "Available identities: " ++ Text.listing available

/-- Texts between quotation marks. -/
def quotedListing (texts : List String) : String :=
  Text.listing (texts.map Text.quote)

/-- The wording of a fault. -/
def message : Fault → String
  | .nothingExposed => "No resources are exposed through RPC."
  | .unknownExposedResource id => "RPC configuration references unknown resource '" ++ id ++ "'"
  | .sharedRpcName name previous id =>
    "RPC action name '" ++ name ++ "' is used by both " ++ previous ++ " and " ++ id
  | .unknownAction place action =>
    "RPC action '" ++ place.rpcName ++ "' references unknown action '" ++ action ++ "' on " ++
      place.resourceId
  | .unknownMetadata place field action =>
    "RPC action '" ++ place.rpcName ++ "' references unknown metadata field '" ++ field ++
      "' of action '" ++ action ++ "' on " ++ place.resourceId
  | .invalidMetadataName rpcName field mapped =>
    "RPC action '" ++ rpcName ++ "' maps metadata field '" ++ field ++ "' to invalid name '" ++
      mapped ++ "'"
  | .unknownGetBy place key =>
    "RPC action '" ++ place.rpcName ++ "' gets by unknown attribute '" ++ key ++ "' on " ++
      place.resourceId
  | .queryWithoutRead query id action =>
    "Typed query '" ++ query ++ "' must reference a read action on " ++ id ++ ", got '" ++ action ++
      "'"
  | .unknownSelection query field id =>
    "Typed query '" ++ query ++ "' selects unknown field '" ++ field ++ "' on " ++ id
  | .nestedWithoutRelationship query field =>
    "Typed query '" ++ query ++ "' nests a selection under '" ++ field ++
      "', which is not a relationship to a known resource"
  | .unknownReference reference =>
    reference.path.text ++ " references unknown resource '" ++ reference.id ++ "'"
  | .invalidFieldName id kind field _ => id ++ ": " ++ kind.word ++ " " ++ field
  | .sharedRecordProperty id property fields =>
    sharedPropertyMessage (id ++ ": record") property fields
  | .invalidArgumentName place argument _ => place.text ++ ": argument " ++ argument
  | .invalidNestedName place location field _ =>
    place.text ++ ": " ++ location ++ " field " ++ field
  | .sharedInputProperty place property fields =>
    sharedPropertyMessage (place.text ++ ": input") property fields
  | .sharedTypeName name ids => "Type name '" ++ name ++ "' is used by: " ++ Text.listing ids
  | .enumNamedLikeRecord name origin ids =>
    "Enum '" ++ name ++ "' at " ++ origin.text ++ " collides with the record type of " ++
      Text.listing ids
  | .unionNamedLikeOther name origin =>
    "Union '" ++ name ++ "' at " ++ origin.text ++ " collides with another type name"
  | .enumRedefined name first second =>
    "Enum '" ++ name ++ "' is defined with different values at " ++ first.text ++ " and " ++
      second.text
  | .unionRedefined name first second =>
    "Union '" ++ name ++ "' is defined with different members at " ++ first.text ++ " and " ++
      second.text
  | .sharedEnumEntry name origin entry values =>
    "Enum '" ++ name ++ "' at " ++ origin.text ++ ": values " ++ quotedListing values ++
      " all map to the entry " ++ entry
  | .sharedVariant name origin variant tags =>
    "Union '" ++ name ++ "' at " ++ origin.text ++ ": tags " ++ quotedListing tags ++
      " all map to the variant " ++ variant
  | .noPrimaryKey place action =>
    "RPC action '" ++ place.rpcName ++ "' (action: " ++ action ++
      ") locates records by primary key, but " ++ place.resourceId ++ " has no primary key"
  | .unknownIdentity place action identity available =>
    "RPC action '" ++ place.rpcName ++ "' (action: " ++ action ++
      ") references unknown identity '" ++ identity ++ "' on " ++ place.resourceId ++ ". " ++
      availableMessage available

end Fault

/-- Something that does not stop the generation. -/
inductive Warning where
  | notExposed (id : String)
  | nonRpcReference (reference : Reference)
  deriving DecidableEq, Repr

namespace Warning

/-- The word for the category of a warning. -/
def category : Warning → String
  | .notExposed _ => "missing_rpc_config"
  | .nonRpcReference _ => "non_rpc_references"

/-- The wording of a warning. -/
def message : Warning → String
  | .notExposed id => "Resource " ++ id ++ " is not exposed through RPC"
  | .nonRpcReference reference =>
    "Resource " ++ reference.id ++
      " is referenced by an exposed resource but not exposed through RPC (" ++
      reference.path.text ++ ")"

end Warning
end TypedRpc
