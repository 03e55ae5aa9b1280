import TypedRpc.Client.Filter

/-!
# Call parameters and payloads

An action is called with a record of parameters, from which the payload of the request is built.
Each key of a payload is there exactly when the shape of the action asks for it, and takes its value
from a parameter: directly, or only if the parameter is there, or with something in its place.
-/

namespace TypedRpc

open Target (TypeExpr ConfigField ConfigRecord)
open Text (joinLines)

/-- How a value is put into a payload. -/
inductive PayloadEncoding where
  /-- As it is. -/
  | plain
  /-- By whatever it turns out to be. -/
  | dynamic
  /-- By its declared type. -/
  | typed
  deriving DecidableEq, Repr

/-- Where the value under a key comes from. -/
inductive PayloadSource where
  /-- A text that is always the same. -/
  | constant (text : String)
  /-- A parameter that is there. -/
  | parameter (name : String)
  /-- A parameter, or a new value of a type when it is absent. -/
  | parameterOr (name type : String)
  /-- A parameter; without it there is no key. -/
  | ifPresent (name : String)
  deriving DecidableEq, Repr

/-- A key of a payload and its value. -/
structure PayloadEntry where
  key : String
  source : PayloadSource
  encoding : PayloadEncoding := .plain
  deriving DecidableEq, Repr

/-- A value in an encoding. -/
def PayloadEncoding.apply : PayloadEncoding → String → String
  | .plain, value => value
  | .dynamic, value => "anyToJsonElement(" ++ value ++ ")"
  | .typed, value => "rpcJson.encodeToJsonElement(" ++ value ++ ")"

/-- The statement that puts a value under a key. -/
def putText (key value : String) : String :=
  "put(\"" ++ key ++ "\", " ++ value ++ ")"

/-- The statement for an entry of a payload. -/
def PayloadEntry.text (entry : PayloadEntry) : String :=
  let put (value : String) := putText entry.key (entry.encoding.apply value)
  match entry.source with
  | .constant text => put (Target.stringLiteral text)
  | .parameter name => put ("config." ++ name)
  | .parameterOr name type => put ("(config." ++ name ++ " ?: " ++ type ++ "())")
  | .ifPresent name => "config." ++ name ++ "?.let \x7b " ++ put "it" ++ " \x7d"

namespace ActionShape

variable (shape : ActionShape)

/-! ## Payloads -/

/-- The entry with the name of the action. -/
def actionEntry : PayloadEntry :=
  ⟨"action", .constant shape.rpcName, .plain⟩

/-- The entries that say whose record is meant and what becomes of it. -/
def identityEntries : List PayloadEntry :=
  (if shape.requiresTenant then [⟨"tenant", .parameter "tenant", .plain⟩] else []) ++
  (if shape.identity = .none then [] else [⟨"identity", .parameter "identity", .dynamic⟩]) ++
  (match shape.inputCardinality with
    | .none => []
    | .required => [⟨"input", .parameter "input", .typed⟩]
    | .optional => [⟨"input", .ifPresent "input", .typed⟩])

/-- The entry that asks for a page. -/
def pageEntries : List PayloadEntry :=
  match shape.pageConfigName? with
  | none => []
  | some name =>
    if shape.paginationRequired then [⟨"page", .parameter "page", .typed⟩]
    else [⟨"page", .parameterOr "page" name, .typed⟩]

/-- The entries of the payload of a call. -/
def payload (options : Options) : List PayloadEntry :=
  shape.actionEntry :: shape.identityEntries ++
    (if shape.hasFieldSelection then [⟨"fields", .parameter "fields", .dynamic⟩] else []) ++
    (if shape.supportsFiltering then
      [⟨"filter", .ifPresent "filter", if options.filterTypes then .typed else .dynamic⟩,
        ⟨"sort", .ifPresent "sort", .plain⟩]
    else []) ++
    shape.pageEntries ++
    (if shape.metadata.isEmpty then []
      else [⟨"metadataFields", .ifPresent "metadataFields", .dynamic⟩])

/-- The entries of the payload of a validation. -/
def validationPayload : List PayloadEntry :=
  shape.actionEntry :: shape.identityEntries

/-- The function that builds the payload of a call. -/
def payloadText (options : Options) : String :=
  joinLines [
    "fun build" ++ shape.typePrefix ++ "Payload(config: " ++ shape.configName ++
      "): JsonObject = buildJsonObject \x7b",
    joinLines ((shape.payload options).map fun entry => "    " ++ entry.text),
    "\x7d"]

end ActionShape

/-! ## Parameters -/

/-- The additional headers of a request. -/
def headersField : ConfigField :=
  ⟨"headers", .named "Map<String, String>", some "emptyMap()"⟩

/-- The parameter that asks for a page. -/
def ActionShape.pageFields (shape : ActionShape) : List ConfigField :=
  match shape.pageConfigName? with
  | none => []
  | some name =>
    if shape.paginationRequired then [⟨"page", .named name, none⟩]
    else [⟨"page", .nullable (.named name), some "null"⟩]

namespace Typing

variable (typing : Typing)

/-- The type of the value that identifies a record: that of the only attribute of the primary key, a
map for a key of several attributes, and anything for named identities. -/
def identityType (shape : ActionShape) (resource : Resource) : TypeExpr :=
  match shape.identity with
  | .primaryKey =>
    match resource.primaryKey with
    | [key] => typing.valueType key.name key.type false
    | _ => Target.openMap
  | _ => Target.anyType

/-- The parameters that calls and validations share. -/
def commonFields (shape : ActionShape) (resource : Resource) : List ConfigField :=
  (if shape.requiresTenant then [⟨"tenant", .named "String", none⟩] else []) ++
  (if shape.identity = .none then []
    else [⟨"identity", typing.identityType shape resource, none⟩]) ++
  (match shape.inputName? with
    | none => []
    | some name =>
      if shape.inputCardinality = .required then [⟨"input", .named name, none⟩]
      else [⟨"input", .nullable (.named name), some "null"⟩])

/-- The type of filters. -/
def filterType (shape : ActionShape) : TypeExpr :=
  if typing.options.filterTypes then .named (typing.filterInputName shape.resourceId)
  else Target.openMap

/-- The record of parameters of a call. -/
def configRecord (shape : ActionShape) (resource : Resource) : ConfigRecord where
  name := shape.configName
  fields :=
    typing.commonFields shape resource ++
    (if shape.hasFieldSelection then [⟨"fields", .list Target.anyType, some "emptyList()"⟩]
      else []) ++
    (if shape.supportsFiltering then
      [⟨"filter", .nullable (typing.filterType shape), some "null"⟩,
        ⟨"sort", .nullable (.named "String"), some "null"⟩]
    else []) ++
    shape.pageFields ++
    (if shape.metadata.isEmpty then []
      else [⟨"metadataFields", .nullable (.list (.named "String")), some "null"⟩]) ++
    [headersField]

/-- The record of parameters of a validation. -/
def validationRecord (shape : ActionShape) (resource : Resource) : ConfigRecord where
  name := shape.validationConfigName
  fields := typing.commonFields shape resource ++ [headersField]

end Typing
end TypedRpc
