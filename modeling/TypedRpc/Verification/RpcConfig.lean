import TypedRpc.Breakdown
import TypedRpc.Client.TypedQuery
import TypedRpc.Verification.Finding

/-!
# Checks of what is exposed

Something must be exposed, and whatever an entry names must exist: resources, actions, metadata
fields, attributes to get by, and the fields and relationships of typed queries.  The names that
clients call actions by must differ, because functions are named after them.
-/

namespace TypedRpc

/-- The faults of what an exposed action says about metadata. -/
def metadataFaults (resource : Resource) (action : Action) (rpcAction : RpcAction) : List Fault :=
  let declared := action.metadata.map (·.name)
  let shown :=
    match rpcAction.showMetadata with
    | some (.only names) => names
    | _ => []
  let unknown := (shown ++ rpcAction.metadataFieldNames.map Prod.fst).filter fun name =>
    !declared.contains name
  let invalid := rpcAction.metadataFieldNames.filter fun (name, mapped) =>
    declared.contains name && !Naming.isLegal mapped
  unknown.map (fun name => .unknownMetadata ⟨resource.id, rpcAction.name⟩ name action.name) ++
    invalid.map fun (name, mapped) => .invalidMetadataName rpcAction.name name mapped

/-- The attributes to get by that do not exist. -/
def getByFaults (resource : Resource) (rpcAction : RpcAction) : List Fault :=
  (rpcAction.getBy.filter fun key => (resource.attribute? key).isNone).map
    (.unknownGetBy ⟨resource.id, rpcAction.name⟩)

/-- The faults of what an exposed action refers to. -/
def referencedActionFaults (resource : Resource) (rpcAction : RpcAction) : List Fault :=
  match resource.action? rpcAction.action with
  | none => [.unknownAction ⟨resource.id, rpcAction.name⟩ rpcAction.action]
  | some action => metadataFaults resource action rpcAction ++ getByFaults resource rpcAction

/-- The fault of a name that is taken, given the names that are taken and the resources that took
them. -/
def takenNameFaults (taken : Renames) (resource : Resource) (rpcAction : RpcAction) :
    List Fault :=
  match taken.lookup rpcAction.name with
  | some previous => [.sharedRpcName rpcAction.name previous resource.id]
  | none => []

/-- The faults of some exposed actions of a resource. -/
def rpcActionFaults (taken : Renames) (resource : Resource) : List RpcAction → List Fault
  | [] => []
  | rpcAction :: rest =>
    takenNameFaults taken resource rpcAction ++ referencedActionFaults resource rpcAction ++
      rpcActionFaults (taken ++ [(rpcAction.name, resource.id)]) resource rest

/-! ## Typed queries -/

/-- Whether a resource has a member of a name. -/
def Resource.hasMember (resource : Resource) (name : String) : Bool :=
  (resource.attribute? name).isSome || (resource.calculation? name).isSome ||
    (resource.aggregate? name).isSome || (resource.relationship? name).isSome

/-- The name of a member that a key of a nested selection selects, if there is one. -/
def selectedMember? (resource : Resource) : Value → Option String
  | .text name => if resource.hasMember name then some name else none
  | _ => none

mutual

/-- The faults of an item of a selection. -/
def selectionFaults (schema : Schema) (query : String) (resource : Resource) :
    Selection → Except Breakdown (List Fault)
  | .field name =>
    if resource.hasMember name then .ok [] else .ok [.unknownSelection query name resource.id]
  | .stray _ => .ok []
  | .nested key inner =>
    match selectedMember? resource key with
    | none => .ok [.unknownSelection query key.plain resource.id]
    | some name =>
      match schema.destination? resource name with
      | none => .ok [.nestedWithoutRelationship query name]
      | some (_, destination) => selectionsFaults schema query destination inner
  | .unusable key kind =>
    match selectedMember? resource key with
    | none => .ok [.unknownSelection query key.plain resource.id]
    | some name =>
      match schema.destination? resource name with
      | none => .ok [.nestedWithoutRelationship query name]
      | some _ => .error (.noItems kind)

/-- The faults of the items of a selection. -/
def selectionsFaults (schema : Schema) (query : String) (resource : Resource) :
    List Selection → Except Breakdown (List Fault)
  | [] => .ok []
  | item :: rest => do
    let here ← selectionFaults schema query resource item
    let others ← selectionsFaults schema query resource rest
    pure (here ++ others)

end

/-- Whether a typed query names a read action. -/
def namesRead (resource : Resource) (query : TypedQuery) : Bool :=
  match resource.action? query.action with
  | some action => action.kind == .read
  | none => false

/-- The faults of a typed query. -/
def queryFaults (schema : Schema) (resource : Resource) (query : TypedQuery) :
    Except Breakdown (List Fault) :=
  if namesRead resource query then selectionsFaults schema query.name resource query.selection
  else .ok [.queryWithoutRead query.name resource.id query.action]

/-! ## All entries -/

/-- The faults of what domains expose, given the names that are taken. -/
def rpcResourceFaults (schema : Schema) (taken : Renames) :
    List RpcResource → Except Breakdown (List Fault)
  | [] => .ok []
  | entry :: rest =>
    match schema.resource? entry.resource with
    | none => do
      let others ← rpcResourceFaults schema taken rest
      pure (.unknownExposedResource entry.resource :: others)
    | some resource => do
      let queries ← entry.typedQueries.mapM (queryFaults schema resource)
      let names := entry.actions.map fun rpcAction => (rpcAction.name, resource.id)
      let others ← rpcResourceFaults schema (taken ++ names) rest
      pure (rpcActionFaults taken resource entry.actions ++ queries.flatten ++ others)

/-- The faults of references that lead nowhere.  An exposed resource that does not exist is reported
with the entry that exposes it. -/
def missingFaults (found : Discovery) : List Fault :=
  (found.missing.filter fun reference => reference.path != [reference.id]).map .unknownReference

/-- The faults of everything that is exposed. -/
def rpcConfigFaults (schema : Schema) (found : Discovery) : Except Breakdown (List Fault) := do
  let entries := schema.rpcResources
  let faults ← rpcResourceFaults schema [] entries
  pure ((if entries.isEmpty then [.nothingExposed] else []) ++ faults ++ missingFaults found)

end TypedRpc
