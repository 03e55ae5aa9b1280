import TypedRpc.Action.Shape
import TypedRpc.Discovery.Basic

/-!
# Exposed actions

The actions that clients may call, together with what they expose.  Entries whose resource or action
does not exist are left out here; it is the verification that reports them.
-/

namespace TypedRpc

/-- An action that clients may call, with the resource and the action behind it. -/
structure ExposedAction where
  resource : Resource
  action : Action
  rpcAction : RpcAction
  deriving Repr

/-- The shape of the action. -/
def ExposedAction.shape (exposed : ExposedAction) : ActionShape :=
  .of exposed.resource exposed.action exposed.rpcAction

/-- The actions that clients may call on one resource. -/
def exposedOn (resource : Resource) (rpcActions : List RpcAction) : List ExposedAction :=
  rpcActions.filterMap fun rpcAction =>
    (resource.action? rpcAction.action).map fun action => ⟨resource, action, rpcAction⟩

/-- The actions that clients may call, in the order of the document. -/
def Schema.exposedActions (schema : Schema) : List ExposedAction :=
  schema.rpcResources.flatMap fun rpcResource =>
    match schema.resource? rpcResource.resource with
    | some resource => exposedOn resource rpcResource.actions
    | none => []

/-- The root for the type that a generic action returns. -/
def returnRoots (base : AccessPath) (exposed : ExposedAction) : List TypeRoot :=
  match exposed.action.kind, exposed.action.returns with
  | .generic, some type => [⟨exposed.rpcAction.name, type, base ++ ["returns"]⟩]
  | _, _ => []

/-- The types that an exposed action mentions: those of its arguments, of what it returns, and of
its metadata. -/
def ExposedAction.roots (exposed : ExposedAction) : List TypeRoot :=
  let base := [exposed.resource.shortName, exposed.rpcAction.name]
  (exposed.action.publicArguments.map fun argument =>
      TypeRoot.mk argument.name argument.type (base ++ [argument.name])) ++
    returnRoots base exposed ++
    (exposed.shape.metadata.map fun field =>
      TypeRoot.mk field.name field.type (base ++ [field.name]))

/-- The types that the exposed actions mention. -/
def actionRoots (exposed : List ExposedAction) : List TypeRoot :=
  exposed.flatMap ExposedAction.roots

end TypedRpc
