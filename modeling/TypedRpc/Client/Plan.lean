import TypedRpc.Action.Exposed
import TypedRpc.Discovery.Traversal
import TypedRpc.Log
import TypedRpc.Verification.Basic

/-!
# Plans

Everything that is known about a run before any text is written: the exposed actions, the types that
can be reached from them and from the resources that clients have access to, and what the
verification has found.
-/

namespace TypedRpc

/-- A run before any text is written. -/
structure Plan where
  exposed : List ExposedAction
  discovered : Discovery
  verification : Verification
  deriving Repr

/-- The shapes of the exposed actions. -/
def Plan.shapes (plan : Plan) : List ActionShape :=
  plan.exposed.map ExposedAction.shape

/-- The types that can be reached from everything that is exposed. -/
def Schema.discovery (schema : Schema) : Discovery :=
  discover schema schema.exposedResourceIds (actionRoots schema.exposedActions)

/-- The plan for a schema. -/
def Plan.make (schema : Schema) (options : Options) : Except Breakdown Plan := do
  let discovered := schema.discovery
  let verification ← verify schema discovered options
  pure ⟨schema.exposedActions, discovered, verification⟩

/-- The log of a discovery: each visit, and a summary. -/
def Discovery.logLines (found : Discovery) : List LogLine :=
  let line (text : String) : LogLine := ⟨.debug, .discovery, text⟩
  found.visited.map (fun id => line ("Visiting resource " ++ id)) ++ [
    line ("Discovered " ++ toString found.resources.length ++ " resources, " ++
      toString found.embedded.length ++ " embedded shapes, " ++ toString found.enums.length ++
      " enums, " ++ toString found.unions.length ++ " unions")]

/-- The log of a plan. -/
def Plan.logLines (plan : Plan) : List LogLine :=
  plan.discovered.logLines ++ [⟨.debug, .generation,
    "Planned " ++ toString plan.exposed.length ++ " exposed actions: " ++
      toString plan.verification.faults.length ++ " errors, " ++
      toString plan.verification.warnings.length ++ " warnings"⟩]

end TypedRpc
