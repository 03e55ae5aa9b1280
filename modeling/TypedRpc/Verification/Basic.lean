import TypedRpc.Options.Basic
import TypedRpc.Verification.Names
import TypedRpc.Verification.RpcConfig
import TypedRpc.Verification.TypeNames

/-!
# Verification

Everything that can be wrong with a schema is looked for before anything is generated, and all of it
is reported together.  Besides faults there are warnings about resources that clients cannot reach;
the options may turn them off.
-/

namespace TypedRpc

/-- The fault of an identity that an action cannot find its record by. -/
def identityFault? (exposed : ExposedAction) (identity : String) : Option Fault :=
  let resource := exposed.resource
  if identity = primaryKeyIdentity then
    if resource.primaryKey.isEmpty then some (.noPrimaryKey exposed.place exposed.action.name)
    else none
  else if (resource.identity? identity).isNone then
    some (.unknownIdentity exposed.place exposed.action.name identity
      (resource.identities.map (·.name)))
  else none

/-- The faults of how an exposed action finds its record. -/
def exposedIdentityFaults (exposed : ExposedAction) : List Fault :=
  if exposed.action.kind.findsRecord then
    ((exposed.rpcAction.identities).getD [primaryKeyIdentity]).filterMap (identityFault? exposed)
  else []

/-- The faults of how actions find their records. -/
def identityFaults (schema : Schema) : List Fault :=
  schema.checkedActions.flatMap exposedIdentityFaults

theorem identityFaults_eq (schema : Schema) :
    identityFaults schema = schema.exposedActions.flatMap exposedIdentityFaults := by
  rw [identityFaults, schema.checkedActions_eq]

/-- Warnings about resources of domains that are not exposed. -/
def coverageWarnings (schema : Schema) : List Warning :=
  (schema.domainResourceIds.filter fun id => !schema.exposedResourceIds.contains id).map
    .notExposed

/-- Warnings about references to resources that are not exposed, each resource once. -/
def referenceWarnings (schema : Schema) (reported : List String) :
    List Reference → List Warning
  | [] => []
  | reference :: rest =>
    match schema.resource? reference.id with
    | none => referenceWarnings schema reported rest
    | some resource =>
      if resource.embedded || schema.exposedResourceIds.contains resource.id ||
          reported.contains resource.id then
        referenceWarnings schema reported rest
      else
        .nonRpcReference ⟨resource.id, reference.path⟩ ::
          referenceWarnings schema (resource.id :: reported) rest

/-- What a verification has found. -/
structure Verification where
  faults : List Fault
  warnings : List Warning
  deriving Repr

/-- Looks for everything that is wrong with a schema. -/
def verify (schema : Schema) (found : Discovery) (options : Options) :
    Except Breakdown Verification := do
  let rpcConfig ← rpcConfigFaults schema found
  pure {
    faults := rpcConfig ++ fieldNameFaults schema found ++ actionTypeFaults schema ++
      typeNameFaults schema found ++ identityFaults schema
    warnings := (if options.warnOnMissingRpc then coverageWarnings schema else []) ++
      (if options.warnOnNonRpcReferences then referenceWarnings schema [] found.references
        else []) }

namespace Verification

variable (verification : Verification)

/-- Whether the generation is stopped. -/
def hasFaults : Bool :=
  !verification.faults.isEmpty

/-- The faults by category, in the order in which categories first appear. -/
def grouped : List (FaultCategory × List Fault) :=
  groupBy Fault.category verification.faults

/-- The line of a report for a fault. -/
def faultLine (fault : Fault) : String :=
  "  - " ++ fault.message ++
    ((fault.suggestion?.map fun name => " (suggested: " ++ name ++ ")").getD "")

/-- The faults as a report, grouped by category. -/
def report : String :=
  Text.joinBlocks (verification.grouped.map fun (category, faults) =>
    Text.joinLines ((category.title ++ ":") :: faults.map faultLine))

end Verification
end TypedRpc
