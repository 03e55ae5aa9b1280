import TypedRpc.Target.Literal
import TypedRpc.Text.Grouping
import TypedRpc.Verification.Finding

/-!
# Checks of type names

A type name means one thing: no two reached resources have one, no enumeration or union has that of
a resource, no union has that of an enumeration, and all enumerations or unions of one name are the
same.  The entries of an enumeration and the variants of a union differ as well.
-/

namespace TypedRpc

/-- The declared names of the reached resources and the ids that have them. -/
def typeOwners (schema : Schema) (found : Discovery) : List (String × List String) :=
  (groupBy Resource.declaredTypeName (found.allResources.filterMap schema.resource?)).map
    fun (name, resources) => (name, resources.map (·.id))

/-- The faults of resources with one name. -/
def sharedTypeFaults (owners : List (String × List String)) : List Fault :=
  (owners.filter fun owner => 1 < owner.2.length).map fun (name, ids) => .sharedTypeName name ids

/-- The faults of enumerations that are named like a resource. -/
def enumNameFaults (owners : List (String × List String)) (found : Discovery) : List Fault :=
  found.enums.filterMap fun found =>
    (owners.lookup found.name).map (.enumNamedLikeRecord found.name found.origin)

/-- The faults of unions that are named like a resource or an enumeration. -/
def unionNameFaults (owners : List (String × List String)) (found : Discovery) : List Fault :=
  (found.unions.filter fun union =>
      (owners.lookup union.name).isSome || (found.enum? union.name).isSome).map
    fun union => .unionNamedLikeOther union.name union.origin

/-- The faults of enumerations that say something else than the first of their name, and the names
that have been reported. -/
def enumRedefinitions (found : Discovery) (reported : List String) :
    List EnumDef → List Fault × List String
  | [] => ([], reported)
  | occurrence :: rest =>
    match found.enum? occurrence.name with
    | none => enumRedefinitions found reported rest
    | some first =>
      if occurrence.values = first.values || reported.contains occurrence.name then
        enumRedefinitions found reported rest
      else
        let (others, reported) := enumRedefinitions found (occurrence.name :: reported) rest
        (.enumRedefined occurrence.name first.origin occurrence.origin :: others, reported)

/-- The faults of unions that say something else than the first of their name, given the names that
have been reported. -/
def unionRedefinitions (found : Discovery) (reported : List String) : List UnionDef → List Fault
  | [] => []
  | occurrence :: rest =>
    match found.union? occurrence.name with
    | none => unionRedefinitions found reported rest
    | some first =>
      if occurrence.sameShape first || reported.contains occurrence.name then
        unionRedefinitions found reported rest
      else
        .unionRedefined occurrence.name first.origin occurrence.origin ::
          unionRedefinitions found (occurrence.name :: reported) rest

/-- The faults of values with one entry. -/
def entryFaults (found : EnumDef) : List Fault :=
  (clashes Target.enumEntry found.values).map fun (entry, values) =>
    .sharedEnumEntry found.name found.origin entry values

/-- The faults of tags with one variant. -/
def variantFaults (found : UnionDef) : List Fault :=
  (clashes Naming.pascalCase (found.members.map Prod.fst)).map fun (variant, tags) =>
    .sharedVariant found.name found.origin variant tags

/-- The faults of all type names. -/
def typeNameFaults (schema : Schema) (found : Discovery) : List Fault :=
  let owners := typeOwners schema found
  let (enums, reported) := enumRedefinitions found [] found.enumOccurrences
  sharedTypeFaults owners ++ enumNameFaults owners found ++ unionNameFaults owners found ++
    enums ++ unionRedefinitions found reported found.unionOccurrences ++
    found.enums.flatMap entryFaults ++ found.unions.flatMap variantFaults

end TypedRpc
