import Mathlib.Algebra.Order.Group.Multiset
import TypedRpc.Proofs.Discovery.Reachability

/-!
# Every occurrence is noted once

A resource may be met many times, also while it is being traversed, and its fields are traversed at
the first time only.  How often something has been noted can therefore be read off the schema: it is
counted in each type that a visited resource shows, and in each type of a root, and a type is
counted without entering any resource that it refers to.

* `TypeRef.parts`: the types inside a type, none of which belongs to another resource.
* `TypeRef.enumsIn`, `TypeRef.unionsIn`, `TypeRef.referencesIn`: what is counted in a type.
* `typeFindings_eq_parts`: a traversal notes of a type what its parts show.
* `occurrences_counted_once`: the statement about whole traversals.
-/

namespace TypedRpc

/-! ## What types show themselves -/

namespace TypeRef

mutual

/-- A type and the types inside it, each with the name of the value that has it.  The items of an
array have the name of the array. -/
def parts (owner : String) : TypeRef → List (String × TypeRef)
  | .array item constraints => (owner, .array item constraints) :: parts owner item
  | .union members name => (owner, .union members name) :: memberParts members
  | .struct container fields instanceOf renames =>
    (owner, .struct container fields instanceOf renames) :: fieldParts fields
  | .primitive kind constraints => [(owner, .primitive kind constraints)]
  | .enum values name => [(owner, .enum values name)]
  | .resource id => [(owner, .resource id)]
  | .unknown name => [(owner, .unknown name)]

/-- The types inside the members of a union, which are named by their tags. -/
def memberParts : List (String × TypeRef) → List (String × TypeRef)
  | [] => []
  | (tag, type) :: rest => parts tag type ++ memberParts rest

/-- The types inside the fields of a struct. -/
def fieldParts : List (Field TypeRef) → List (String × TypeRef)
  | [] => []
  | field :: rest => parts field.name field.type ++ fieldParts rest

end

/-- The enumerations inside a type, by name and values. -/
def enumsIn (owner : String) (type : TypeRef) : List (String × List String) :=
  (type.parts owner).filterMap fun
    | (holder, .enum values name) => some (Discovery.enumName holder name, values)
    | _ => none

/-- The unions inside a type, by name and members. -/
def unionsIn (owner : String) (type : TypeRef) : List (String × List (String × TypeRef)) :=
  (type.parts owner).filterMap fun
    | (holder, .union members name) => some (Discovery.unionName holder name, members)
    | _ => none

end TypeRef

namespace Schema

/-- The resource that a struct is an instance of, if there is such a resource. -/
def instance? (schema : Schema) (instanceOf : Option String) : Option String :=
  (given? instanceOf).filter fun id => (schema.resource? id).isSome

/-- The resources that a type refers to, among them those that structs are instances of. -/
def referencesIn (schema : Schema) (owner : String) (type : TypeRef) : List String :=
  (type.parts owner).filterMap fun
    | (_, .resource id) => some id
    | (_, .struct _ _ instanceOf _) => schema.instance? instanceOf
    | _ => none

/-- The types that a resource shows, with the names of the values that have them. -/
def shownTypes (schema : Schema) (resource : Resource) : List (String × TypeRef) :=
  (resource.publicAttributes.map fun stored => (stored.name, stored.type)) ++
    (resource.publicCalculations.map fun calculation => (calculation.name, calculation.type)) ++
    (resource.publicAggregates.filter (·.hasBackingField)).map fun aggregate =>
      (aggregate.name, schema.aggregateType resource aggregate)

end Schema

/-- The types of some roots, with the names of the values that have them. -/
def rootTypes (roots : List TypeRoot) : List (String × TypeRef) :=
  roots.map fun root => (root.owner, root.type)

namespace Discovery

/-! ## A traversal notes what the parts of types show -/

/-- What is noted of a part of a type, the parts inside it apart. -/
def partFinding? (schema : Schema) : String × TypeRef → Option Finding
  | (holder, .enum values name) => some (.enum (enumName holder name) values)
  | (holder, .union members name) => some (.union (unionName holder name) members)
  | (_, .struct _ _ instanceOf _) => (schema.instance? instanceOf).map .reference
  | (_, .resource id) => some (.reference id)
  | (_, .array _ _) | (_, .primitive _ _) | (_, .unknown _) => none

theorem instanceFindings_eq (schema : Schema) (instanceOf : Option String) :
    instanceFindings schema instanceOf =
      ((schema.instance? instanceOf).map Finding.reference).toList := by
  unfold instanceFindings Schema.instance?
  cases given? instanceOf with
  | none => rfl
  | some id => by_cases known : (schema.resource? id).isSome <;> simp [known, Option.filter_some]

mutual

/-- A traversal notes of a type what its parts show, in their order. -/
theorem typeFindings_eq_parts (schema : Schema) :
    ∀ (owner : String) (type : TypeRef),
      typeFindings schema owner type = (type.parts owner).filterMap (partFinding? schema)
  | owner, .array item constraints => by
    rw [typeFindings, TypeRef.parts, typeFindings_eq_parts schema owner item]
    rfl
  | owner, .union members name => by
    rw [typeFindings, TypeRef.parts, memberFindings_eq_parts schema members]
    rfl
  | owner, .struct container fields instanceOf renames => by
    rw [typeFindings, TypeRef.parts, fieldFindings_eq_parts schema fields, instanceFindings_eq,
      List.filterMap_cons, partFinding?]
    cases schema.instance? instanceOf <;> rfl
  | _, .primitive _ _ | _, .enum _ _ | _, .resource _ | _, .unknown _ => by
    rw [typeFindings, TypeRef.parts]
    rfl

theorem memberFindings_eq_parts (schema : Schema) :
    ∀ members : List (String × TypeRef), memberFindings schema members =
      (TypeRef.memberParts members).filterMap (partFinding? schema)
  | [] => by
    rw [memberFindings, TypeRef.memberParts, List.filterMap_nil]
  | (tag, type) :: rest => by
    rw [memberFindings, TypeRef.memberParts, List.filterMap_append,
      typeFindings_eq_parts schema tag type, memberFindings_eq_parts schema rest]

theorem fieldFindings_eq_parts (schema : Schema) :
    ∀ fields : List (Field TypeRef), fieldFindings schema fields =
      (TypeRef.fieldParts fields).filterMap (partFinding? schema)
  | [] => by
    rw [fieldFindings, TypeRef.fieldParts, List.filterMap_nil]
  | field :: rest => by
    rw [fieldFindings, TypeRef.fieldParts, List.filterMap_append,
      typeFindings_eq_parts schema field.name field.type, fieldFindings_eq_parts schema rest]

end

/-! ## One kind of findings at a time -/

/-- An enumeration that has been noted. -/
def Finding.enum? : Finding → Option (String × List String)
  | .enum name values => some (name, values)
  | _ => none

/-- A union that has been noted. -/
def Finding.union? : Finding → Option (String × List (String × TypeRef))
  | .union name members => some (name, members)
  | _ => none

/-- A reference that has been noted. -/
def Finding.reference? : Finding → Option String
  | .reference id => some id
  | _ => none

section Kinds

variable {schema : Schema} {α : Type} {keep : Finding → Option α}

/-- What is kept of the findings in a type is picked from its parts. -/
theorem filterMap_typeFindings {pick : String × TypeRef → Option α}
    (same : ∀ part, (partFinding? schema part).bind keep = pick part) (owner : String)
    (type : TypeRef) :
    (typeFindings schema owner type).filterMap keep = (type.parts owner).filterMap pick := by
  rw [typeFindings_eq_parts, List.filterMap_filterMap]
  exact congrArg (List.filterMap · _) (funext same)

variable (schema)

theorem filterMap_enum (owner : String) (type : TypeRef) :
    (typeFindings schema owner type).filterMap Finding.enum? = type.enumsIn owner := by
  refine filterMap_typeFindings (fun ⟨holder, part⟩ => ?_) owner type
  cases part with
  | struct _ _ instanceOf _ =>
    rw [partFinding?]
    cases schema.instance? instanceOf <;> rfl
  | _ => rfl

theorem filterMap_union (owner : String) (type : TypeRef) :
    (typeFindings schema owner type).filterMap Finding.union? = type.unionsIn owner := by
  refine filterMap_typeFindings (fun ⟨holder, part⟩ => ?_) owner type
  cases part with
  | struct _ _ instanceOf _ =>
    rw [partFinding?]
    cases schema.instance? instanceOf <;> rfl
  | _ => rfl

theorem filterMap_reference (owner : String) (type : TypeRef) :
    (typeFindings schema owner type).filterMap Finding.reference? =
      schema.referencesIn owner type := by
  refine filterMap_typeFindings (fun ⟨holder, part⟩ => ?_) owner type
  cases part with
  | struct _ _ instanceOf _ =>
    simp only [partFinding?]
    cases schema.instance? instanceOf <;> rfl
  | _ => rfl

end Kinds

/-! ## Whole traversals -/

/-- What is counted in some types, all in all. -/
def total {α : Type} (count : String → TypeRef → List α) (types : List (String × TypeRef)) :
    Multiset α :=
  (types.map fun value => (↑(count value.1 value.2) : Multiset α)).sum

theorem coe_flatMap {α β : Type} (f : α → List β) (items : List α) :
    (↑(items.flatMap f) : Multiset β) = (items.map fun item => (↑(f item) : Multiset β)).sum := by
  induction items with
  | nil => rfl
  | cons item rest ih =>
    rw [List.flatMap_cons, ← Multiset.coe_add, ih, List.map_cons, List.sum_cons]

/-- The resources that have been visited. -/
def visitedResources (schema : Schema) (found : Discovery) : List Resource :=
  found.visited.filterMap schema.resource?

section Totals

variable {schema : Schema} {α : Type} {keep : Finding → Option α}
  {count : String → TypeRef → List α}
  (counted : ∀ owner type, (typeFindings schema owner type).filterMap keep = count owner type)

include counted

/-- What is kept of the findings in some types is counted in them. -/
theorem total_eq (types : List (String × TypeRef)) :
    (↑((types.flatMap fun value => typeFindings schema value.1 value.2).filterMap keep) :
      Multiset α) = total count types := by
  rw [List.filterMap_flatMap, coe_flatMap, total]
  simp only [counted]

/-- What is kept of the findings of a resource is counted in the types that it shows, but for its
relationships. -/
theorem filterMap_resourceFindings (resource : Resource) :
    (↑((resourceFindings schema resource).filterMap keep) : Multiset α) =
      total count (schema.shownTypes resource) +
        ↑((resource.publicRelationships.map
          (Finding.reference <| Relationship.destination ·)).filterMap keep) := by
  rw [← total_eq counted, Multiset.coe_add, ← List.filterMap_append, Schema.shownTypes,
    List.flatMap_append, List.flatMap_append, List.flatMap_map, List.flatMap_map,
    List.flatMap_map]
  rfl

/-- **What a traversal keeps is counted once** in each root and in each visited resource. -/
theorem filterMap_findings_discover (exposed : List String) (roots : List TypeRoot) :
    (↑((discover schema exposed roots).findings.filterMap keep) : Multiset α) =
      total count (rootTypes roots) +
        ((visitedResources schema (discover schema exposed roots)).map fun resource =>
          total count (schema.shownTypes resource) +
            ↑((resource.publicRelationships.map
              (Finding.reference <| Relationship.destination ·)).filterMap keep)).sum := by
  have noted := (findings_discover schema exposed roots).filterMap keep
  rw [Multiset.coe_eq_coe.mpr noted, List.filterMap_append, ← Multiset.coe_add,
    ← total_eq counted, rootTypes, List.flatMap_map, visitFindings, List.filterMap_flatMap,
    coe_flatMap]
  simp only [filterMap_resourceFindings counted]
  rfl

end Totals

/-! ## One kind at a time -/

@[simp] theorem enum?_findings (found : Discovery) :
    found.findings.filterMap Finding.enum? =
      found.enumOccurrences.map fun enum => (enum.name, enum.values) := by
  simp [findings, Finding.enum?, List.filterMap_map, Function.comp_def]

@[simp] theorem union?_findings (found : Discovery) :
    found.findings.filterMap Finding.union? =
      found.unionOccurrences.map fun union => (union.name, union.members) := by
  simp [findings, Finding.union?, List.filterMap_map, Function.comp_def]

@[simp] theorem reference?_findings (found : Discovery) :
    found.findings.filterMap Finding.reference? =
      found.references.map fun reference => reference.id := by
  simp [findings, Finding.reference?, List.filterMap_map, Function.comp_def]

/-- The marks of a whole traversal are the ids of the visited resources. -/
theorem visitedResources_ids (schema : Schema) (exposed : List String) (roots : List TypeRoot) :
    let found := discover schema exposed roots
    (visitedResources schema found).map Resource.id = found.visited :=
  schema.ids_filterMap_resource? fun _ marked => (mem_visited_iff_met.mp marked).2

/-- **Every visited resource is traversed exactly once.**  It is marked once, under its own id, and
the enumerations, the unions and the references that a traversal has noted are, with their numbers,
those in the types of the roots and in the types and relationships that each visited resource
shows. -/
theorem occurrences_counted_once (schema : Schema) (exposed : List String)
    (roots : List TypeRoot) :
    let found := discover schema exposed roots
    let visited := visitedResources schema found
    (found.visited.Nodup ∧ visited.map Resource.id = found.visited) ∧
    (↑(found.enumOccurrences.map fun enum => (enum.name, enum.values)) :
        Multiset (String × List String)) =
      total TypeRef.enumsIn (rootTypes roots) +
        (visited.map fun resource => total TypeRef.enumsIn (schema.shownTypes resource)).sum ∧
    (↑(found.unionOccurrences.map fun union => (union.name, union.members)) :
        Multiset (String × List (String × TypeRef))) =
      total TypeRef.unionsIn (rootTypes roots) +
        (visited.map fun resource => total TypeRef.unionsIn (schema.shownTypes resource)).sum ∧
    (↑(found.references.map fun reference => reference.id) : Multiset String) =
      total schema.referencesIn (rootTypes roots) +
        (visited.map fun resource => total schema.referencesIn (schema.shownTypes resource) +
          ↑(resource.publicRelationships.map Relationship.destination)).sum := by
  intro found visited
  refine ⟨⟨(exploring_discover schema exposed roots).distinct,
    visitedResources_ids schema exposed roots⟩, ?_, ?_, ?_⟩
  · have kept := filterMap_findings_discover (filterMap_enum schema) exposed roots
    simpa [Finding.enum?, List.filterMap_map, Function.comp_def] using kept
  · have kept := filterMap_findings_discover (filterMap_union schema) exposed roots
    simpa [Finding.union?, List.filterMap_map, Function.comp_def] using kept
  · have kept := filterMap_findings_discover (filterMap_reference schema) exposed roots
    simpa [Finding.reference?, List.filterMap_map, Function.comp_def] using kept

end Discovery
end TypedRpc
