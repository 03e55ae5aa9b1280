import TypedRpc.Proofs.Client.GeneratedNames
import TypedRpc.Proofs.Naming.Legality

/-!
# The names of properties are legal

The checks look at names after the renames of the document.  The code has a renamed field under its
new name, and any other field in camelCase, a form that is not looked at.  It is legal all the same,
because camelCase brings no mark into a name.  A rename to the empty name is the exception: it
passes the check, but counts for nothing in the code.

* `isLegal_kotlinNameOf`: the name in the code is legal when the name after the renames is.
* `Plan.record_names_legal`: the names of the properties of records.
-/

namespace TypedRpc

/-! ## From checked names to names in the code -/

/-- The name in the code is the one that a document gives, unless that is empty. -/
theorem kotlinNameOf_some {name target : String} (given : target ≠ "") :
    kotlinNameOf name (some target) = target := by
  have counts : given? (some target) = some target :=
    Discovery.given?_eq_some.mpr ⟨rfl, given⟩
  rw [kotlinNameOf, counts, Option.getD_some]

/-- **A name is legal in the code when it is legal after the renames**, unless it is renamed to
nothing. -/
theorem isLegal_kotlinNameOf {name : String} {rename : Option String}
    (given : ∀ target ∈ rename, target ≠ "") (legal : Naming.isLegal (rename.getD name)) :
    Naming.isLegal (kotlinNameOf name rename) := by
  cases rename with
  | none => exact Naming.isLegal_camelCase legal
  | some target =>
    rw [kotlinNameOf_some (given target rfl)]
    exact legal

/-- A table without empty names gives none. -/
theorem ne_empty_of_lookup {renames : Renames} (given : ∀ rename ∈ renames, rename.2 ≠ "")
    (name : String) : ∀ target ∈ renames.lookup name, target ≠ "" := by
  intro target found
  exact given (name, target) (mem_of_lookup_eq_some found)

/-! ## Records -/

/-- The public members of a resource without faults have legal names after the renames. -/
theorem isLegal_mappedFieldName {resource : Resource} (clean : memberNameFaults resource = [])
    {member : MemberKind × String} (listed : member ∈ publicMembers resource) :
    Naming.isLegal (resource.mappedFieldName member.2) := by
  have unreported := List.filterMap_eq_nil_iff.mp clean member listed
  by_contra illegal
  change (if Naming.isLegal (resource.mappedFieldName member.2) then none else _) = none
    at unreported
  rw [if_neg illegal] at unreported
  exact absurd unreported (Option.some_ne_none _)

/-- What a record shows is among the public members. -/
theorem exists_publicMember {resource : Resource} {names : String × String}
    (listed : names ∈ recordNames resource) :
    names.2 = kotlinNameOf names.1 (resource.fieldRename? names.1) ∧
      ∃ kind, (kind, names.1) ∈ publicMembers resource := by
  obtain ⟨name, shown, rfl⟩ := List.mem_map.mp listed
  refine ⟨rfl, ?_⟩
  unfold publicMembers
  rcases List.mem_append.mp shown with isAttribute | isRelationship
  · obtain ⟨stored, here, rfl⟩ := List.mem_map.mp isAttribute
    refine ⟨.stored, ?_⟩
    simp only [List.mem_append]
    exact .inl (.inl (.inl (List.mem_map.mpr ⟨stored, here, rfl⟩)))
  · obtain ⟨relationship, here, rfl⟩ := List.mem_map.mp isRelationship
    refine ⟨.relationship, ?_⟩
    simp only [List.mem_append]
    exact .inl (.inl (.inr (List.mem_map.mpr ⟨relationship, here, rfl⟩)))

/-- The names of the properties of a record are legal where nothing is found about its members. -/
theorem isLegal_recordNames {resource : Resource} (clean : memberNameFaults resource = [])
    (given : ∀ rename ∈ resource.fieldNames, rename.2 ≠ "") :
    ∀ names ∈ recordNames resource, Naming.isLegal names.2 := by
  intro names listed
  obtain ⟨written, kind, member⟩ := exists_publicMember listed
  have legal : Naming.isLegal (resource.mappedFieldName names.1) :=
    isLegal_mappedFieldName clean member
  rw [written]
  exact isLegal_kotlinNameOf (ne_empty_of_lookup given names.1) legal

namespace Plan

variable {schema : Schema} {options : Options} {plan : Plan}

/-- **The properties of every record have legal names** in a plan without faults, provided that the
document renames no field to the empty name. -/
theorem record_names_legal (typing : Typing) (made : Plan.make schema options = .ok plan)
    (clean : plan.verification.faults = [])
    (given : ∀ resource ∈ schema.resources, ∀ rename ∈ resource.fieldNames, rename.2 ≠ "") :
    ∀ record ∈ plan.discovered.records schema, ∀ property ∈ (typing.record record).properties,
      Naming.isLegal property.kotlinName := by
  intro record reached property shown
  obtain ⟨id, -, named⟩ := List.mem_filterMap.mp reached
  have known : record ∈ schema.resources := Schema.mem_of_resource? named
  have members : memberNameFaults record = [] :=
    (List.append_eq_nil_iff.mp (resourceNameFaults_eq_nil made clean reached)).1
  have written : property.kotlinName ∈ (typing.record record).kotlinNames :=
    List.mem_map_of_mem shown
  rw [Typing.kotlinNames_record] at written
  obtain ⟨names, listed, same⟩ := List.mem_map.mp written
  rw [← same]
  exact isLegal_recordNames members (given record known) names listed

end Plan

/-- Parcels with names of all kinds.  Some have marks between their words, one has no words, and one
could not stand if it were not renamed. -/
def parcelSchema : Schema where
  resources := [{
    id := "Parcel"
    attributes := [
      { name := "id", type := .primitive .uuid {}, isPrimaryKey := true },
      { name := "due-by_date", type := .primitive .date {} },
      { name := "line_2", type := .primitive .string {} },
      { name := "__", type := .primitive .boolean {} },
      { name := "to_ßender", type := .primitive .string {} }]
    relationships := [{ name := "_sub_parcels", kind := .hasMany, destination := "Parcel" }]
    actions := [{ name := "read", kind := .read }]
    fieldNames := [("line_2", "when")] }]
  domains := [{
    name := "Main"
    rpc := [{
      resource := "Parcel"
      actions := [{ name := "list_parcels", action := "read" }] }] }]

/-- The properties of parcels have legal names, and parcels have a record. -/
theorem parcel_names_legal :
    ∃ plan, Plan.make parcelSchema {} = .ok plan ∧ plan.verification.faults = [] ∧
      (plan.discovered.records parcelSchema).map (·.id) = ["Parcel"] ∧
      (∀ resource ∈ parcelSchema.resources, ∀ rename ∈ resource.fieldNames, rename.2 ≠ "") ∧
      ∀ record ∈ plan.discovered.records parcelSchema,
        ∀ property ∈ ((Typing.ofSchema parcelSchema {}).record record).properties,
          Naming.isLegal property.kotlinName := by
  have evaluated :
      (Plan.make parcelSchema {}).toOption.map (fun plan =>
        (plan.verification.faults, (plan.discovered.records parcelSchema).map (·.id))) =
        some ([], ["Parcel"]) := by
    cbv
  obtain ⟨plan, made, seen⟩ := Plan.exists_of_evaluated evaluated
  injection seen with clean reached
  have given : ∀ resource ∈ parcelSchema.resources, ∀ rename ∈ resource.fieldNames,
      rename.2 ≠ "" := by
    decide
  exact ⟨plan, made, clean, reached, given, Plan.record_names_legal _ made clean given⟩

end TypedRpc
