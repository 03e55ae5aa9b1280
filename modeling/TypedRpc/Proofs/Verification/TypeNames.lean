import Mathlib.Data.List.Nodup
import TypedRpc.Proofs.Discovery.Catalogue
import TypedRpc.Proofs.Sameness
import TypedRpc.Verification.TypeNames

/-!
# Every type name means one thing

The checks of type names look at the first enumeration and the first union of each name, and stop
reporting a name once it has been reported.  What they decide depends on neither: there are no
faults exactly when the names agree, which is said about all occurrences alike.

* `NamesAgree`: the condition, without regard to any order.
* `typeNameFaults_eq_nil_iff`: the checks decide it.
* `NamesAgree.nodup_names`: the names of records, enumerations and unions all differ.
-/

namespace TypedRpc

/-- The reached resources. -/
def Discovery.records (found : Discovery) (schema : Schema) : List Resource :=
  found.allResources.filterMap schema.resource?

/-- Whether no name of a type stands for two things. -/
structure NamesAgree (schema : Schema) (found : Discovery) : Prop where
  /-- No two reached resources have one name. -/
  records : ∀ a ∈ found.records schema, ∀ b ∈ found.records schema,
    a.declaredTypeName = b.declaredTypeName → a.id = b.id
  enumsApart : ∀ enum ∈ found.enumOccurrences, ∀ record ∈ found.records schema,
    enum.name ≠ record.declaredTypeName
  unionsApart : ∀ union ∈ found.unionOccurrences, ∀ record ∈ found.records schema,
    union.name ≠ record.declaredTypeName
  kindsApart : ∀ union ∈ found.unionOccurrences, ∀ enum ∈ found.enumOccurrences,
    union.name ≠ enum.name
  /-- Enumerations of one name have the same values in the same order. -/
  enums : ∀ a ∈ found.enumOccurrences, ∀ b ∈ found.enumOccurrences,
    a.name = b.name → a.values = b.values
  /-- Unions of one name have one shape. -/
  unions : ∀ a ∈ found.unionOccurrences, ∀ b ∈ found.unionOccurrences,
    a.name = b.name → a.sameShape b
  entries : ∀ enum ∈ found.enumOccurrences, (enum.values.map Target.enumEntry).Nodup
  variants : ∀ union ∈ found.unionOccurrences,
    ((union.members.map Prod.fst).map Naming.pascalCase).Nodup

/-! ## Occurrences and the first of each name -/

section First

variable {found : Discovery} (kept : found.Catalogued)

include kept

theorem enum?_eq_some {name : String} {enum : EnumDef} (h : found.enum? name = some enum) :
    enum ∈ found.enumOccurrences ∧ enum.name = name := by
  rw [kept.enum?_eq] at h
  exact ⟨List.mem_of_find?_eq_some h, by simpa using List.find?_some h⟩

theorem union?_eq_some {name : String} {union : UnionDef} (h : found.union? name = some union) :
    union ∈ found.unionOccurrences ∧ union.name = name := by
  rw [kept.union?_eq] at h
  exact ⟨List.mem_of_find?_eq_some h, by simpa using List.find?_some h⟩

theorem isSome_enum?_iff {name : String} :
    (found.enum? name).isSome ↔ ∃ enum ∈ found.enumOccurrences, enum.name = name := by
  simp [kept.enum?_eq]

/-- Every enumeration has a first one of its name. -/
theorem exists_enum? {occurrence : EnumDef} (h : occurrence ∈ found.enumOccurrences) :
    ∃ first ∈ found.enums, first.name = occurrence.name ∧
      found.enum? occurrence.name = some first := by
  rw [kept.enum?_eq, kept.enums]
  exact exists_mem_firstByName h

/-- Every union has a first one of its name. -/
theorem exists_union? {occurrence : UnionDef} (h : occurrence ∈ found.unionOccurrences) :
    ∃ first ∈ found.unions, first.name = occurrence.name ∧
      found.union? occurrence.name = some first := by
  rw [kept.union?_eq, kept.unions]
  exact exists_mem_firstByName h

theorem mem_enumOccurrences_of_mem_enums {enum : EnumDef} (h : enum ∈ found.enums) :
    enum ∈ found.enumOccurrences :=
  mem_of_mem_firstByName (kept.enums ▸ h)

theorem mem_unionOccurrences_of_mem_unions {union : UnionDef} (h : union ∈ found.unions) :
    union ∈ found.unionOccurrences :=
  mem_of_mem_firstByName (kept.unions ▸ h)

end First

/-! ## Redefinitions -/

/-- Where no enumeration is reported, the names that have been reported stay as they are. -/
theorem reported_of_enumRedefinitions {found : Discovery} {reported : List String}
    {occurrences : List EnumDef} (none : (enumRedefinitions found reported occurrences).1 = []) :
    (enumRedefinitions found reported occurrences).2 = reported := by
  induction occurrences with
  | nil => rfl
  | cons occurrence rest ih =>
    rw [enumRedefinitions] at none ⊢
    split at none
    · exact ih none
    · split at none
      · simp_all
      · simp at none

/-- No enumeration is reported exactly when each has the values of the first of its name. -/
theorem enumRedefinitions_eq_nil_iff {found : Discovery} {occurrences : List EnumDef} :
    (enumRedefinitions found [] occurrences).1 = [] ↔
      ∀ occurrence ∈ occurrences, ∀ first, found.enum? occurrence.name = some first →
        occurrence.values = first.values := by
  induction occurrences with
  | nil => simp [enumRedefinitions]
  | cons occurrence rest ih =>
    rw [enumRedefinitions, List.forall_mem_cons, ← ih]
    cases found.enum? occurrence.name with
    | none => simp
    | some first =>
      by_cases same : occurrence.values = first.values <;> simp [same]

/-- No union is reported exactly when each has the shape of the first of its name. -/
theorem unionRedefinitions_eq_nil_iff {found : Discovery} {occurrences : List UnionDef} :
    unionRedefinitions found [] occurrences = [] ↔
      ∀ occurrence ∈ occurrences, ∀ first, found.union? occurrence.name = some first →
        occurrence.sameShape first := by
  induction occurrences with
  | nil => simp [unionRedefinitions]
  | cons occurrence rest ih =>
    rw [unionRedefinitions, List.forall_mem_cons, ← ih]
    cases found.union? occurrence.name with
    | none => simp
    | some first =>
      cases same : occurrence.sameShape first <;> simp [same]

/-! ## The checks one by one -/

section Checks

variable {schema : Schema} {found : Discovery}

theorem keys_typeOwners {name : String} :
    name ∈ (typeOwners schema found).map Prod.fst ↔
      ∃ record ∈ found.records schema, record.declaredTypeName = name := by
  have keys : (typeOwners schema found).map Prod.fst =
      (groupBy Resource.declaredTypeName (found.records schema)).map Prod.fst := by
    simp [typeOwners, Discovery.records]
  rw [keys, mem_keys_groupBy, List.mem_map]

theorem isSome_owner_iff {name : String} :
    ((typeOwners schema found).lookup name).isSome ↔
      ∃ record ∈ found.records schema, record.declaredTypeName = name := by
  rw [isSome_lookup_iff, keys_typeOwners]

theorem owner_eq_none_iff {name : String} :
    (typeOwners schema found).lookup name = none ↔
      ∀ record ∈ found.records schema, name ≠ record.declaredTypeName := by
  rw [← Option.not_isSome_iff_eq_none, isSome_owner_iff]
  simp only [not_exists, not_and, ne_eq, eq_comm]

theorem sharedTypeFaults_eq_nil_iff :
    sharedTypeFaults (typeOwners schema found) = [] ↔
      ((found.records schema).map Resource.declaredTypeName).Nodup := by
  rw [← clashes_eq_nil_iff, clashes, sharedTypeFaults, List.map_eq_nil_iff,
    List.filter_eq_nil_iff, List.filter_eq_nil_iff, typeOwners, List.forall_mem_map]
  simp only [List.length_map]
  rfl

/-- The ids of the reached resources are those that are listed. -/
theorem records_ids_sublist :
    ((found.records schema).map (·.id)).Sublist found.allResources := by
  unfold Discovery.records
  induction found.allResources with
  | nil => simp
  | cons id rest ih =>
    cases named : schema.resource? id with
    | none =>
      rw [List.filterMap_cons_none named]
      exact ih.cons id
    | some resource =>
      rw [List.filterMap_cons_some named, List.map_cons, Schema.id_of_resource? named]
      exact ih.cons_cons id

/-- There is a reached resource for each id that is listed and names one. -/
theorem records_ids (existing : ∀ id ∈ found.allResources, (schema.resource? id).isSome) :
    (found.records schema).map (·.id) = found.allResources :=
  schema.ids_filterMap_resource? existing

/-- The names of the reached resources differ exactly when they tell the resources apart. -/
theorem nodup_recordNames_iff (distinct : found.allResources.Nodup) :
    ((found.records schema).map Resource.declaredTypeName).Nodup ↔
      ∀ a ∈ found.records schema, ∀ b ∈ found.records schema,
        a.declaredTypeName = b.declaredTypeName → a.id = b.id := by
  have ids : ((found.records schema).map (·.id)).Nodup := distinct.sublist records_ids_sublist
  rw [List.nodup_map_iff_inj_on ids.of_map]
  constructor
  · exact fun apart a ha b hb same => congrArg _ (apart a ha b hb same)
  · exact fun apart a ha b hb same => List.inj_on_of_nodup_map ids ha hb (apart a ha b hb same)

theorem enumNameFaults_eq_nil_iff (kept : found.Catalogued) :
    enumNameFaults (typeOwners schema found) found = [] ↔
      ∀ enum ∈ found.enumOccurrences, ∀ record ∈ found.records schema,
        enum.name ≠ record.declaredTypeName := by
  rw [enumNameFaults, List.filterMap_eq_nil_iff]
  simp only [Option.map_eq_none_iff, owner_eq_none_iff]
  constructor
  · intro apart enum listed record reached
    obtain ⟨first, listed_first, name_eq, -⟩ := exists_enum? kept listed
    rw [← name_eq]
    exact apart first listed_first record reached
  · exact fun apart enum listed => apart enum (mem_enumOccurrences_of_mem_enums kept listed)

theorem unionNameFaults_eq_nil_iff (kept : found.Catalogued) :
    unionNameFaults (typeOwners schema found) found = [] ↔
      (∀ union ∈ found.unionOccurrences, ∀ record ∈ found.records schema,
        union.name ≠ record.declaredTypeName) ∧
      ∀ union ∈ found.unionOccurrences, ∀ enum ∈ found.enumOccurrences,
        union.name ≠ enum.name := by
  rw [unionNameFaults, List.map_eq_nil_iff, List.filter_eq_nil_iff]
  simp only [Bool.or_eq_true, isSome_owner_iff, isSome_enum?_iff kept, not_or]
  constructor
  · intro apart
    refine ⟨fun union listed record reached same => ?_, fun union listed enum held same => ?_⟩ <;>
      obtain ⟨first, listed_first, name_eq, -⟩ := exists_union? kept listed
    · exact (apart first listed_first).1 ⟨record, reached, by rw [name_eq, same]⟩
    · exact (apart first listed_first).2 ⟨enum, held, by rw [name_eq, same]⟩
  · rintro ⟨records, enums⟩ union listed
    have occurs := mem_unionOccurrences_of_mem_unions kept listed
    exact ⟨fun ⟨record, reached, same⟩ => records union occurs record reached same.symm,
      fun ⟨enum, held, same⟩ => enums union occurs enum held same.symm⟩

/-- Enumerations are not reported exactly when those of one name have the same values: all are
compared with the first. -/
theorem enums_agree_iff (kept : found.Catalogued) :
    (enumRedefinitions found [] found.enumOccurrences).1 = [] ↔
      ∀ a ∈ found.enumOccurrences, ∀ b ∈ found.enumOccurrences,
        a.name = b.name → a.values = b.values := by
  rw [enumRedefinitions_eq_nil_iff]
  constructor
  · intro first_values a ha b hb same
    obtain ⟨first, -, -, is_first⟩ := exists_enum? kept ha
    rw [first_values a ha first is_first, first_values b hb first (same ▸ is_first)]
  · intro agree a ha first is_first
    obtain ⟨occurs, name_eq⟩ := enum?_eq_some kept is_first
    exact agree a ha first occurs name_eq.symm

/-- Unions are not reported exactly when those of one name have one shape: what has the shape of the
first has that of all others. -/
theorem unions_agree_iff (kept : found.Catalogued) :
    unionRedefinitions found [] found.unionOccurrences = [] ↔
      ∀ a ∈ found.unionOccurrences, ∀ b ∈ found.unionOccurrences,
        a.name = b.name → a.sameShape b := by
  rw [unionRedefinitions_eq_nil_iff]
  constructor
  · intro first_shape a ha b hb same
    obtain ⟨first, -, -, is_first⟩ := exists_union? kept ha
    exact UnionDef.sameShape_of_common (first_shape a ha first is_first)
      (first_shape b hb first (same ▸ is_first))
  · intro agree a ha first is_first
    obtain ⟨occurs, name_eq⟩ := union?_eq_some kept is_first
    exact agree a ha first occurs name_eq.symm

theorem entryFaults_eq_nil_iff {enum : EnumDef} :
    entryFaults enum = [] ↔ (enum.values.map Target.enumEntry).Nodup := by
  rw [entryFaults, List.map_eq_nil_iff, clashes_eq_nil_iff]

theorem variantFaults_eq_nil_iff {union : UnionDef} :
    variantFaults union = [] ↔ ((union.members.map Prod.fst).map Naming.pascalCase).Nodup := by
  rw [variantFaults, List.map_eq_nil_iff, clashes_eq_nil_iff]

/-- Where enumerations of one name agree, the entries of the first are those of all. -/
theorem entries_apart_iff (kept : found.Catalogued) (agree : ∀ a ∈ found.enumOccurrences,
    ∀ b ∈ found.enumOccurrences, a.name = b.name → a.values = b.values) :
    found.enums.flatMap entryFaults = [] ↔
      ∀ enum ∈ found.enumOccurrences, (enum.values.map Target.enumEntry).Nodup := by
  simp only [List.flatMap_eq_nil_iff, entryFaults_eq_nil_iff]
  constructor
  · intro apart enum listed
    obtain ⟨first, listed_first, name_eq, -⟩ := exists_enum? kept listed
    rw [← agree first (mem_enumOccurrences_of_mem_enums kept listed_first) enum listed name_eq]
    exact apart first listed_first
  · exact fun apart enum listed => apart enum (mem_enumOccurrences_of_mem_enums kept listed)

/-- Where unions of one name agree, the variants of the first are those of all. -/
theorem variants_apart_iff (kept : found.Catalogued) (agree : ∀ a ∈ found.unionOccurrences,
    ∀ b ∈ found.unionOccurrences, a.name = b.name → a.sameShape b) :
    found.unions.flatMap variantFaults = [] ↔
      ∀ union ∈ found.unionOccurrences,
        ((union.members.map Prod.fst).map Naming.pascalCase).Nodup := by
  simp only [List.flatMap_eq_nil_iff, variantFaults_eq_nil_iff]
  constructor
  · intro apart union listed
    obtain ⟨first, listed_first, name_eq, -⟩ := exists_union? kept listed
    have occurs := mem_unionOccurrences_of_mem_unions kept listed_first
    have shape := agree first occurs union listed name_eq
    rw [← UnionDef.tags_eq_of_sameShape shape]
    exact apart first listed_first
  · exact fun apart union listed => apart union (mem_unionOccurrences_of_mem_unions kept listed)

end Checks

/-! ## All checks -/

variable {schema : Schema} {found : Discovery}

theorem typeNameFaults_eq (schema : Schema) (found : Discovery) :
    typeNameFaults schema found =
      sharedTypeFaults (typeOwners schema found) ++
        enumNameFaults (typeOwners schema found) found ++
        unionNameFaults (typeOwners schema found) found ++
        (enumRedefinitions found [] found.enumOccurrences).1 ++
        unionRedefinitions found (enumRedefinitions found [] found.enumOccurrences).2
          found.unionOccurrences ++
        found.enums.flatMap entryFaults ++ found.unions.flatMap variantFaults := rfl

/-- **There are no faults of type names exactly when the names agree.** -/
theorem typeNameFaults_eq_nil_iff (kept : found.Catalogued)
    (distinct : found.allResources.Nodup) :
    typeNameFaults schema found = [] ↔ NamesAgree schema found := by
  simp only [typeNameFaults_eq, List.append_eq_nil_iff, sharedTypeFaults_eq_nil_iff,
    nodup_recordNames_iff distinct, enumNameFaults_eq_nil_iff kept,
    unionNameFaults_eq_nil_iff kept]
  constructor
  · rintro ⟨⟨⟨⟨⟨⟨records, enumsApart⟩, unionsApart, kindsApart⟩, enums⟩, unions⟩, entries⟩,
      variants⟩
    -- no name has been reported when the unions are looked at
    rw [reported_of_enumRedefinitions enums, unions_agree_iff kept] at unions
    rw [enums_agree_iff kept] at enums
    exact ⟨records, enumsApart, unionsApart, kindsApart, enums, unions,
      (entries_apart_iff kept enums).mp entries, (variants_apart_iff kept unions).mp variants⟩
  · rintro ⟨records, enumsApart, unionsApart, kindsApart, enums, unions, entries, variants⟩
    have none := (enums_agree_iff kept).mpr enums
    refine ⟨⟨⟨⟨⟨⟨records, enumsApart⟩, unionsApart, kindsApart⟩, none⟩, ?_⟩,
      (entries_apart_iff kept enums).mpr entries⟩, (variants_apart_iff kept unions).mpr variants⟩
    rw [reported_of_enumRedefinitions none]
    exact (unions_agree_iff kept).mpr unions

/-- **Where the names agree, no name stands twice** among those of the reached resources, the
enumerations and the unions. -/
theorem NamesAgree.nodup_names (agree : NamesAgree schema found) (kept : found.Catalogued)
    (distinct : found.allResources.Nodup) :
    ((found.records schema).map Resource.declaredTypeName ++ found.enums.map EnumDef.name ++
      found.unions.map UnionDef.name).Nodup := by
  have records := (nodup_recordNames_iff distinct).mpr agree.records
  have enums : (found.enums.map EnumDef.name).Nodup := by
    rw [kept.enums]
    exact nodup_firstByName _
  have unions : (found.unions.map UnionDef.name).Nodup := by
    rw [kept.unions]
    exact nodup_firstByName _
  refine List.nodup_append.mpr ⟨List.nodup_append.mpr ⟨records, enums, ?_⟩, unions, ?_⟩
  · intro name of_record other of_enum
    obtain ⟨record, reached, rfl⟩ := List.mem_map.mp of_record
    obtain ⟨enum, listed, rfl⟩ := List.mem_map.mp of_enum
    exact (agree.enumsApart enum (mem_enumOccurrences_of_mem_enums kept listed) record reached).symm
  · intro name of_other other of_union
    obtain ⟨union, listed, rfl⟩ := List.mem_map.mp of_union
    have occurs := mem_unionOccurrences_of_mem_unions kept listed
    rcases List.mem_append.mp of_other with of_record | of_enum
    · obtain ⟨record, reached, rfl⟩ := List.mem_map.mp of_record
      exact (agree.unionsApart union occurs record reached).symm
    · obtain ⟨enum, held, rfl⟩ := List.mem_map.mp of_enum
      exact (agree.kindsApart union occurs enum (mem_enumOccurrences_of_mem_enums kept held)).symm

end TypedRpc
