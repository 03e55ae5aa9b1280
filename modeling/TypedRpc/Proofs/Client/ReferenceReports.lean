import TypedRpc.Proofs.Client.Plan

/-!
# What is reported about references

A traversal notes every reference with its path, and two checks look at these notes.  The check of
what is exposed reports the references that lead nowhere; it tells them from exposed ids that name
no resource by the paths alone, and the latter are reported with the entry that exposes them.  The
other check warns about resources that are referred to and not exposed.  It goes through the
references and remembers what has been reported, while the resources that a plan lists have been
gathered along the traversal.

* `unresolved_references_reported`: what is missing, and the faults about it.
* `Plan.unexposed_references_warned`: the warnings name the listed resources that are not exposed.
-/

namespace TypedRpc

/-! ## References that lead nowhere -/

/-- The reference that a fault says to lead nowhere. -/
def Fault.unknownReference? : Fault → Option Reference
  | .unknownReference reference => some reference
  | _ => none

theorem Fault.unknownReference?_of_isAboutEntry {fault : Fault} (about : fault.isAboutEntry) :
    fault.unknownReference? = none := by
  cases fault <;> first | rfl | cases about

theorem Fault.category_of_unknownReference? {fault : Fault} {reference : Reference}
    (named : fault.unknownReference? = some reference) : fault.category = .rpcConfig := by
  cases fault <;> first | rfl | cases named

/-- The other checks say nothing about references. -/
theorem unknownReferences_of_allOf {category : FaultCategory} {faults : List Fault}
    (all : AllOf category faults) (other : category ≠ .rpcConfig) :
    faults.filterMap Fault.unknownReference? = [] := by
  rw [List.filterMap_eq_nil_iff]
  intro fault listed
  cases named : fault.unknownReference? with
  | none => rfl
  | some reference =>
    rw [← all fault listed] at other
    exact absurd (Fault.category_of_unknownReference? named) other

/-- The check of what is exposed says of what is missing that it leads nowhere, unless it is noted
on a path that is only its id. -/
theorem unknownReferences_rpcConfigFaults {schema : Schema} {found : Discovery}
    {faults : List Fault} (checked : rpcConfigFaults schema found = .ok faults) :
    faults.filterMap Fault.unknownReference? =
      found.missing.filter fun reference => reference.path != [reference.id] := by
  obtain ⟨entries, of_entries, rest⟩ := bind_eq_ok_iff.mp checked
  cases rest
  have silent : entries.filterMap Fault.unknownReference? = [] :=
    List.filterMap_eq_nil_iff.mpr fun fault listed =>
      Fault.unknownReference?_of_isAboutEntry
        (ofEntry_rpcResourceFaults of_entries fault listed).about
  have nothing : (if schema.rpcResources.isEmpty then [Fault.nothingExposed] else []).filterMap
      Fault.unknownReference? = [] := by
    split <;> rfl
  have missing (references : List Reference) :
      (references.map Fault.unknownReference).filterMap Fault.unknownReference? = references := by
    rw [List.filterMap_map]
    exact List.filterMap_some
  rw [List.filterMap_append, List.filterMap_append, nothing, silent, missingFaults, missing,
    List.nil_append, List.nil_append]

/-- All checks together say of what is missing that it leads nowhere, unless it is noted on a path
that is only its id. -/
theorem unknownReferences_allFaults {schema : Schema} {rpcConfig : List Fault}
    (checked : rpcConfigFaults schema schema.discovery = .ok rpcConfig) :
    (schema.allFaults rpcConfig).filterMap Fault.unknownReference? =
      schema.discovery.missing.filter fun reference => reference.path != [reference.id] := by
  simp only [Schema.allFaults, List.filterMap_append, unknownReferences_rpcConfigFaults checked,
    unknownReferences_of_allOf (allOf_fieldNameFaults schema schema.discovery) (by decide),
    unknownReferences_of_allOf (allOf_actionTypeFaults schema) (by decide),
    unknownReferences_of_allOf (allOf_typeNameFaults schema schema.discovery) (by decide),
    unknownReferences_of_allOf (allOf_identityFaults schema) (by decide), List.append_nil]

/-- An exposed id that names no resource is reported with each entry that exposes it. -/
theorem mem_rpcResourceFaults_of_absent {schema : Schema} {taken : Renames}
    {entries : List RpcResource} {faults : List Fault}
    (checked : rpcResourceFaults schema taken entries = .ok faults) {entry : RpcResource}
    (listed : entry ∈ entries) (absent : schema.resource? entry.resource = none) :
    .unknownExposedResource entry.resource ∈ faults := by
  induction entries generalizing taken faults with
  | nil => exact absurd listed List.not_mem_nil
  | cons first rest ih =>
    rw [rpcResourceFaults] at checked
    cases named : schema.resource? first.resource with
    | none =>
      rw [named] at checked
      obtain ⟨others, there, done⟩ := bind_eq_ok_iff.mp checked
      cases done
      rcases List.mem_cons.mp listed with rfl | listed
      · exact List.mem_cons_self ..
      · exact List.mem_cons_of_mem _ (ih there listed)
    | some resource =>
      rw [named] at checked
      obtain ⟨queries, -, checked⟩ := bind_eq_ok_iff.mp checked
      obtain ⟨others, there, done⟩ := bind_eq_ok_iff.mp checked
      cases done
      rcases List.mem_cons.mp listed with rfl | listed
      · rw [absent] at named
        cases named
      · exact List.mem_append_right _ (ih there listed)

/-- **What leads nowhere is noted, and what is noted is reported.**  A traversal notes as missing
the given ids that name no resource, each on a path of its own id only, and then those references
that name none, in their order.  A plan has one fault for each of the latter, with the path of the
reference, and a fault for each exposed id that names no resource.  In a plan without faults every
reference therefore names a resource. -/
theorem unresolved_references_reported :
    (∀ (schema : Schema) (exposed : List String) (roots : List TypeRoot),
      (discover schema exposed roots).missing =
        ((exposed.filter fun id => (schema.resource? id).isNone).map fun id => ⟨id, [id]⟩) ++
          (discover schema exposed roots).references.filter fun reference =>
            (schema.resource? reference.id).isNone) ∧
    ∀ (schema : Schema) (options : Options) (plan : Plan), Plan.make schema options = .ok plan →
      let unresolved := plan.discovered.references.filter fun reference =>
        (schema.resource? reference.id).isNone
      plan.discovered.missing =
        ((schema.exposedResourceIds.filter fun id => (schema.resource? id).isNone).map
          fun id => ⟨id, [id]⟩) ++ unresolved ∧
      plan.verification.faults.filterMap Fault.unknownReference? = unresolved ∧
      (∀ id ∈ schema.exposedResourceIds, schema.resource? id = none →
        .unknownExposedResource id ∈ plan.verification.faults) ∧
      (plan.verification.faults = [] →
        ∀ reference ∈ plan.discovered.references, (schema.resource? reference.id).isSome) := by
  refine ⟨Discovery.missing_discover, fun schema options plan made => ?_⟩
  obtain ⟨rpcConfig, checked, rfl⟩ := Plan.make_eq_ok_iff.mp made
  have reported : (schema.allFaults rpcConfig).filterMap Fault.unknownReference? =
      schema.discovery.references.filter fun reference =>
        (schema.resource? reference.id).isNone :=
    (unknownReferences_allFaults checked).trans (schema.missing_filter_eq)
  refine ⟨Discovery.missing_discover .., reported, fun id exposed absent => ?_,
    fun clean reference listed => ?_⟩
  · obtain ⟨entry, listed, rfl⟩ := List.mem_map.mp (mem_firstOccurrences.mp exposed)
    obtain ⟨entries, of_entries, done⟩ := bind_eq_ok_iff.mp checked
    cases done
    simp [Schema.allFaults, mem_rpcResourceFaults_of_absent of_entries listed absent]
  · dsimp only at clean
    rw [clean, List.filterMap_nil, eq_comm, List.filter_eq_nil_iff] at reported
    simpa [Option.isSome_iff_ne_none] using reported reference listed

/-- Articles with two references that lead nowhere, one of them in the items of a list; drafts are
exposed, and there are none. -/
def strayedSchema : Schema where
  resources := [
    { id := "Blog.Article"
      attributes := [{ name := "notes", type := .array (.resource "Note") {} }]
      relationships := [
        { name := "author", kind := .belongsTo, destination := "Writer" },
        { name := "next", kind := .belongsTo, destination := "Blog.Article" }]
      actions := [{ name := "read", kind := .read }] }]
  domains := [{
    name := "Main"
    rpc := [
      { resource := "Blog.Article", actions := [{ name := "list_articles", action := "read" }] },
      { resource := "Blog.Draft" }] }]

/-- What is missing among the articles, and the faults about it. -/
theorem strayed_references_reported :
    ∃ plan, Plan.make strayedSchema {} = .ok plan ∧
      plan.discovered.missing = [⟨"Blog.Draft", ["Blog.Draft"]⟩,
        ⟨"Note", ["Article", "notes", "[]"]⟩, ⟨"Writer", ["Article", "author"]⟩] ∧
      plan.verification.faults.filterMap Fault.unknownReference? =
        [⟨"Note", ["Article", "notes", "[]"]⟩, ⟨"Writer", ["Article", "author"]⟩] ∧
      .unknownExposedResource "Blog.Draft" ∈ plan.verification.faults := by
  have evaluated : (Plan.make strayedSchema {}).toOption.map (·.discovered.references) =
      some [⟨"Note", ["Article", "notes", "[]"]⟩, ⟨"Writer", ["Article", "author"]⟩,
        ⟨"Blog.Article", ["Article", "next"]⟩] := by
    cbv
  obtain ⟨plan, made, references⟩ := Plan.exists_of_evaluated evaluated
  obtain ⟨missing, reported, exposed, -⟩ :=
    unresolved_references_reported.2 strayedSchema {} plan made
  rw [references] at missing reported
  exact ⟨plan, made, missing, reported, exposed "Blog.Draft" (by decide) (by decide)⟩

/-! ## References to what is not exposed -/

/-- The reference that a warning is about. -/
def Warning.nonRpcReference? : Warning → Option Reference
  | .nonRpcReference reference => some reference
  | .notExposed _ => none

/-- Whether an id names a resource that is not embedded and not exposed. -/
def Schema.isUnexposed (schema : Schema) (id : String) : Bool :=
  Discovery.isOfKind schema false id && !schema.exposedResourceIds.contains id

theorem Schema.isUnexposed_of_named {schema : Schema} {id : String} {resource : Resource}
    (named : schema.resource? id = some resource) :
    schema.isUnexposed id =
      (!resource.embedded && !schema.exposedResourceIds.contains id) := by
  simp [isUnexposed, Discovery.isOfKind_of_named named]

/-- Leaving out what has an id, and then what has been reported, leaves out what has been reported
once that id has been. -/
theorem filter_reported (id : String) (reported : List String) (references : List Reference) :
    (references.filter fun other => other.id != id).filter
        (fun other => !reported.contains other.id) =
      references.filter fun other => !(id :: reported).contains other.id := by
  rw [List.filter_filter]
  refine List.filter_congr fun other _ => ?_
  by_cases same : other.id = id <;> simp [same]

/-- **The warnings are about the first reference** to each resource that is neither embedded nor
exposed, but for those that have been reported. -/
theorem referenceWarnings_eq (schema : Schema) (reported : List String)
    (references : List Reference) :
    referenceWarnings schema reported references =
      ((firstByName Reference.id (references.filter fun reference =>
          schema.isUnexposed reference.id)).filter fun reference =>
        !reported.contains reference.id).map .nonRpcReference := by
  induction references generalizing reported with
  | nil => rfl
  | cons reference rest ih =>
    rw [referenceWarnings]
    cases named : schema.resource? reference.id with
    | none =>
      have passed : schema.isUnexposed reference.id = false := by
        simp [Schema.isUnexposed, Discovery.isOfKind, named]
      rw [List.filter_cons_of_neg (by simp [passed])]
      exact ih reported
    | some resource =>
      have unexposed := Schema.isUnexposed_of_named named
      simp only [Schema.id_of_resource? named]
      by_cases warned : schema.isUnexposed reference.id
      · have apart : (resource.embedded || schema.exposedResourceIds.contains reference.id) =
            false := by
          rw [← Bool.not_or, warned] at unexposed
          simpa using unexposed.symm
        rw [List.filter_cons_of_pos (by exact warned), firstByName, apart, Bool.false_or]
        by_cases known : reported.contains reference.id
        · -- the first reference has been reported, so the later ones are left out anyway
          have more : ∀ other : Reference, (!(reference.id :: reported).contains other.id) =
              !reported.contains other.id := by
            intro other
            by_cases same : other.id = reference.id
            · simpa [same] using known
            · simp [same]
          rw [if_pos known, List.filter_cons_of_neg (by simpa using known), filter_reported,
            ih reported]
          simp only [more]
        · rw [if_neg known, List.filter_cons_of_pos (by simpa using known), filter_reported,
            ih (reference.id :: reported), List.map_cons]
      · have passed : (resource.embedded || schema.exposedResourceIds.contains reference.id ||
            reported.contains reference.id) = true := by
          rw [unexposed, ← Bool.not_or] at warned
          simp only [Bool.not_eq_true, Bool.not_eq_false'] at warned
          rw [warned, Bool.true_or]
        rw [if_pos passed, List.filter_cons_of_neg (by exact warned), ih reported]

/-- The warnings about references, out of all warnings of a plan. -/
theorem nonRpcReferences_eq (schema : Schema) (coverage : Bool) :
    ((if coverage then coverageWarnings schema else []) ++
        referenceWarnings schema [] schema.discovery.references).filterMap
          Warning.nonRpcReference? =
      firstByName Reference.id (schema.discovery.references.filter fun reference =>
        schema.isUnexposed reference.id) := by
  have silent : (if coverage then coverageWarnings schema else []).filterMap
      Warning.nonRpcReference? = [] := by
    split
    · rw [coverageWarnings, List.filterMap_map, List.filterMap_eq_nil_iff]
      exact fun _ _ => rfl
    · rfl
  have about (references : List Reference) :
      (references.map Warning.nonRpcReference).filterMap Warning.nonRpcReference? =
        references := by
    rw [List.filterMap_map]
    exact List.filterMap_some
  rw [List.filterMap_append, silent, List.nil_append, referenceWarnings_eq, about,
    List.filter_eq_self]
  exact fun _ _ => rfl

/-- The listed resources that are not exposed have been met in references, and are listed in the
order of those. -/
theorem unexposed_resources_eq (schema : Schema) :
    (schema.discovery.resources.filter fun id => !schema.exposedResourceIds.contains id) =
      firstOccurrences ((schema.discovery.references.map (·.id)).filter schema.isUnexposed) := by
  have listed : schema.discovery.resources =
      firstOccurrences ((Discovery.metIds schema.exposedResourceIds schema.discovery).filter
        (Discovery.isOfKind schema false)) :=
    (Discovery.exploring_discover ..).listed false
  have given : (schema.exposedResourceIds.filter (Discovery.isOfKind schema false)).filter
      (fun id => !schema.exposedResourceIds.contains id) = [] := by
    rw [List.filter_eq_nil_iff]
    intro id held
    simpa using List.mem_of_mem_filter held
  rw [listed, Discovery.metIds, filter_firstOccurrences, List.filter_append, List.filter_append,
    given, List.nil_append, List.filter_filter]
  refine congrArg firstOccurrences (List.filter_congr fun id _ => ?_)
  rw [Schema.isUnexposed, Bool.and_comm]

/-- **The warnings about references name the listed resources that are not exposed**, each once and
in the order of the list, and each with the path of the first reference to it. -/
theorem Plan.unexposed_references_warned {schema : Schema} {options : Options} {plan : Plan}
    (made : Plan.make schema options = .ok plan) (warns : options.warnOnNonRpcReferences = true) :
    let warned := plan.verification.warnings.filterMap Warning.nonRpcReference?
    (warned.map fun reference => reference.id) =
      (plan.discovered.resources.filter fun id => !schema.exposedResourceIds.contains id) ∧
    (warned.map fun reference => reference.id).Nodup ∧
    ∀ reference ∈ warned,
      plan.discovered.references.find? (fun other => other.id == reference.id) =
        some reference := by
  obtain ⟨rpcConfig, -, rfl⟩ := Plan.make_eq_ok_iff.mp made
  simp only [warns, if_true, nonRpcReferences_eq]
  refine ⟨?_, nodup_firstByName _, fun reference listed => ?_⟩
  · rw [map_firstByName, unexposed_resources_eq, List.filter_map]
    rfl
  · have found := mem_firstByName_iff.mp listed
    have unexposed : schema.isUnexposed reference.id :=
      (List.mem_filter.mp (mem_of_mem_firstByName listed)).2
    -- whatever has the id of the reference is picked along with it
    have picked : ∀ other : Reference,
        (decide (schema.isUnexposed other.id = true ∧ (other.id == reference.id) = true)) =
          (other.id == reference.id) := by
      intro other
      by_cases same : other.id = reference.id <;> simp [same, unexposed]
    rw [List.find?_filter] at found
    simpa only [picked] using found

/-- Articles refer to writers, twice, and to their own notes, and writers to agencies; only articles
are exposed, and the address of a writer is embedded. -/
def pressSchema : Schema where
  resources := [
    { id := "Article"
      relationships := [
        { name := "author", kind := .belongsTo, destination := "Writer" },
        { name := "editor", kind := .belongsTo, destination := "Writer" },
        { name := "notes", kind := .hasMany, destination := "Note" },
        { name := "next", kind := .belongsTo, destination := "Article" }]
      actions := [{ name := "read", kind := .read }] },
    { id := "Writer"
      attributes := [{ name := "address", type := .resource "Address" }]
      relationships := [{ name := "agency", kind := .belongsTo, destination := "Agency" }] },
    { id := "Address", embedded := true },
    { id := "Agency" },
    { id := "Note" }]
  domains := [{
    name := "Main"
    resources := ["Article", "Writer"]
    rpc := [
      { resource := "Article", actions := [{ name := "list_articles", action := "read" }] }] }]

/-- The warnings about the references of articles. -/
theorem press_references_warned :
    ∃ plan, Plan.make pressSchema {} = .ok plan ∧ ({} : Options).warnOnNonRpcReferences = true ∧
      plan.discovered.resources = ["Article", "Writer", "Agency", "Note"] ∧
      (let warned := plan.verification.warnings.filterMap Warning.nonRpcReference?
      (warned.map fun reference => reference.id) = ["Writer", "Agency", "Note"] ∧
      (warned.map fun reference => reference.id).Nodup ∧
      ∀ reference ∈ warned,
        plan.discovered.references.find? (fun other => other.id == reference.id) =
          some reference) := by
  have evaluated : (Plan.make pressSchema {}).toOption.map (·.discovered.resources) =
      some ["Article", "Writer", "Agency", "Note"] := by
    cbv
  obtain ⟨plan, made, resources⟩ := Plan.exists_of_evaluated evaluated
  have warned := Plan.unexposed_references_warned made rfl
  rw [resources] at warned
  exact ⟨plan, made, rfl, resources, warned⟩

end TypedRpc
