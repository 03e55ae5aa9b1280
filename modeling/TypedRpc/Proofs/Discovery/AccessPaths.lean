import TypedRpc.Proofs.Discovery.Occurrences

/-!
# Noted paths are access paths

A traversal extends paths in many places, and it goes into a resource only under the path on which
it comes to the resource first.  What a noted path means can be said without a traversal: it begins
with the short name of a given resource or with the path of a root, and each name behind that leads
on from where the names before it have led.

* `Spot`, `Schema.Step`, `Schema.Follows`, `Schema.Path`: where a name leads from a value or from a
  resource, and where a row of names leads.
* `Schema.Accesses`: a whole path, from its beginning.
* `Traced`, `traced_step`: the invariant, and that every step keeps it.
* `noted_paths_access`: every path that a traversal notes leads to what it is noted for.
-/

namespace TypedRpc

/-! ## Access paths -/

/-- Where a path may lead: to a value, which has an owner that it is named after and a type, or to
the resource of an id. -/
inductive Spot where
  | value (owner : String) (type : TypeRef)
  | resource (id : String)

namespace Schema

/-- Whether a name leads from one spot to another.  From a resource, which has to exist, lead the
names of what it shows to clients; from a union its tags, from a struct its fields, and from an
array the brackets that stand for an item. -/
inductive Step (schema : Schema) : Spot → String → Spot → Prop where
  | attribute {id : String} {resource : Resource} {stored : Attribute}
      (named : schema.resource? id = some resource) (shown : stored ∈ resource.publicAttributes) :
      Step schema (.resource id) stored.name (.value stored.name stored.type)
  | calculation {id : String} {resource : Resource} {calculation : Calculation}
      (named : schema.resource? id = some resource)
      (shown : calculation ∈ resource.publicCalculations) :
      Step schema (.resource id) calculation.name (.value calculation.name calculation.type)
  | aggregate {id : String} {resource : Resource} {aggregate : Aggregate}
      (named : schema.resource? id = some resource)
      (shown : aggregate ∈ resource.publicAggregates) (backed : aggregate.hasBackingField) :
      Step schema (.resource id) aggregate.name
        (.value aggregate.name (schema.aggregateType resource aggregate))
  | relationship {id : String} {resource : Resource} {relationship : Relationship}
      (named : schema.resource? id = some resource)
      (shown : relationship ∈ resource.publicRelationships) :
      Step schema (.resource id) relationship.name (.resource relationship.destination)
  | tag {owner tag : String} {members : List (String × TypeRef)} {name : Option String}
      {type : TypeRef} (listed : (tag, type) ∈ members) :
      Step schema (.value owner (.union members name)) tag (.value tag type)
  | field {owner : String} {container : Container} {fields : List FieldSpec}
      {instanceOf : Option String} {renames : Renames} {field : FieldSpec}
      (listed : field ∈ fields) :
      Step schema (.value owner (.struct container fields instanceOf renames)) field.name
        (.value field.name field.type)
  | item (owner : String) (item : TypeRef) (constraints : Constraints) :
      Step schema (.value owner (.array item constraints)) "[]" (.value owner item)

/-- Whether a spot is followed to another without a name of its own: a reference to its resource,
and a struct to the resource that it is an instance of. -/
inductive Follows (schema : Schema) : Spot → Spot → Prop where
  | reference (owner id : String) : Follows schema (.value owner (.resource id)) (.resource id)
  | instanceOf {owner id : String} {container : Container} {fields : List FieldSpec}
      {instanceOf : Option String} {renames : Renames}
      (known : schema.instance? instanceOf = some id) :
      Follows schema (.value owner (.struct container fields instanceOf renames)) (.resource id)

/-- Whether a row of names leads from a spot to another. -/
inductive Path (schema : Schema) (first : Spot) : AccessPath → Spot → Prop where
  | stay : Path schema first [] first
  | step {names : AccessPath} {spot other : Spot} {name : String}
      (before : Path schema first names spot) (leads : schema.Step spot name other) :
      Path schema first (names ++ [name]) other
  | follow {names : AccessPath} {spot other : Spot} (before : Path schema first names spot)
      (followed : schema.Follows spot other) : Path schema first names other

/-- Where access paths begin: at a given resource with its short name, and at a root with the path
of the root. -/
inductive Opens (schema : Schema) (exposed : List String) (roots : List TypeRoot) :
    AccessPath → Spot → Prop where
  | given {id : String} {resource : Resource} (listed : id ∈ exposed)
      (named : schema.resource? id = some resource) :
      Opens schema exposed roots [resource.shortName] (.resource id)
  | root {root : TypeRoot} (listed : root ∈ roots) :
      Opens schema exposed roots root.path (.value root.owner root.type)

/-- Whether a path is an access path to a spot: a beginning, and names that lead on from there. -/
def Accesses (schema : Schema) (exposed : List String) (roots : List TypeRoot)
    (path : AccessPath) (spot : Spot) : Prop :=
  ∃ beginning first names, schema.Opens exposed roots beginning first ∧
    schema.Path first names spot ∧ path = beginning ++ names

namespace Accesses

variable {schema : Schema} {exposed : List String} {roots : List TypeRoot} {path : AccessPath}
  {spot other : Spot}

theorem of_opens (opened : schema.Opens exposed roots path spot) :
    schema.Accesses exposed roots path spot :=
  ⟨path, spot, [], opened, .stay, (List.append_nil path).symm⟩

theorem step {name : String} (before : schema.Accesses exposed roots path spot)
    (leads : schema.Step spot name other) :
    schema.Accesses exposed roots (path ++ [name]) other := by
  obtain ⟨beginning, first, names, opened, along, rfl⟩ := before
  exact ⟨beginning, first, names ++ [name], opened, along.step leads, List.append_assoc ..⟩

theorem follow (before : schema.Accesses exposed roots path spot)
    (followed : schema.Follows spot other) : schema.Accesses exposed roots path other := by
  obtain ⟨beginning, first, names, opened, along, rfl⟩ := before
  exact ⟨beginning, first, names, opened, along.follow followed, rfl⟩

end Accesses
end Schema

namespace Discovery

/-! ## What tasks and notes say about paths -/

/-- The path of a task. -/
def Task.path : Task → AccessPath
  | .value _ _ path | .reference _ path | .resource _ path => path

/-- Where the path of a task should lead. -/
def Task.spot : Task → Spot
  | .value type owner _ => .value owner type
  | .reference id _ | .resource id _ => .resource id

variable {schema : Schema} {exposed : List String} {roots : List TypeRoot} {found : Discovery}

/-- Whether the path of a task leads to where it should. -/
def Task.Located (schema : Schema) (exposed : List String) (roots : List TypeRoot) (task : Task) :
    Prop :=
  schema.Accesses exposed roots task.path task.spot

/-- Whether the origin of an enumeration is an access path to it. -/
def EnumLocated (schema : Schema) (exposed : List String) (roots : List TypeRoot)
    (enum : EnumDef) : Prop :=
  ∃ owner name, enum.name = enumName owner name ∧
    schema.Accesses exposed roots enum.origin (.value owner (.enum enum.values name))

/-- Whether the origin of a union is an access path to it. -/
def UnionLocated (schema : Schema) (exposed : List String) (roots : List TypeRoot)
    (union : UnionDef) : Prop :=
  ∃ owner name, union.name = unionName owner name ∧
    schema.Accesses exposed roots union.origin (.value owner (.union union.members name))

/-- What holds of paths all along a traversal. -/
structure Traced (schema : Schema) (exposed : List String) (roots : List TypeRoot)
    (found : Discovery) (tasks : List Task) : Prop where
  references : ∀ reference ∈ found.references,
    schema.Accesses exposed roots reference.path (.resource reference.id)
  enums : ∀ enum ∈ found.enumOccurrences, EnumLocated schema exposed roots enum
  unions : ∀ union ∈ found.unionOccurrences, UnionLocated schema exposed roots union
  ahead : ∀ task ∈ tasks, task.Located schema exposed roots

/-! ## One step -/

/-- What a type leads to is where its path says. -/
theorem located_typeStep (found : Discovery) {owner : String} {path : AccessPath} {type : TypeRef}
    (here : schema.Accesses exposed roots path (.value owner type)) :
    ∀ task ∈ (typeStep schema found owner path type).2, task.Located schema exposed roots := by
  intro task listed
  cases type with
  | primitive | enum | unknown => exact absurd listed (List.not_mem_nil)
  | array item constraints =>
    obtain rfl := List.mem_singleton.mp listed
    exact here.step (.item owner item constraints)
  | resource id =>
    obtain rfl := List.mem_singleton.mp listed
    exact here.follow (.reference owner id)
  | union members name =>
    obtain ⟨⟨tag, type⟩, held, rfl⟩ := List.mem_map.mp listed
    exact here.step (.tag held)
  | struct container fields instanceOf renames =>
    rcases List.mem_append.mp listed with followed | listed
    · obtain ⟨id, given, existing, rfl⟩ := Schema.mem_instanceTasks.mp followed
      exact here.follow (.instanceOf (Option.filter_eq_some_iff.mpr ⟨given, existing⟩))
    · obtain ⟨field, held, rfl⟩ := List.mem_map.mp listed
      exact here.step (.field held)

/-- What a resource shows is where its path says. -/
theorem located_resourceTasks {id : String} {resource : Resource} {path : AccessPath}
    (named : schema.resource? id = some resource)
    (here : schema.Accesses exposed roots path (.resource id)) :
    ∀ task ∈ resourceTasks schema resource path, task.Located schema exposed roots := by
  intro task listed
  simp only [resourceTasks, List.mem_append, List.mem_map, List.mem_filter] at listed
  rcases listed with ((⟨stored, shown, rfl⟩ | ⟨calculation, shown, rfl⟩) |
    ⟨aggregate, ⟨shown, backed⟩, rfl⟩) | ⟨relationship, shown, rfl⟩
  · exact here.step (.attribute named shown)
  · exact here.step (.calculation named shown)
  · exact here.step (.aggregate named shown backed)
  · exact here.step (.relationship named shown)

/-- **Every step keeps paths where they should lead.** -/
theorem traced_step {task : Task} {rest : List Task}
    (traced : Traced schema exposed roots found (task :: rest)) :
    Traced schema exposed roots (step schema found task).1
      ((step schema found task).2 ++ rest) := by
  obtain ⟨references, enums, unions, ahead⟩ := traced
  obtain ⟨here, others⟩ := List.forall_mem_cons.mp ahead
  cases task with
  | value type owner path =>
    have next := List.forall_mem_append.mpr ⟨located_typeStep found here, others⟩
    cases type with
    | primitive | array | struct | resource | unknown => exact ⟨references, enums, unions, next⟩
    | enum values name =>
      refine ⟨references, List.forall_mem_append.mpr ⟨enums, ?_⟩, unions, next⟩
      exact List.forall_mem_singleton.mpr ⟨owner, name, rfl, here⟩
    | union members name =>
      refine ⟨references, enums, List.forall_mem_append.mpr ⟨unions, ?_⟩, next⟩
      exact List.forall_mem_singleton.mpr ⟨owner, name, rfl, here⟩
  | reference id path =>
    refine ⟨?_, ?_, ?_, List.forall_mem_append.mpr ⟨?_, others⟩⟩
    · rw [step, references_referenceStep]
      exact List.forall_mem_append.mpr ⟨references, List.forall_mem_singleton.mpr here⟩
    · rwa [step, enumOccurrences_referenceStep]
    · rwa [step, unionOccurrences_referenceStep]
    · rw [step, referenceStep]
      cases named : schema.resource? id with
      | none => exact List.forall_mem_nil _
      | some resource =>
        refine List.forall_mem_singleton.mpr ?_
        show schema.Accesses exposed roots path (.resource resource.id)
        rwa [Schema.id_of_resource? named]
  | resource id path =>
    rw [step]
    cases fresh : unvisited? schema found.visited id with
    | none => exact ⟨references, enums, unions, others⟩
    | some resource =>
      have named := (resource?_of_unvisited? fresh).2
      exact ⟨references, enums, unions,
        List.forall_mem_append.mpr ⟨located_resourceTasks named here, others⟩⟩

/-! ## Whole traversals -/

theorem traced_start (schema : Schema) (exposed : List String) (roots : List TypeRoot) :
    Traced schema exposed roots (start schema exposed) (startTasks schema exposed roots) := by
  obtain ⟨enums, unions, references⟩ := findings_eq_nil_iff.mp (findings_start schema exposed)
  refine ⟨?_, ?_, ?_, List.forall_mem_append.mpr ⟨?_, ?_⟩⟩
  · rw [references]
    exact List.forall_mem_nil _
  · rw [enums]
    exact List.forall_mem_nil _
  · rw [unions]
    exact List.forall_mem_nil _
  · intro task listed
    obtain ⟨resource, held, rfl⟩ := List.mem_map.mp listed
    obtain ⟨id, given, named⟩ := List.mem_filterMap.mp held
    show schema.Accesses exposed roots [resource.shortName] (.resource resource.id)
    rw [Schema.id_of_resource? named]
    exact .of_opens (.given given named)
  · intro task listed
    obtain ⟨root, held, rfl⟩ := List.mem_map.mp listed
    exact .of_opens (.root held)

theorem traced_discover (schema : Schema) (exposed : List String) (roots : List TypeRoot) :
    Traced schema exposed roots (discover schema exposed roots) [] :=
  Worklist.run_induction (fun _ _ _ => traced_step) (traced_start schema exposed roots)

/-- **Every noted path is an access path to what it is noted for.**  It begins with the short name
of a given resource or with the path of a root, and each further name leads on from the resource or
the value that has been reached.  The path of a reference leads to the resource that is referred to,
whether that exists or not.  The origin of an enumeration or of a union, which is shown with arrows
between its names, leads to a value with just these values or members, and the type is named like
the noted one: as it says itself, or after the owner of the value. -/
theorem noted_paths_access (schema : Schema) (exposed : List String) (roots : List TypeRoot) :
    let found := discover schema exposed roots
    (∀ reference ∈ found.references,
      schema.Accesses exposed roots reference.path (.resource reference.id)) ∧
    (∀ enum ∈ found.enumOccurrences, ∃ owner name, enum.name = enumName owner name ∧
      schema.Accesses exposed roots enum.origin (.value owner (.enum enum.values name))) ∧
    ∀ union ∈ found.unionOccurrences, ∃ owner name, union.name = unionName owner name ∧
      schema.Accesses exposed roots union.origin (.value owner (.union union.members name)) := by
  obtain ⟨references, enums, unions, -⟩ := traced_discover schema exposed roots
  exact ⟨references, enums, unions⟩

end Discovery
end TypedRpc
