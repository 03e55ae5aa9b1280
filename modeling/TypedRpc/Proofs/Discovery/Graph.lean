import Mathlib.Logic.Relation
import TypedRpc.Proofs.Discovery.Findings

/-!
# The graph of a schema

The resources of a schema form a graph that may have cycles: a resource leads to those that its
public fields refer to.  The graph is said here without a traversal, and then compared with what a
traversal finds.

* `TypeRef.Mentions`, `Schema.Leads`, `Schema.Reaches`: the graph.
* `mem_typeFindings_iff_mentions`, `mem_resourceFindings_iff_refers`: the references that a
  traversal finds in a type and on a resource are its edges.

A struct may say of which resource it is an instance.  Which ids count there is left open in the
graph; a traversal counts those that are not empty.
-/

namespace TypedRpc

/-! ## The graph of a schema -/

/-- Whether a type mentions the resource of an id.  A struct mentions the one that it is an instance
of, provided that the id counts. -/
inductive TypeRef.Mentions (counts : String → Prop) : TypeRef → String → Prop where
  | reference (id : String) : Mentions counts (.resource id) id
  | item {item : TypeRef} {id : String} (constraints : Constraints)
      (inside : Mentions counts item id) : Mentions counts (.array item constraints) id
  | member {members : List (String × TypeRef)} {tag : String} {type : TypeRef} {id : String}
      (name : Option String) (listed : (tag, type) ∈ members) (inside : Mentions counts type id) :
      Mentions counts (.union members name) id
  | field {fields : List FieldSpec} {field : FieldSpec} {id : String} (container : Container)
      (instanceOf : Option String) (renames : Renames) (listed : field ∈ fields)
      (inside : Mentions counts field.type id) :
      Mentions counts (.struct container fields instanceOf renames) id
  | instanceOf {id : String} (container : Container) (fields : List FieldSpec) (renames : Renames)
      (known : counts id) : Mentions counts (.struct container fields (some id) renames) id

/-- Whether the public fields of a resource refer to an id. -/
inductive Resource.Refers (schema : Schema) (counts : String → Prop) (resource : Resource)
    (id : String) : Prop where
  | byAttribute (stored : Attribute) (shown : stored ∈ resource.publicAttributes)
      (mentioned : stored.type.Mentions counts id)
  | byCalculation (calculation : Calculation) (shown : calculation ∈ resource.publicCalculations)
      (mentioned : calculation.type.Mentions counts id)
  | byAggregate (aggregate : Aggregate) (shown : aggregate ∈ resource.publicAggregates)
      (backed : aggregate.hasBackingField)
      (mentioned : (schema.aggregateType resource aggregate).Mentions counts id)
  | byRelationship (relationship : Relationship)
      (shown : relationship ∈ resource.publicRelationships)
      (leads : relationship.destination = id)

namespace Schema

/-- Whether the resource of an id leads to that of another. -/
def Leads (schema : Schema) (counts : String → Prop) (source target : String) : Prop :=
  (∃ resource, schema.resource? source = some resource ∧
    resource.Refers schema counts target) ∧ (schema.resource? target).isSome

/-- Whether a resource is begun with: it is exposed, or a root mentions it. -/
def BeginsWith (schema : Schema) (counts : String → Prop) (exposed : List String)
    (roots : List TypeRoot) (id : String) : Prop :=
  (id ∈ exposed ∨ ∃ root ∈ roots, root.type.Mentions counts id) ∧ (schema.resource? id).isSome

/-- Whether a resource can be reached. -/
def Reaches (schema : Schema) (counts : String → Prop) (exposed : List String)
    (roots : List TypeRoot) (id : String) : Prop :=
  ∃ first, schema.BeginsWith counts exposed roots first ∧
    Relation.ReflTransGen (schema.Leads counts) first id

end Schema

namespace Discovery

/-- The ids that count where a struct says what it is an instance of. -/
def NotEmpty (id : String) : Prop :=
  id ≠ ""

theorem given?_eq_some {name : Option String} {text : String} :
    given? name = some text ↔ name = some text ∧ NotEmpty text := by
  cases name with
  | none => simp [given?]
  | some other =>
    by_cases h : other = ""
    · simp only [given?, h, NotEmpty]
      constructor
      · exact fun h => by simp at h
      · rintro ⟨same, other⟩
        exact absurd (Option.some.inj same).symm other
    · simp only [given?, NotEmpty, String.isEmpty_iff, h, if_false, Option.some.injEq]
      constructor
      · rintro rfl
        exact ⟨rfl, h⟩
      · exact fun same => same.1

/-! ## References among the findings -/

theorem reference_mem_instanceFindings {schema : Schema} {instanceOf : Option String}
    {id : String} :
    .reference id ∈ instanceFindings schema instanceOf ↔
      instanceOf = some id ∧ NotEmpty id ∧ (schema.resource? id).isSome := by
  unfold instanceFindings
  cases h : given? instanceOf with
  | none =>
    have : ¬ (instanceOf = some id ∧ NotEmpty id) := by
      rw [← given?_eq_some, h]
      simp
    simp only [List.not_mem_nil, false_iff]
    exact fun found => this ⟨found.1, found.2.1⟩
  | some other =>
    obtain ⟨rfl, known⟩ := given?_eq_some.mp h
    by_cases found : (schema.resource? other).isSome
    · simp only [found, if_true, List.mem_singleton, Finding.reference.injEq, Option.some.injEq]
      constructor
      · rintro rfl
        exact ⟨rfl, known, found⟩
      · exact fun same => same.1.symm
    · simp only [found, Bool.false_eq_true, if_false, List.not_mem_nil, false_iff]
      rintro ⟨same, -, some⟩
      rw [Option.some.inj same] at found
      exact found some

mutual

/-- What a traversal refers to from a type is mentioned there. -/
theorem mentions_of_mem_typeFindings {schema : Schema} {id : String} :
    ∀ (type : TypeRef) (owner : String), .reference id ∈ typeFindings schema owner type →
      type.Mentions NotEmpty id
  | .primitive _ _, _, h | .unknown _, _, h | .enum _ _, _, h => by simp [typeFindings] at h
  | .array item constraints, owner, h => by
    rw [typeFindings] at h
    exact .item constraints (mentions_of_mem_typeFindings item owner h)
  | .union members name, _, h => by
    rw [typeFindings, List.mem_cons] at h
    obtain ⟨tag, type, listed, inside⟩ := mentions_of_mem_memberFindings members (by simpa using h)
    exact .member name listed inside
  | .struct container fields instanceOf renames, _, h => by
    rw [typeFindings, List.mem_append, reference_mem_instanceFindings] at h
    rcases h with ⟨rfl, known, -⟩ | h
    · exact .instanceOf container fields renames known
    · obtain ⟨field, listed, inside⟩ := mentions_of_mem_fieldFindings fields h
      exact .field container instanceOf renames listed inside
  | .resource other, _, h => by
    simp only [typeFindings, List.mem_singleton, Finding.reference.injEq] at h
    rw [h]
    exact .reference other

theorem mentions_of_mem_memberFindings {schema : Schema} {id : String} :
    ∀ members : List (String × TypeRef), .reference id ∈ memberFindings schema members →
      ∃ tag type, (tag, type) ∈ members ∧ type.Mentions NotEmpty id
  | [], h => by simp [memberFindings] at h
  | (tag, type) :: rest, h => by
    rw [memberFindings, List.mem_append] at h
    rcases h with h | h
    · exact ⟨tag, type, by simp, mentions_of_mem_typeFindings type tag h⟩
    · obtain ⟨other, inner, listed, inside⟩ := mentions_of_mem_memberFindings rest h
      exact ⟨other, inner, List.mem_cons_of_mem _ listed, inside⟩

theorem mentions_of_mem_fieldFindings {schema : Schema} {id : String} :
    ∀ fields : List (Field TypeRef), .reference id ∈ fieldFindings schema fields →
      ∃ field ∈ fields, field.type.Mentions NotEmpty id
  | [], h => by simp [fieldFindings] at h
  | field :: rest, h => by
    rw [fieldFindings, List.mem_append] at h
    rcases h with h | h
    · exact ⟨field, by simp, mentions_of_mem_typeFindings field.type field.name h⟩
    · obtain ⟨other, listed, inside⟩ := mentions_of_mem_fieldFindings rest h
      exact ⟨other, List.mem_cons_of_mem _ listed, inside⟩

end

/-- What a type mentions, and exists, is referred to from it. -/
theorem mem_typeFindings_of_mentions {schema : Schema} {id : String} {type : TypeRef}
    (h : type.Mentions NotEmpty id) (existing : (schema.resource? id).isSome) :
    ∀ owner : String, .reference id ∈ typeFindings schema owner type := by
  induction h with
  | reference id =>
    intro owner
    simp [typeFindings]
  | item constraints inside ih =>
    intro owner
    rw [typeFindings]
    exact ih existing owner
  | member name listed inside ih =>
    intro owner
    rw [typeFindings, memberFindings_eq_flatMap, List.mem_cons, List.mem_flatMap]
    exact .inr ⟨_, listed, ih existing _⟩
  | field container instanceOf renames listed inside ih =>
    intro owner
    rw [typeFindings, fieldFindings_eq_flatMap, List.mem_append, List.mem_flatMap]
    exact .inr ⟨_, listed, ih existing _⟩
  | instanceOf container fields renames known =>
    intro owner
    rw [typeFindings, List.mem_append, reference_mem_instanceFindings]
    exact .inl ⟨rfl, known, existing⟩

theorem mem_typeFindings_iff_mentions {schema : Schema} {id owner : String} {type : TypeRef}
    (existing : (schema.resource? id).isSome) :
    .reference id ∈ typeFindings schema owner type ↔ type.Mentions NotEmpty id :=
  ⟨mentions_of_mem_typeFindings type owner, fun h => mem_typeFindings_of_mentions h existing owner⟩

/-- The references among the findings of a resource are those of its public fields. -/
theorem mem_resourceFindings_iff_refers {schema : Schema} {id : String} {resource : Resource}
    (existing : (schema.resource? id).isSome) :
    .reference id ∈ resourceFindings schema resource ↔ resource.Refers schema NotEmpty id := by
  simp only [resourceFindings, List.mem_append, List.mem_flatMap, List.mem_map, List.mem_filter,
    mem_typeFindings_iff_mentions existing, Finding.reference.injEq]
  constructor
  · rintro (((⟨stored, shown, mentioned⟩ | ⟨calculation, shown, mentioned⟩) |
      ⟨aggregate, ⟨shown, backed⟩, mentioned⟩) | ⟨relationship, shown, leads⟩)
    · exact .byAttribute stored shown mentioned
    · exact .byCalculation calculation shown mentioned
    · exact .byAggregate aggregate shown backed mentioned
    · exact .byRelationship relationship shown leads
  · rintro (⟨stored, shown, mentioned⟩ | ⟨calculation, shown, mentioned⟩ |
      ⟨aggregate, shown, backed, mentioned⟩ | ⟨relationship, shown, leads⟩)
    · exact .inl (.inl (.inl ⟨stored, shown, mentioned⟩))
    · exact .inl (.inl (.inr ⟨calculation, shown, mentioned⟩))
    · exact .inl (.inr ⟨aggregate, ⟨shown, backed⟩, mentioned⟩)
    · exact .inr ⟨relationship, shown, leads⟩

theorem reference_mem_rootFindings {schema : Schema} {id : String} {roots : List TypeRoot}
    (existing : (schema.resource? id).isSome) :
    .reference id ∈ rootFindings schema roots ↔ ∃ root ∈ roots, root.type.Mentions NotEmpty id := by
  simp [rootFindings, mem_typeFindings_iff_mentions existing]

theorem mem_visitFindings {schema : Schema} {ids : List String} {finding : Finding} :
    finding ∈ visitFindings schema ids ↔
      ∃ id ∈ ids, ∃ resource, schema.resource? id = some resource ∧
        finding ∈ resourceFindings schema resource := by
  simp only [visitFindings, List.mem_flatMap, List.mem_filterMap]
  constructor
  · rintro ⟨resource, ⟨id, listed, named⟩, held⟩
    exact ⟨id, listed, resource, named, held⟩
  · rintro ⟨id, listed, resource, named, held⟩
    exact ⟨resource, ⟨id, listed, named⟩, held⟩

end Discovery
end TypedRpc
