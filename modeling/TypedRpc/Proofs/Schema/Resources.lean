import TypedRpc.Proofs.Verification.Agreement

/-!
# What depends on the resources alone

Two schemas with the same resources may expose different actions.  Whatever does not look at what is
exposed is the same for both: the resource that an id names, what a type or a resource holds, where
a resource leads to, and what is found about one exposed action or one typed query.

* `Discovery.typeFindings_congr`, `Schema.leads_congr`: the graph.
* `exposedNameFaults_congr`, `queryFaults_congr`: the checks of single entries.
-/

namespace TypedRpc

variable {schema other : Schema}

namespace Schema

theorem resource?_congr (same : schema.resources = other.resources) (id : String) :
    schema.resource? id = other.resource? id := by
  rw [resource?, resource?, same]

/-- Schemas with the same resources agree on all ids. -/
theorem AgreeOn.of_resources (same : schema.resources = other.resources) :
    AgreeOn (fun _ => True) schema other :=
  .of_lookup (resource?_congr same)

theorem aggregateType_congr (same : schema.resources = other.resources) (resource : Resource)
    (aggregate : Aggregate) :
    schema.aggregateType resource aggregate = other.aggregateType resource aggregate :=
  (aggregateType_agree (.of_resources same) resource.within_true aggregate).1

end Schema

/-! ## The graph -/

theorem Resource.Refers.congr (same : schema.resources = other.resources)
    {counts : String → Prop} {resource : Resource} {id : String}
    (h : resource.Refers schema counts id) : resource.Refers other counts id := by
  cases h with
  | byAttribute stored shown mentioned => exact .byAttribute stored shown mentioned
  | byCalculation calculation shown mentioned => exact .byCalculation calculation shown mentioned
  | byAggregate aggregate shown backed mentioned =>
    rw [Schema.aggregateType_congr same] at mentioned
    exact .byAggregate aggregate shown backed mentioned
  | byRelationship relationship shown leads => exact .byRelationship relationship shown leads

theorem Schema.leads_congr (same : schema.resources = other.resources) {counts : String → Prop}
    {source target : String} (h : schema.Leads counts source target) :
    other.Leads counts source target := by
  obtain ⟨⟨resource, named, refers⟩, existing⟩ := h
  rw [Schema.resource?_congr same] at named existing
  exact ⟨⟨resource, named, refers.congr same⟩, existing⟩

namespace Discovery

theorem instanceFindings_congr (same : schema.resources = other.resources)
    (instanceOf : Option String) :
    instanceFindings schema instanceOf = instanceFindings other instanceOf := by
  simp only [instanceFindings, Schema.resource?_congr same]

mutual

/-- A type holds the same in both schemas. -/
theorem typeFindings_congr (same : schema.resources = other.resources) :
    ∀ (type : TypeRef) (owner : String),
      typeFindings schema owner type = typeFindings other owner type
  | .primitive _ _, _ | .enum _ _, _ | .resource _, _ | .unknown _, _ => by
    rw [typeFindings, typeFindings]
  | .array item _, owner => by
    rw [typeFindings, typeFindings, typeFindings_congr same item owner]
  | .union members _, _ => by
    rw [typeFindings, typeFindings, memberFindings_congr same members]
  | .struct _ fields instanceOf _, _ => by
    rw [typeFindings, typeFindings, instanceFindings_congr same, fieldFindings_congr same fields]

theorem memberFindings_congr (same : schema.resources = other.resources) :
    ∀ members : List (String × TypeRef),
      memberFindings schema members = memberFindings other members
  | [] => rfl
  | (tag, type) :: rest => by
    rw [memberFindings, memberFindings, typeFindings_congr same type tag,
      memberFindings_congr same rest]

theorem fieldFindings_congr (same : schema.resources = other.resources) :
    ∀ fields : List (Field TypeRef), fieldFindings schema fields = fieldFindings other fields
  | [] => rfl
  | field :: rest => by
    rw [fieldFindings, fieldFindings, typeFindings_congr same field.type field.name,
      fieldFindings_congr same rest]

end

theorem resourceFindings_congr (same : schema.resources = other.resources) (resource : Resource) :
    resourceFindings schema resource = resourceFindings other resource := by
  simp only [resourceFindings, typeFindings_congr same, Schema.aggregateType_congr same]

end Discovery

/-! ## The checks of single entries -/

theorem exposedNameFaults_congr (same : schema.resources = other.resources)
    (exposed : ExposedAction) :
    exposedNameFaults schema exposed = exposedNameFaults other exposed := by
  simp only [exposedNameFaults, nestedNameFaults,
    NestedNames.run_agree (.of_resources same) _ _ _ fun task _ => task.within_true]

theorem queryFaults_congr (same : schema.resources = other.resources) (resource : Resource)
    (query : TypedQuery) : queryFaults schema resource query = queryFaults other resource query :=
  queryFaults_agree (.of_resources same) resource.within_true query

end TypedRpc
