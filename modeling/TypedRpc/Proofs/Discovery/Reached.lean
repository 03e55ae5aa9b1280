import TypedRpc.Proofs.Discovery.Findings
import TypedRpc.Proofs.Grouping

/-!
# The lists of reached resources

A traversal keeps the resources that it reaches in two lists, the embedded ones apart from the
others.  Each list holds what has been met of its kind, at its first place: first the resources that
were given, then those that references name.

* `metIds`: what has been met, in order.
* `Listed`: the invariant, with `listed_start` and `listed_step`.
-/

namespace TypedRpc
namespace Discovery

/-- The reached resources of one kind: those that are embedded, or those that are not. -/
def reached (found : Discovery) (embedded : Bool) : List String :=
  if embedded then found.embedded else found.resources

/-- Whether an id names a resource of one kind. -/
def isOfKind (schema : Schema) (embedded : Bool) (id : String) : Bool :=
  (schema.resource? id).any fun resource => resource.embedded == embedded

theorem mem_allResources {found : Discovery} {id : String} :
    id ∈ found.allResources ↔ ∃ embedded, id ∈ found.reached embedded := by
  simp [allResources, reached]

theorem reached_register (found : Discovery) (resource : Resource) (embedded : Bool) :
    (found.register resource).reached embedded =
      if resource.embedded = embedded then addFirst (found.reached embedded) resource.id
      else found.reached embedded := by
  unfold register reached addFirst
  cases resource.embedded <;> cases embedded <;> simp only [Bool.false_eq_true, if_false, if_true]
  all_goals split <;> rfl

@[simp] theorem references_register (found : Discovery) (resource : Resource) :
    (found.register resource).references = found.references := by
  unfold register
  split <;> split <;> rfl

@[simp] theorem enumOccurrences_register (found : Discovery) (resource : Resource) :
    (found.register resource).enumOccurrences = found.enumOccurrences := by
  unfold register
  split <;> split <;> rfl

@[simp] theorem unionOccurrences_register (found : Discovery) (resource : Resource) :
    (found.register resource).unionOccurrences = found.unionOccurrences := by
  unfold register
  split <;> split <;> rfl

/-- A reference is noted whether it names a resource or not. -/
theorem references_referenceStep (schema : Schema) (found : Discovery) (id : String)
    (path : AccessPath) :
    (referenceStep schema found id path).1.references = found.references ++ [⟨id, path⟩] := by
  unfold referenceStep
  split
  · rfl
  · exact references_register _ _

theorem enumOccurrences_referenceStep (schema : Schema) (found : Discovery) (id : String)
    (path : AccessPath) :
    (referenceStep schema found id path).1.enumOccurrences = found.enumOccurrences := by
  unfold referenceStep
  split
  · rfl
  · exact enumOccurrences_register _ _

theorem unionOccurrences_referenceStep (schema : Schema) (found : Discovery) (id : String)
    (path : AccessPath) :
    (referenceStep schema found id path).1.unionOccurrences = found.unionOccurrences := by
  unfold referenceStep
  split
  · rfl
  · exact unionOccurrences_register _ _

/-- The ids that have been met: those that were given, and those of references. -/
def metIds (exposed : List String) (found : Discovery) : List String :=
  exposed ++ found.references.map (·.id)

theorem metIds_referenceStep (schema : Schema) (exposed : List String) (found : Discovery)
    (id : String) (path : AccessPath) :
    metIds exposed (referenceStep schema found id path).1 = metIds exposed found ++ [id] := by
  simp [metIds, references_referenceStep]

/-- The lists of reached resources hold what has been met, each kind for itself. -/
def Listed (schema : Schema) (exposed : List String) (found : Discovery) : Prop :=
  ∀ embedded, found.reached embedded =
    firstOccurrences ((metIds exposed found).filter (isOfKind schema embedded))

theorem isOfKind_of_named {schema : Schema} {id : String} {resource : Resource}
    (named : schema.resource? id = some resource) (embedded : Bool) :
    isOfKind schema embedded id = (resource.embedded == embedded) := by
  rw [isOfKind, named]
  rfl

/-- Meeting one more id adds it to the list for its kind. -/
theorem firstOccurrences_filter_concat {schema : Schema} {id : String} {resource : Resource}
    (named : schema.resource? id = some resource) (ids : List String) (embedded : Bool) :
    firstOccurrences ((ids ++ [id]).filter (isOfKind schema embedded)) =
      if resource.embedded = embedded then
        addFirst (firstOccurrences (ids.filter (isOfKind schema embedded))) id
      else firstOccurrences (ids.filter (isOfKind schema embedded)) := by
  rw [List.filter_append]
  by_cases kind : resource.embedded = embedded
  · have kept : [id].filter (isOfKind schema embedded) = [id] := by
      simp [isOfKind_of_named named, kind]
    rw [kept, firstOccurrences_concat, if_pos kind]
  · have dropped : [id].filter (isOfKind schema embedded) = [] := by
      simp [isOfKind_of_named named, kind]
    rw [dropped, List.append_nil, if_neg kind]

theorem listed_step {schema : Schema} {exposed : List String} {found : Discovery} {task : Task}
    (h : Listed schema exposed found) : Listed schema exposed (step schema found task).1 := by
  cases task with
  | value type owner path => cases type <;> exact h
  | resource id path =>
    simp only [step]
    split <;> exact h
  | reference id path =>
    intro embedded
    simp only [step]
    rw [metIds_referenceStep]
    cases named : schema.resource? id with
    | none =>
      have dropped : [id].filter (isOfKind schema embedded) = [] := by
        simp [isOfKind, named]
      rw [List.filter_append, dropped, List.append_nil, ← h embedded, referenceStep, named]
      rfl
    | some resource =>
      rw [firstOccurrences_filter_concat named, ← h embedded, referenceStep, named]
      simp only [reached_register, Schema.id_of_resource? named]
      rfl

/-- No reference has been noted at first. -/
theorem references_start (schema : Schema) (exposed : List String) :
    (start schema exposed).references = [] :=
  (findings_eq_nil_iff.mp (findings_start schema exposed)).2.2

theorem listed_start (schema : Schema) (exposed : List String) :
    Listed schema exposed (start schema exposed) := by
  intro embedded
  have unmet : metIds exposed (start schema exposed) = exposed := by
    simp [metIds, references_start]
  rw [unmet]
  clear unmet
  show ((existing schema exposed).foldl register {}).reached embedded = _
  induction exposed using List.reverseRecOn with
  | nil => cases embedded <;> rfl
  | append_singleton exposed id ih =>
    rw [existing, List.filterMap_append, List.foldl_append]
    cases named : schema.resource? id with
    | none =>
      have dropped : [id].filter (isOfKind schema embedded) = [] := by
        simp [isOfKind, named]
      rw [List.filter_append, dropped, List.append_nil, ← ih]
      simp [named, existing]
    | some resource =>
      have one : [id].filterMap schema.resource? = [resource] := by simp [named]
      rw [firstOccurrences_filter_concat named, ← ih, one, List.foldl_cons, List.foldl_nil,
        reached_register, Schema.id_of_resource? named]
      rfl

end Discovery
end TypedRpc
