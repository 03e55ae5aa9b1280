import TypedRpc.Client.Plan
import TypedRpc.Proofs.Discovery.Reachability

/-!
# References that lead nowhere

A traversal notes every reference, and those that name no resource once more.  The check of what is
exposed leaves out what is noted on a path of one step, which is how a resource that is exposed and
does not exist is noted; references stand on longer paths, so none of them is left out.

* `MissingListed`, `missing_discover`: what is noted to be missing.
* `Noted`: what holds of the notes all along a traversal.
* `Schema.missing_filter_eq`: what is left of the notes are the references that lead nowhere.
* `missingFaults_eq_nil_iff`: nothing is found exactly when every reference names a resource.
-/

namespace TypedRpc
namespace Discovery

/-- Whether whatever is noted for a task stands on a path of two steps at least. -/
def Task.IsDeep : Task → Prop
  | .value _ _ path | .reference _ path => 2 ≤ path.length
  | .resource _ path => 1 ≤ path.length

/-- The exposed resources that do not exist, as they are noted. -/
def absentNotes (schema : Schema) (exposed : List String) : List Reference :=
  (exposed.filter fun id => (schema.resource? id).isNone).map fun id => ⟨id, [id]⟩

/-- Whether what is missing are the given ids that name no resource and then the references that
name none, both in their order. -/
def MissingListed (schema : Schema) (exposed : List String) (found : Discovery) : Prop :=
  found.missing = absentNotes schema exposed ++
    found.references.filter fun reference => (schema.resource? reference.id).isNone

/-- What holds of the notes on references all along a traversal. -/
structure Noted (schema : Schema) (exposed : List String) (found : Discovery)
    (tasks : List Task) : Prop where
  missing : found.missing = absentNotes schema exposed ++
    found.references.filter fun reference => (schema.resource? reference.id).isNone
  deep : ∀ reference ∈ found.references, 2 ≤ reference.path.length
  ahead : ∀ task ∈ tasks, task.IsDeep

theorem deep_below {path : AccessPath} (h : 1 ≤ path.length) (name : String) :
    2 ≤ (path ++ [name]).length := by
  simpa using h

theorem deep_typeStep {schema : Schema} {found : Discovery} {owner : String} {path : AccessPath}
    {type : TypeRef} (h : 2 ≤ path.length) :
    ∀ task ∈ (typeStep schema found owner path type).2, task.IsDeep := by
  intro task listed
  cases type with
  | primitive | enum | unknown => exact absurd listed (List.not_mem_nil)
  | array item constraints =>
    obtain rfl := List.mem_singleton.mp listed
    exact deep_below (by omega) _
  | resource id =>
    obtain rfl := List.mem_singleton.mp listed
    exact h
  | union members name =>
    obtain ⟨member, -, rfl⟩ := List.mem_map.mp listed
    exact deep_below (by omega) _
  | struct container fields instanceOf renames =>
    rcases List.mem_append.mp listed with listed | listed
    · obtain ⟨id, -, -, rfl⟩ := Schema.mem_instanceTasks.mp listed
      exact h
    · obtain ⟨field, -, rfl⟩ := List.mem_map.mp listed
      exact deep_below (by omega) _

theorem deep_resourceTasks {schema : Schema} {resource : Resource} {path : AccessPath}
    (h : 1 ≤ path.length) : ∀ task ∈ resourceTasks schema resource path, task.IsDeep := by
  intro task listed
  simp only [resourceTasks, List.mem_append, List.mem_map] at listed
  rcases listed with ((⟨_, -, rfl⟩ | ⟨_, -, rfl⟩) | ⟨_, -, rfl⟩) | ⟨_, -, rfl⟩ <;>
    exact deep_below h _

theorem references_typeStep (schema : Schema) (found : Discovery) (owner : String)
    (path : AccessPath) (type : TypeRef) :
    (typeStep schema found owner path type).1.references = found.references ∧
      (typeStep schema found owner path type).1.missing = found.missing := by
  cases type <;> exact ⟨rfl, rfl⟩

theorem missing_register (found : Discovery) (resource : Resource) :
    (found.register resource).missing = found.missing := by
  unfold register
  split <;> split <;> rfl

/-- What is missing is noted along with the references, and nothing else is. -/
theorem missing_step {schema : Schema} {exposed : List String} {found : Discovery}
    (kept : MissingListed schema exposed found) (task : Task) :
    MissingListed schema exposed (step schema found task).1 := by
  unfold MissingListed at kept ⊢
  cases task with
  | value type owner path =>
    obtain ⟨same, same_missing⟩ := references_typeStep schema found owner path type
    rw [step, same, same_missing, kept]
  | resource id path =>
    rw [step]
    split <;> exact kept
  | reference id path =>
    rw [step, referenceStep]
    cases named : schema.resource? id with
    | none =>
      simp only [addReference, addMissing, kept, List.filter_append, List.append_assoc]
      simp [named]
    | some resource =>
      simp only [missing_register, references_register, addReference, kept, List.filter_append]
      simp [named]

theorem missing_start (schema : Schema) (exposed : List String) :
    MissingListed schema exposed (start schema exposed) := by
  unfold MissingListed
  rw [references_start]
  simp [start, absentNotes]

/-- **What is missing** in the end are the given ids that name no resource and then the references
that name none. -/
theorem missing_discover (schema : Schema) (exposed : List String) (roots : List TypeRoot) :
    MissingListed schema exposed (discover schema exposed roots) :=
  Worklist.run_induction (P := fun found _ => MissingListed schema exposed found)
    (fun _ task _ kept => missing_step kept task) (missing_start schema exposed)

theorem noted_step {schema : Schema} {exposed : List String} {found : Discovery} {task : Task}
    {rest : List Task} (h : Noted schema exposed found (task :: rest)) :
    Noted schema exposed (step schema found task).1 ((step schema found task).2 ++ rest) := by
  obtain ⟨missing, deep, ahead⟩ := h
  rw [List.forall_mem_cons] at ahead
  refine ⟨missing_step missing task, ?_, ?_⟩
  · cases task with
    | value type owner path => rwa [step, (references_typeStep schema found owner path type).1]
    | resource id path =>
      rw [step]
      split <;> exact deep
    | reference id path =>
      rw [step, references_referenceStep]
      exact List.forall_mem_append.mpr ⟨deep, List.forall_mem_singleton.mpr ahead.1⟩
  · refine List.forall_mem_append.mpr ⟨?_, ahead.2⟩
    cases task with
    | value type owner path => exact deep_typeStep ahead.1
    | resource id path =>
      rw [step]
      split
      · exact List.forall_mem_nil _
      · exact deep_resourceTasks ahead.1
    | reference id path =>
      rw [step, referenceStep]
      split
      · exact List.forall_mem_nil _
      · exact List.forall_mem_singleton.mpr (Nat.le_of_succ_le ahead.1)

theorem noted_start {schema : Schema} {exposed : List String} {roots : List TypeRoot}
    (deep : ∀ root ∈ roots, 2 ≤ root.path.length) :
    Noted schema exposed (start schema exposed) (startTasks schema exposed roots) := by
  refine ⟨missing_start schema exposed, ?_, List.forall_mem_append.mpr ⟨?_, ?_⟩⟩
  · rw [references_start]
    exact fun _ h => absurd h (List.not_mem_nil)
  · intro task listed
    obtain ⟨resource, -, rfl⟩ := List.mem_map.mp listed
    exact Nat.le_refl 1
  · intro task listed
    obtain ⟨root, held, rfl⟩ := List.mem_map.mp listed
    exact deep root held

theorem noted_discover {schema : Schema} {exposed : List String} {roots : List TypeRoot}
    (deep : ∀ root ∈ roots, 2 ≤ root.path.length) :
    Noted schema exposed (discover schema exposed roots) [] :=
  Worklist.run_induction (fun _ _ _ => noted_step) (noted_start deep)

end Discovery

/-- The types that actions mention stand on paths of three steps. -/
theorem two_le_length_of_mem_actionRoots {exposed : List ExposedAction} :
    ∀ root ∈ actionRoots exposed, 2 ≤ root.path.length := by
  intro root listed
  obtain ⟨action, -, held⟩ := List.mem_flatMap.mp listed
  simp only [ExposedAction.roots, List.mem_append, List.mem_map] at held
  rcases held with (⟨argument, -, rfl⟩ | returned) | ⟨field, -, rfl⟩
  · exact Nat.le_add_left 2 1
  · unfold returnRoots at returned
    split at returned
    · obtain rfl := List.mem_singleton.mp returned
      exact Nat.le_add_left 2 1
    · exact absurd returned (List.not_mem_nil)
  · exact Nat.le_add_left 2 1

/-- References stand on longer paths than exposed ids that name no resource, so what is missing on
a longer path are the references that name none. -/
theorem Schema.missing_filter_eq (schema : Schema) :
    (schema.discovery.missing.filter fun reference => reference.path != [reference.id]) =
      schema.discovery.references.filter fun reference =>
        (schema.resource? reference.id).isNone := by
  have noted : Discovery.Noted schema schema.exposedResourceIds schema.discovery [] :=
    Discovery.noted_discover two_le_length_of_mem_actionRoots
  have given : (Discovery.absentNotes schema schema.exposedResourceIds).filter
      (fun reference => reference.path != [reference.id]) = [] := by
    rw [List.filter_eq_nil_iff]
    intro reference listed
    obtain ⟨id, -, rfl⟩ := List.mem_map.mp listed
    simp
  rw [noted.missing, List.filter_append, given, List.nil_append, List.filter_eq_self]
  intro reference listed
  have long := noted.deep reference (List.mem_of_mem_filter listed)
  rw [bne_iff_ne]
  intro short
  rw [short] at long
  exact absurd long (by simp)

/-- **No reference is reported exactly when every reference names a resource.** -/
theorem missingFaults_eq_nil_iff {schema : Schema} :
    missingFaults schema.discovery = [] ↔
      ∀ reference ∈ schema.discovery.references, (schema.resource? reference.id).isSome := by
  rw [missingFaults, List.map_eq_nil_iff, schema.missing_filter_eq, List.filter_eq_nil_iff]
  simp only [Option.isNone_iff_eq_none, Option.isSome_iff_ne_none, ne_eq]

end TypedRpc
