import TypedRpc.Proofs.Discovery.Findings
import TypedRpc.Proofs.Grouping

/-!
# The tables of a traversal

A traversal notes every enumeration and every union that it meets, and keeps a table of each by
name.  A name that is in the table keeps what it stands for, whatever is met later, so the tables
are settled by what has been noted: they hold the first occurrence of each name, in the order of
those.

* `Catalogued`: the invariant, with `catalogued_step` and `catalogued_discover`.
* `tables_hold_first_occurrences`: the names of the tables, and what they stand for.
-/

namespace TypedRpc
namespace Discovery

/-- Whether the tables hold the first occurrences. -/
structure Catalogued (found : Discovery) : Prop where
  enums : found.enums = firstByName EnumDef.name found.enumOccurrences
  unions : found.unions = firstByName UnionDef.name found.unionOccurrences

theorem Catalogued.addEnum {found : Discovery} (kept : found.Catalogued) (occurrence : EnumDef) :
    (found.addEnum occurrence).Catalogued where
  enums := by
    show addByName EnumDef.name found.enums occurrence = _
    rw [kept.enums, ← firstByName_concat]
    rfl
  unions := kept.unions

theorem Catalogued.addUnion {found : Discovery} (kept : found.Catalogued) (occurrence : UnionDef) :
    (found.addUnion occurrence).Catalogued where
  enums := kept.enums
  unions := by
    show addByName UnionDef.name found.unions occurrence = _
    rw [kept.unions, ← firstByName_concat]
    rfl

theorem Catalogued.register {found : Discovery} (kept : found.Catalogued) (resource : Resource) :
    (found.register resource).Catalogued := by
  unfold Discovery.register
  split <;> split <;> exact ⟨kept.enums, kept.unions⟩

/-- **No step brings the tables out of step with what has been noted.** -/
theorem catalogued_step {schema : Schema} {found : Discovery} (kept : found.Catalogued)
    (task : Task) : (step schema found task).1.Catalogued := by
  cases task with
  | value type owner path =>
    cases type with
    | primitive | array | struct | resource | unknown => exact kept
    | enum values name => exact kept.addEnum _
    | union members name => exact kept.addUnion _
  | reference id path =>
    have noted : (found.addReference ⟨id, path⟩).Catalogued := ⟨kept.enums, kept.unions⟩
    rw [step, referenceStep]
    cases schema.resource? id with
    | none => exact ⟨noted.enums, noted.unions⟩
    | some resource => exact noted.register resource
  | resource id path =>
    rw [step]
    cases unvisited? schema found.visited id with
    | none => exact kept
    | some resource => exact ⟨kept.enums, kept.unions⟩

theorem catalogued_start (schema : Schema) (exposed : List String) :
    (start schema exposed).Catalogued := by
  have registered (resources : List Resource) (found : Discovery) (kept : found.Catalogued) :
      (resources.foldl Discovery.register found).Catalogued := by
    induction resources generalizing found with
    | nil => exact kept
    | cons resource rest ih => exact ih _ (kept.register resource)
  have begun := registered (existing schema exposed) {} ⟨rfl, rfl⟩
  exact ⟨begun.enums, begun.unions⟩

/-- The tables of a whole traversal hold the first occurrences. -/
theorem catalogued_discover (schema : Schema) (exposed : List String) (roots : List TypeRoot) :
    (discover schema exposed roots).Catalogued :=
  Worklist.run_induction (P := fun found _ => Catalogued found)
    (fun _ task _ kept => catalogued_step kept task) (catalogued_start schema exposed)

/-! ## What the tables hold -/

namespace Catalogued

variable {found : Discovery} (kept : found.Catalogued)

include kept

/-- An enumeration is looked up among the occurrences. -/
theorem enum?_eq (name : String) :
    found.enum? name = found.enumOccurrences.find? fun occurrence => occurrence.name == name := by
  rw [enum?, kept.enums, find?_firstByName]

/-- A union is looked up among the occurrences. -/
theorem union?_eq (name : String) :
    found.union? name = found.unionOccurrences.find? fun occurrence => occurrence.name == name := by
  rw [union?, kept.unions, find?_firstByName]

end Catalogued

/-- **The tables of a traversal hold the first occurrence of each name.**  The names of the
enumerations are those of the occurrences, each at its first place, a name stands for its first
occurrence, and every occurrence has a name that is in the table; likewise for the unions. -/
theorem tables_hold_first_occurrences (schema : Schema) (exposed : List String)
    (roots : List TypeRoot) :
    let found := discover schema exposed roots
    (found.enums.map EnumDef.name = firstOccurrences (found.enumOccurrences.map EnumDef.name) ∧
      (∀ name, found.enum? name =
        found.enumOccurrences.find? fun occurrence => occurrence.name == name) ∧
      ∀ occurrence ∈ found.enumOccurrences, (found.enum? occurrence.name).isSome) ∧
    (found.unions.map UnionDef.name = firstOccurrences (found.unionOccurrences.map UnionDef.name) ∧
      (∀ name, found.union? name =
        found.unionOccurrences.find? fun occurrence => occurrence.name == name) ∧
      ∀ occurrence ∈ found.unionOccurrences, (found.union? occurrence.name).isSome) := by
  have kept := catalogued_discover schema exposed roots
  refine ⟨⟨?_, kept.enum?_eq, fun occurrence listed => ?_⟩,
    ⟨?_, kept.union?_eq, fun occurrence listed => ?_⟩⟩
  · rw [kept.enums, map_firstByName]
  · rw [kept.enum?_eq, List.find?_isSome]
    exact ⟨occurrence, listed, beq_self_eq_true _⟩
  · rw [kept.unions, map_firstByName]
  · rw [kept.union?_eq, List.find?_isSome]
    exact ⟨occurrence, listed, beq_self_eq_true _⟩

end Discovery
end TypedRpc
