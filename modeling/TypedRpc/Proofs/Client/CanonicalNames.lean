import TypedRpc.Proofs.Client.GeneratedNames
import TypedRpc.Proofs.Naming.Canonical

/-!
# Canonical names in the generated code

The checks tell the names of exposed actions apart as they stand in the document, over all domains.
Functions are named after them in camelCase and types in PascalCase.  No two canonical names meet
in either convention, so names that are canonical keep apart in the code.

* `canonical_names_apart`: canonical names in the conventions, and what is named after them.
-/

namespace TypedRpc

namespace Plan

variable {schema : Schema} {options : Options} {plan : Plan}

/-- The names of exposed actions differ in a plan without faults. -/
theorem nodup_rpcName_shapes (made : Plan.make schema options = .ok plan)
    (clean : plan.verification.faults = []) : (plan.shapes.map (·.rpcName)).Nodup := by
  rw [map_rpcName_shapes made clean]
  exact (rpcConfigFaults_eq_nil_iff.mp (rpcConfigFaults_eq made clean)).2.1.1

/-- What actions are named after stays apart under a convention that keeps canonical names apart. -/
theorem nodup_map_rpcName {write : String → String}
    (apart : Set.InjOn write {name | Naming.IsCanonical name})
    (made : Plan.make schema options = .ok plan) (clean : plan.verification.faults = [])
    (canonical : ∀ shape ∈ plan.shapes, Naming.IsCanonical shape.rpcName) :
    (plan.shapes.map fun shape => write shape.rpcName).Nodup := by
  have named : plan.shapes.map (fun shape => write shape.rpcName) =
      (plan.shapes.map (·.rpcName)).map write := by
    rw [List.map_map]
    rfl
  have known : ∀ name ∈ plan.shapes.map (·.rpcName), Naming.IsCanonical name :=
    List.forall_mem_map.mpr canonical
  rw [named]
  exact (nodup_rpcName_shapes made clean).map_on fun a ha b hb same =>
    apart (known a ha) (known b hb) same

end Plan

/-- **Canonical names stay apart.**  No two of them meet in camelCase or in PascalCase, so in a plan
without faults whose exposed actions have canonical names, the generated functions have names of
their own, and so do the generated types begin with names of their own. -/
theorem canonical_names_apart :
    (∀ a b, Naming.IsCanonical a → Naming.IsCanonical b → a ≠ b →
      Naming.camelCase a ≠ Naming.camelCase b ∧ Naming.pascalCase a ≠ Naming.pascalCase b) ∧
    ∀ (schema : Schema) (options : Options) (plan : Plan), Plan.make schema options = .ok plan →
      plan.verification.faults = [] →
      (∀ shape ∈ plan.shapes, Naming.IsCanonical shape.rpcName) →
        (plan.shapes.map ActionShape.functionName).Nodup ∧
          (plan.shapes.map ActionShape.typePrefix).Nodup := by
  constructor
  · intro a b canonical other differ
    exact ⟨fun same => differ (Naming.camelCase_injOn_canonical canonical other same),
      fun same => differ (Naming.pascalCase_injOn_canonical canonical other same)⟩
  · intro schema options plan made clean canonical
    exact ⟨Plan.nodup_map_rpcName Naming.camelCase_injOn_canonical made clean canonical,
      Plan.nodup_map_rpcName Naming.pascalCase_injOn_canonical made clean canonical⟩

/-- To-dos that are read in two domains, under names that differ in where their words are cut. -/
def cutSchema : Schema where
  resources := [{ id := "Todo", actions := [{ name := "read", kind := .read }] }]
  domains := [
    { name := "Main"
      rpc := [{ resource := "Todo", actions := [{ name := "list_todos", action := "read" }] }] },
    { name := "Other"
      rpc := [{ resource := "Todo", actions := [{ name := "list_to_dos", action := "read" }] }] }]

/-- Names that differ in where their words are cut stay apart. -/
theorem cut_names_apart :
    (Naming.IsCanonical "list_todos" ∧ Naming.IsCanonical "list_to_dos" ∧
      Naming.camelCase "list_todos" ≠ Naming.camelCase "list_to_dos" ∧
      Naming.pascalCase "list_todos" ≠ Naming.pascalCase "list_to_dos") ∧
    ∃ plan, Plan.make cutSchema {} = .ok plan ∧ plan.verification.faults = [] ∧
      plan.shapes.map (·.rpcName) = ["list_todos", "list_to_dos"] ∧
      (plan.shapes.map ActionShape.functionName).Nodup ∧
        (plan.shapes.map ActionShape.typePrefix).Nodup := by
  have first : Naming.IsCanonical "list_todos" := by decide +kernel
  have second : Naming.IsCanonical "list_to_dos" := by decide +kernel
  have evaluated : (Plan.make cutSchema {}).toOption.map (fun plan =>
      (plan.verification.faults, plan.shapes.map (·.rpcName))) =
        some ([], ["list_todos", "list_to_dos"]) := by
    cbv
  obtain ⟨plan, made, seen⟩ := Plan.exists_of_evaluated evaluated
  injection seen with clean names
  have canonical : ∀ shape ∈ plan.shapes, Naming.IsCanonical shape.rpcName := by
    rw [← List.forall_mem_map (f := fun shape : ActionShape => shape.rpcName)
      (P := Naming.IsCanonical), names]
    simp [first, second]
  exact ⟨⟨first, second, canonical_names_apart.1 _ _ first second (by decide)⟩, plan, made, clean,
    names, canonical_names_apart.2 cutSchema {} plan made clean canonical⟩

end TypedRpc
