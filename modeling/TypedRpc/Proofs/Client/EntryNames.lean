import TypedRpc.Client.Record
import TypedRpc.Proofs.Client.Plan
import TypedRpc.Proofs.Target.EnumEntry

/-!
# Names inside enumerations and unions

The names of the entries of an enumeration and of the variants of a union are made from wire values
and tags, and two of those may well come out alike.  The check of type names looks at the first
enumeration and the first union of each name only; as the others of that name must hold the same, a
plan without faults has no clash in any of them.

* `Plan.entry_names_apart`: what enumerations and unions are like in a plan without faults, and what
  the name of an entry is like in any.
-/

namespace TypedRpc

open Target (IsEntryName enumEntry)

namespace Typing

variable (typing : Typing)

/-- The classes of a union are named after its tags. -/
theorem variantNames (union : UnionDef) :
    (typing.union union).variants.map Target.DataClass.name =
      (union.members.map Prod.fst).map Naming.pascalCase := by
  rw [Typing.union, List.map_map, List.map_map]
  exact List.map_congr_left fun _ _ => rfl

end Typing

namespace Plan

/-- **Entries stand for wire values one by one, and variants are told apart by their names**, in
every enumeration and every union that a plan without faults has met, and so in those that are
rendered.  Whether there are faults or not, an entry is written with its wire value as its serial
name, it has a well-formed name, and that name is its own entry. -/
theorem entry_names_apart :
    (∀ (schema : Schema) (options : Options) (plan : Plan),
      Plan.make schema options = .ok plan → plan.verification.faults = [] →
      plan.discovered.enums ⊆ plan.discovered.enumOccurrences ∧
      (∀ enum ∈ plan.discovered.enumOccurrences,
        (enum.values.map enumEntry).Nodup ∧ enum.values.Nodup ∧ enum.declaration.OneToOne) ∧
      plan.discovered.unions ⊆ plan.discovered.unionOccurrences ∧
      ∀ union ∈ plan.discovered.unionOccurrences,
        ((union.members.map Prod.fst).map Naming.pascalCase).Nodup ∧
        ∀ typing : Typing, ((typing.union union).variants.map Target.DataClass.name).Nodup) ∧
    (∀ declared : Target.EnumClass,
      declared.text = "@Serializable\nenum class " ++ declared.name ++ " \x7b\n" ++
        ",\n".intercalate (declared.entries.map Target.entryLine) ++ "\n\x7d") ∧
    ∀ value, IsEntryName (enumEntry value) ∧ enumEntry (enumEntry value) = enumEntry value := by
  refine ⟨fun schema options plan made clean => ?_, Target.EnumClass.text_eq_entries, fun value =>
    ⟨Target.isEntryName_enumEntry value, Target.enumEntry_idem value⟩⟩
  have kept := catalogued made
  have agree := namesAgree made clean
  refine ⟨fun enum => mem_enumOccurrences_of_mem_enums kept, fun enum met => ?_,
    fun union => mem_unionOccurrences_of_mem_unions kept, fun union met => ?_⟩
  · have apart := agree.entries enum met
    exact ⟨apart, apart.of_map, Target.EnumClass.oneToOne_iff.mpr apart⟩
  · have apart := agree.variants union met
    exact ⟨apart, fun typing => by rwa [typing.variantNames]⟩

end Plan

/-- Tickets have a priority, which holds a dash and a digit at the beginning, and come from a form
or a call. -/
def ticketSchema : Schema where
  resources := [
    { id := "Ticket"
      attributes := [
        { name := "priority", type := .enum ["low", "very-high", "2nd"] none },
        { name := "source", type := .union [("web_form", .primitive .string {}),
            ("phone-call", .primitive .integer {})] none }]
      actions := [{ name := "read", kind := .read }] }]
  domains := [{
    name := "Main"
    resources := ["Ticket"]
    rpc := [{ resource := "Ticket", actions := [{ name := "list_tickets", action := "read" }] }] }]

/-- The names inside the types of tickets. -/
theorem ticket_entry_names_apart :
    (∃ plan, Plan.make ticketSchema {} = .ok plan ∧ plan.verification.faults = [] ∧
      plan.discovered.enumOccurrences.map (fun enum => enum.values.map enumEntry) =
        [["LOW", "VERY_HIGH", "_2ND"]] ∧
      (∀ enum ∈ plan.discovered.enumOccurrences, enum.declaration.OneToOne) ∧
      plan.discovered.unionOccurrences.map (fun union =>
        (union.members.map Prod.fst).map Naming.pascalCase) = [["WebForm", "PhoneCall"]] ∧
      ∀ union ∈ plan.discovered.unionOccurrences,
        ((union.members.map Prod.fst).map Naming.pascalCase).Nodup) ∧
    IsEntryName (enumEntry "") := by
  have evaluated : (Plan.make ticketSchema {}).toOption.map (fun plan =>
      (plan.verification.faults,
        plan.discovered.enumOccurrences.map (fun enum => enum.values.map enumEntry),
        plan.discovered.unionOccurrences.map (fun union =>
          (union.members.map Prod.fst).map Naming.pascalCase))) =
      some ([], [["LOW", "VERY_HIGH", "_2ND"]], [["WebForm", "PhoneCall"]]) := by
    cbv
  obtain ⟨plan, made, parts⟩ := Plan.exists_of_evaluated evaluated
  simp only [Prod.mk.injEq] at parts
  obtain ⟨clean, entries, variants⟩ := parts
  obtain ⟨inPlans, -, names⟩ := Plan.entry_names_apart
  obtain ⟨-, enums, -, unions⟩ := inPlans ticketSchema {} plan made clean
  exact ⟨⟨plan, made, clean, entries, fun enum met => (enums enum met).2.2, variants,
    fun union met => (unions union met).1⟩, (names "").1⟩

end TypedRpc
