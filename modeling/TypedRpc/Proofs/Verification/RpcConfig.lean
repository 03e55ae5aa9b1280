import Mathlib.Data.List.Nodup
import TypedRpc.Proofs.Grouping
import TypedRpc.Proofs.Results
import TypedRpc.Verification.RpcConfig

/-!
# What is exposed is in order

The check of what is exposed goes through the entries in their order, with the names that have been
taken so far.  It may break down on a selection that holds something else than names.  Where it does
not, it finds nothing exactly when every entry is in order by itself and all names differ.

* `TypedQuery.wellFormed`: selections that hold names, and tables from names to selections.
* `rpcResourceFaults_isOk`: the check does not break down on these.
* `RpcResource.InOrder`, `rpcResourceFaults_eq_nil_iff`: what the check decides.
-/

namespace TypedRpc

/-! ## Well-formed selections -/

mutual

/-- Whether a value is a name, or a table from names to selections. -/
def Value.isSelectionItem : Value → Bool
  | .text _ => true
  | .map entries => Value.areNested entries
  | _ => false

/-- Whether a value is a list of names and of tables from names to selections. -/
def Value.isSelection : Value → Bool
  | .list items => Value.areSelectionItems items
  | _ => false

/-- Whether all of some values are names, or tables from names to selections. -/
def Value.areSelectionItems : List Value → Bool
  | [] => true
  | item :: rest => item.isSelectionItem && Value.areSelectionItems rest

/-- Whether all of some entries lead from names to selections. -/
def Value.areNested : List (Value × Value) → Bool
  | [] => true
  | (key, value) :: rest => key.asText?.isSome && value.isSelection && Value.areNested rest

end

/-- Whether the selections that are nested in an entry are well formed. -/
def SelectionEntry.wellFormed : SelectionEntry → Bool
  | .field _ => true
  | .nested selections => selections.all fun selection => Value.areSelectionItems selection.2

/-- Whether the selections that are nested in a typed query are well formed: names, and tables from
names to such selections, at every depth. -/
def TypedQuery.wellFormed (query : TypedQuery) : Bool :=
  query.fields.all SelectionEntry.wellFormed

/-! ## Selections that can be checked -/

section Selections

variable {schema : Schema} {query : String}

/-- Whether the check of some items does not break down, on whatever resource. -/
def Checkable (schema : Schema) (query : String) (items : List Selection) : Prop :=
  ∀ resource, ∃ faults, selectionsFaults schema query resource items = .ok faults

theorem selectionsFaults_cons_eq_ok_iff {resource : Resource} {item : Selection}
    {rest : List Selection} {faults : List Fault} :
    selectionsFaults schema query resource (item :: rest) = .ok faults ↔
      ∃ here, selectionFaults schema query resource item = .ok here ∧
        ∃ others, selectionsFaults schema query resource rest = .ok others ∧
          here ++ others = faults := by
  rw [selectionsFaults]
  simp only [bind_eq_ok_iff, pure, Except.pure, Except.ok.injEq]

theorem checkable_nil : Checkable schema query [] :=
  fun _ => ⟨[], rfl⟩

theorem checkable_cons {item : Selection} {rest : List Selection}
    (here : ∀ resource, ∃ faults, selectionFaults schema query resource item = .ok faults)
    (others : Checkable schema query rest) : Checkable schema query (item :: rest) := by
  intro resource
  obtain ⟨faults, found⟩ := here resource
  obtain ⟨more, found_more⟩ := others resource
  exact ⟨faults ++ more,
    selectionsFaults_cons_eq_ok_iff.mpr ⟨faults, found, more, found_more, rfl⟩⟩

theorem checkable_append {items others : List Selection} (left : Checkable schema query items)
    (right : Checkable schema query others) : Checkable schema query (items ++ others) := by
  induction items with
  | nil => exact right
  | cons item rest ih =>
    have here (resource : Resource) :
        ∃ faults, selectionFaults schema query resource item = .ok faults := by
      obtain ⟨_, found⟩ := left resource
      obtain ⟨faults, here, -⟩ := selectionsFaults_cons_eq_ok_iff.mp found
      exact ⟨faults, here⟩
    refine checkable_cons here (ih fun resource => ?_)
    obtain ⟨_, found⟩ := left resource
    obtain ⟨_, -, others, there, -⟩ := selectionsFaults_cons_eq_ok_iff.mp found
    exact ⟨others, there⟩

theorem checkable_flatMap {α : Type} {items : List α} {f : α → List Selection}
    (h : ∀ item ∈ items, Checkable schema query (f item)) :
    Checkable schema query (items.flatMap f) := by
  induction items with
  | nil => exact checkable_nil
  | cons item rest ih =>
    rw [List.flatMap_cons]
    exact checkable_append (h item (List.mem_cons_self ..))
      (ih fun other listed => h other (List.mem_cons_of_mem _ listed))

theorem checkable_field (name : String) {rest : List Selection}
    (others : Checkable schema query rest) : Checkable schema query (.field name :: rest) := by
  refine checkable_cons (fun resource => ?_) others
  rw [selectionFaults]
  split <;> exact ⟨_, rfl⟩

/-- A nested selection is checked on the resource that its key leads to, if it leads anywhere. -/
theorem checkable_nested (key : Value) {inner rest : List Selection}
    (below : Checkable schema query inner) (others : Checkable schema query rest) :
    Checkable schema query (.nested key inner :: rest) := by
  refine checkable_cons (fun resource => ?_) others
  rw [selectionFaults]
  split
  · exact ⟨_, rfl⟩
  · split
    · exact ⟨_, rfl⟩
    · exact below _

mutual

theorem checkable_ofItems : ∀ values : List Value, Value.areSelectionItems values →
    Checkable schema query (Selection.ofItems values)
  | [], _ => checkable_nil
  | .text name :: rest, h => by
    simp only [Value.areSelectionItems, Value.isSelectionItem, Bool.true_and] at h
    exact checkable_field name (checkable_ofItems rest h)
  | .map entries :: rest, h => by
    simp only [Value.areSelectionItems, Value.isSelectionItem, Bool.and_eq_true] at h
    exact checkable_append (checkable_ofEntries entries h.1) (checkable_ofItems rest h.2)
  | .null :: _, h | .bool _ :: _, h | .int _ :: _, h | .float _ :: _, h | .bytes _ :: _, h
  | .date _ :: _, h | .moment _ :: _, h | .list _ :: _, h | .tuple _ :: _, h | .set _ :: _, h
  | .part _ _ :: _, h => by
    simp [Value.areSelectionItems, Value.isSelectionItem] at h

theorem checkable_ofEntries : ∀ entries : List (Value × Value), Value.areNested entries →
    Checkable schema query (Selection.ofEntries entries)
  | [], _ => checkable_nil
  | (key, .list items) :: rest, h => by
    simp only [Value.areNested, Value.isSelection, Bool.and_eq_true] at h
    exact checkable_nested key (checkable_ofItems items h.1.2) (checkable_ofEntries rest h.2)
  | (_, .null) :: _, h | (_, .bool _) :: _, h | (_, .int _) :: _, h | (_, .float _) :: _, h
  | (_, .text _) :: _, h | (_, .bytes _) :: _, h | (_, .date _) :: _, h | (_, .moment _) :: _, h
  | (_, .tuple _) :: _, h | (_, .map _) :: _, h | (_, .set _) :: _, h | (_, .part _ _) :: _, h => by
    simp [Value.areNested, Value.isSelection] at h

end

/-- The check of a typed query whose nested selections are well formed does not break down. -/
theorem queryFaults_isOk {resource : Resource} {query : TypedQuery} (h : query.wellFormed) :
    ∃ faults, queryFaults schema resource query = .ok faults := by
  unfold queryFaults
  split
  · refine checkable_flatMap (fun entry listed => ?_) resource
    have formed := List.all_eq_true.mp h entry listed
    cases entry with
    | field name => exact checkable_field name checkable_nil
    | nested selections =>
      rw [Selection.ofEntry, ← List.flatMap_pure_eq_map]
      refine checkable_flatMap fun selection held => ?_
      have items := List.all_eq_true.mp formed selection held
      exact checkable_nested _ (checkable_ofItems _ items) checkable_nil
  · exact ⟨_, rfl⟩

end Selections

/-! ## Names of exposed actions -/

/-- The names that clients call actions by, in the order of the entries. -/
def rpcNames (entries : List RpcResource) : List String :=
  entries.flatMap fun entry => entry.actions.map (·.name)

/-- A name is reported exactly when it is taken. -/
theorem takenNameFaults_eq_nil_iff {taken : Renames} {resource : Resource} {rpcAction : RpcAction} :
    takenNameFaults taken resource rpcAction = [] ↔ rpcAction.name ∉ taken.map Prod.fst := by
  rw [← isSome_lookup_iff, takenNameFaults]
  cases taken.lookup rpcAction.name <;> simp

/-- A name that is taken cannot be taken again. -/
theorem nodup_names_cons_iff {taken names : List String} {name : String} :
    (taken ++ name :: names).Nodup ↔ name ∉ taken ∧ (taken ++ [name] ++ names).Nodup := by
  rw [List.append_assoc, List.singleton_append]
  refine ⟨fun h => ⟨fun listed => ?_, h⟩, And.right⟩
  exact List.disjoint_of_nodup_append h listed (List.mem_cons_self ..)

/-- Nothing is found for the actions of an entry exactly when their names are new and differ, and
whatever they refer to exists. -/
theorem rpcActionFaults_eq_nil_iff {taken : Renames} {resource : Resource}
    {rpcActions : List RpcAction} (distinct : (taken.map Prod.fst).Nodup) :
    rpcActionFaults taken resource rpcActions = [] ↔
      (taken.map Prod.fst ++ rpcActions.map (·.name)).Nodup ∧
        ∀ rpcAction ∈ rpcActions, referencedActionFaults resource rpcAction = [] := by
  induction rpcActions generalizing taken with
  | nil => simpa [rpcActionFaults] using distinct
  | cons rpcAction rest ih =>
    rw [rpcActionFaults, List.append_eq_nil_iff, List.append_eq_nil_iff,
      takenNameFaults_eq_nil_iff, List.map_cons, List.forall_mem_cons,
      nodup_names_cons_iff]
    by_cases known : rpcAction.name ∈ taken.map Prod.fst
    · simp only [known, not_true_eq_false, false_and]
    · have keys : (taken ++ [(rpcAction.name, resource.id)]).map Prod.fst =
          taken.map Prod.fst ++ [rpcAction.name] := by simp
      have fresh : ((taken ++ [(rpcAction.name, resource.id)]).map Prod.fst).Nodup := by
        rw [keys, ← List.concat_eq_append]
        exact List.Nodup.concat known distinct
      rw [ih fresh, keys]
      tauto

/-! ## Entries -/

/-- Whether an entry is in order by itself: its resource exists, and so does whatever its actions
and typed queries refer to. -/
def RpcResource.InOrder (schema : Schema) (entry : RpcResource) : Prop :=
  ∃ resource, schema.resource? entry.resource = some resource ∧
    (∀ rpcAction ∈ entry.actions, referencedActionFaults resource rpcAction = []) ∧
    ∀ query ∈ entry.typedQueries, queryFaults schema resource query = .ok []

/-- The check of entries does not break down when their nested selections are well formed. -/
theorem rpcResourceFaults_isOk {schema : Schema} {entries : List RpcResource}
    (formed : ∀ entry ∈ entries, ∀ query ∈ entry.typedQueries, query.wellFormed)
    (taken : Renames) : ∃ faults, rpcResourceFaults schema taken entries = .ok faults := by
  induction entries generalizing taken with
  | nil => exact ⟨[], rfl⟩
  | cons entry rest ih =>
    rw [List.forall_mem_cons] at formed
    rw [rpcResourceFaults]
    cases schema.resource? entry.resource with
    | none =>
      obtain ⟨others, there⟩ := ih formed.2 taken
      exact ⟨_, bind_eq_ok_iff.mpr ⟨others, there, rfl⟩⟩
    | some resource =>
      have queried : ∃ found, entry.typedQueries.mapM (queryFaults schema resource) = .ok found :=
        mapM_isOk fun query listed => queryFaults_isOk (formed.1 query listed)
      obtain ⟨queries, checked⟩ := queried
      obtain ⟨others, there⟩ := ih formed.2 _
      exact ⟨_, bind_eq_ok_iff.mpr ⟨queries, checked, bind_eq_ok_iff.mpr ⟨others, there, rfl⟩⟩⟩

theorem inOrder_iff {schema : Schema} {entry : RpcResource} {resource : Resource}
    (named : schema.resource? entry.resource = some resource) :
    entry.InOrder schema ↔
      (∀ rpcAction ∈ entry.actions, referencedActionFaults resource rpcAction = []) ∧
        ∀ query ∈ entry.typedQueries, queryFaults schema resource query = .ok [] := by
  rw [RpcResource.InOrder, named]
  simp only [Option.some.injEq, exists_eq_left']

/-- Nothing is found for an entry whose resource exists exactly when nothing is found for its
actions, its typed queries and the other entries. -/
theorem entry_eq_nil_iff {actions : List Fault} {queries : Except Breakdown (List (List Fault))}
    {others : Except Breakdown (List Fault)} :
    (do let queries ← queries
        let others ← others
        pure (actions ++ queries.flatten ++ others)) = (.ok [] : Except Breakdown (List Fault)) ↔
      actions = [] ∧ (∃ found, queries = .ok found ∧ found.flatten = []) ∧ others = .ok [] := by
  simp only [bind_eq_ok_iff, pure, Except.pure, Except.ok.injEq, List.append_eq_nil_iff]
  constructor
  · rintro ⟨found, checked, more, there, ⟨none, empty⟩, rfl⟩
    exact ⟨none, ⟨found, checked, empty⟩, there⟩
  · rintro ⟨none, ⟨found, checked, empty⟩, there⟩
    exact ⟨found, checked, [], there, ⟨none, empty⟩, rfl⟩

/-- **Nothing is found for the entries exactly when each is in order by itself and all names
differ.** -/
theorem rpcResourceFaults_eq_nil_iff {schema : Schema} {taken : Renames}
    {entries : List RpcResource} (distinct : (taken.map Prod.fst).Nodup) :
    rpcResourceFaults schema taken entries = .ok [] ↔
      (taken.map Prod.fst ++ rpcNames entries).Nodup ∧ ∀ entry ∈ entries, entry.InOrder schema := by
  induction entries generalizing taken with
  | nil => simpa [rpcResourceFaults, rpcNames] using distinct
  | cons entry rest ih =>
    rw [rpcResourceFaults, List.forall_mem_cons]
    cases named : schema.resource? entry.resource with
    | none =>
      constructor
      · intro h
        obtain ⟨others, -, reported⟩ := bind_eq_ok_iff.mp h
        cases reported
      · rintro ⟨-, ⟨resource, existing, -⟩, -⟩
        rw [named] at existing
        cases existing
    | some resource =>
      have keys : (taken ++ entry.actions.map fun rpcAction => (rpcAction.name, resource.id)).map
          Prod.fst = taken.map Prod.fst ++ entry.actions.map (·.name) := by simp
      have names : rpcNames (entry :: rest) = entry.actions.map (·.name) ++ rpcNames rest := rfl
      rw [entry_eq_nil_iff, rpcActionFaults_eq_nil_iff distinct, mapM_flatten_eq_nil_iff,
        inOrder_iff named, names, ← List.append_assoc]
      constructor
      · rintro ⟨⟨fresh, actions⟩, queries, others⟩
        rw [ih (by rwa [keys]), keys] at others
        exact ⟨others.1, ⟨actions, queries⟩, others.2⟩
      · rintro ⟨all, ⟨actions, queries⟩, others⟩
        have fresh := (List.nodup_append.mp all).1
        refine ⟨⟨fresh, actions⟩, queries, ?_⟩
        rw [ih (by rwa [keys]), keys]
        exact ⟨all, others⟩

end TypedRpc
