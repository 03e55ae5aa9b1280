import Mathlib.Data.List.Induction
import Mathlib.Data.List.Nodup
import TypedRpc.Discovery.Basic
import TypedRpc.Schema.Basic
import TypedRpc.Text.Grouping

/-!
# First occurrences and groups

Three ways of looking at a list that repeats itself: the items at their first places, the first item
of each name, and the items grouped by a key.  Each comes with what decides its members, so that
nothing else has to look at how it is computed.

* `mem_firstOccurrences`, `nodup_firstOccurrences`, `firstOccurrences_prefix`.
* `mem_firstByName_iff`, `find?_firstByName`: the item that a look-up by name finds.
* `firstByName_concat`: the first items can be gathered one by one.
* `lookup_groupBy`, `clashes_eq_nil_iff`: a group holds the items of its key, and there are no
  clashes exactly when all keys differ.
* `exists_of_forall₂`: of two lists that agree item by item, the partner of an item.
-/

namespace TypedRpc

/-! ## Items at their first places -/

/-- Adds an item at the end of a list, unless it is there. -/
def addFirst (items : List String) (item : String) : List String :=
  if items.contains item then items else items ++ [item]

theorem firstOccurrences_eq_foldl (items : List String) :
    firstOccurrences items = items.foldl addFirst [] := rfl

theorem firstOccurrences_concat (items : List String) (item : String) :
    firstOccurrences (items ++ [item]) = addFirst (firstOccurrences items) item := by
  rw [firstOccurrences_eq_foldl, List.foldl_append]
  rfl

theorem mem_addFirst {items : List String} {item other : String} :
    other ∈ addFirst items item ↔ other ∈ items ∨ other = item := by
  unfold addFirst
  by_cases listed : item ∈ items
  · simp only [List.contains_eq_mem, listed, decide_true, if_true]
    exact ⟨.inl, fun h => h.elim (fun h => h) fun same => same ▸ listed⟩
  · simp [listed]

theorem nodup_addFirst {items : List String} (item : String) (h : items.Nodup) :
    (addFirst items item).Nodup := by
  unfold addFirst
  by_cases listed : item ∈ items
  · simpa [listed] using h
  · simpa [listed] using List.Nodup.concat listed h

theorem prefix_addFirst (items : List String) (item : String) : items <+: addFirst items item := by
  unfold addFirst
  split
  · exact List.prefix_rfl
  · exact List.prefix_append items [item]

theorem mem_firstOccurrences {items : List String} {item : String} :
    item ∈ firstOccurrences items ↔ item ∈ items := by
  induction items using List.reverseRecOn with
  | nil => rfl
  | append_singleton items last ih =>
    rw [firstOccurrences_concat, mem_addFirst, ih, List.mem_append, List.mem_singleton]

theorem nodup_firstOccurrences (items : List String) : (firstOccurrences items).Nodup := by
  induction items using List.reverseRecOn with
  | nil => exact List.nodup_nil
  | append_singleton items last ih =>
    rw [firstOccurrences_concat]
    exact nodup_addFirst last ih

/-- What comes first is listed first. -/
theorem firstOccurrences_prefix (items others : List String) :
    firstOccurrences items <+: firstOccurrences (items ++ others) := by
  induction others using List.reverseRecOn with
  | nil => simp
  | append_singleton others last ih =>
    rw [← List.append_assoc, firstOccurrences_concat]
    exact ih.trans (prefix_addFirst _ _)

/-- Items may be picked before or after the first places are looked for. -/
theorem filter_firstOccurrences (p : String → Bool) (items : List String) :
    (firstOccurrences items).filter p = firstOccurrences (items.filter p) := by
  induction items using List.reverseRecOn with
  | nil => rfl
  | append_singleton items last ih =>
    rw [firstOccurrences_concat, List.filter_append]
    by_cases picked : p last
    · have kept : [last].filter p = [last] := by simp [picked]
      rw [kept, firstOccurrences_concat, ← ih]
      unfold addFirst
      by_cases listed : last ∈ firstOccurrences items <;> simp [listed, picked]
    · have dropped : [last].filter p = [] := by simp [picked]
      rw [dropped, List.append_nil, ← ih]
      unfold addFirst
      split <;> simp [picked]

/-! ## The first item of each name -/

section FirstByName

variable {α : Type} {name : α → String}

/-- The first items of a list with each name. -/
def firstByName (name : α → String) : List α → List α
  | [] => []
  | item :: rest => item :: (firstByName name rest).filter fun other => name other != name item

/-- The first item of a name is the one that a look-up finds. -/
theorem mem_firstByName_iff {items : List α} {item : α} :
    item ∈ firstByName name items ↔
      items.find? (fun other => name other == name item) = some item := by
  induction items with
  | nil => simp [firstByName]
  | cons head rest ih =>
    rw [firstByName, List.mem_cons, List.mem_filter, ih]
    by_cases same : name head = name item
    · simp only [List.find?_cons, same, beq_self_eq_true, Option.some.injEq, bne_self_eq_false,
        Bool.false_eq_true, and_false, or_false]
      exact eq_comm
    · have differ : item ≠ head := fun h => same (by rw [h])
      simp [same, differ, Ne.symm same]

theorem mem_of_mem_firstByName {items : List α} {item : α} (h : item ∈ firstByName name items) :
    item ∈ items :=
  List.mem_of_find?_eq_some (mem_firstByName_iff.mp h)

/-- Every item has a first item of its name. -/
theorem exists_mem_firstByName {items : List α} {item : α} (h : item ∈ items) :
    ∃ first ∈ firstByName name items, name first = name item ∧
      items.find? (fun other => name other == name item) = some first := by
  cases found : items.find? fun other => name other == name item with
  | none => simpa using List.find?_eq_none.mp found item h
  | some first =>
    have same : name first = name item := by simpa using List.find?_some found
    refine ⟨first, ?_, same, rfl⟩
    rw [mem_firstByName_iff, same, found]

theorem map_addByName (table : List α) (item : α) :
    (addByName name table item).map name = addFirst (table.map name) (name item) := by
  unfold addByName addFirst
  rw [List.contains_eq_any_beq, List.any_map]
  simp only [Function.comp_def, Bool.beq_comm]
  split <;> simp

/-- An item counts as a first one of its name unless there is one already. -/
theorem firstByName_concat (items : List α) (item : α) :
    firstByName name (items ++ [item]) = addByName name (firstByName name items) item := by
  induction items with
  | nil => rfl
  | cons head rest ih =>
    rw [List.cons_append, firstByName, firstByName, ih]
    by_cases here : name head = name item
    · have known : (head :: (firstByName name rest).filter fun other =>
          name other != name head).any (fun other => name other == name item) := by
        simp [here]
      rw [addByName, addByName, if_pos known]
      split <;> simp [here]
    · have later : ((firstByName name rest).filter fun other => name other != name head).any
          (fun other => name other == name item) =
            (firstByName name rest).any fun other => name other == name item := by
        rw [List.any_filter]
        congr 1
        funext other
        by_cases there : name other = name item
        · simp [there, Ne.symm here]
        · simp [there]
      rw [addByName, addByName, List.any_cons, later, beq_eq_false_iff_ne.mpr here, Bool.false_or]
      split
      · rfl
      · simp [Ne.symm here]

theorem nodup_firstByName (items : List α) : ((firstByName name items).map name).Nodup := by
  induction items with
  | nil => simp [firstByName]
  | cons head rest ih =>
    rw [firstByName, List.map_cons, List.nodup_cons]
    constructor
    · simp
    · exact ih.sublist ((List.filter_sublist ..).map name)

/-- A look-up by name finds among the first items what it finds among all. -/
theorem find?_firstByName (items : List α) (wanted : String) :
    (firstByName name items).find? (fun item => name item == wanted) =
      items.find? fun item => name item == wanted := by
  induction items with
  | nil => rfl
  | cons head rest ih =>
    rw [firstByName, List.find?_cons, List.find?_cons]
    by_cases here : name head = wanted
    · rw [beq_iff_eq.mpr here]
    · have apart (item : α) : (decide ((name item != name head) = true ∧
          (name item == wanted) = true)) = (name item == wanted) := by
        by_cases there : name item = wanted
        · simp [there, Ne.symm here]
        · simp [there]
      simp only [beq_eq_false_iff_ne.mpr here, List.find?_filter, apart, ih]

/-- The names of the first items are the names at their first places. -/
theorem map_firstByName (items : List α) :
    (firstByName name items).map name = firstOccurrences (items.map name) := by
  induction items using List.reverseRecOn with
  | nil => rfl
  | append_singleton items last ih =>
    rw [List.map_append, List.map_singleton, firstOccurrences_concat, ← ih, firstByName_concat]
    exact map_addByName _ _

end FirstByName

/-! ## Groups -/

section Groups

variable {κ α : Type} [DecidableEq κ] {key : α → κ}

theorem lookup_cons_eq_ite {β : Type} (k first : κ) (value : β) (rest : List (κ × β)) :
    ((first, value) :: rest).lookup k = if first = k then some value else rest.lookup k := by
  rw [List.lookup_cons]
  by_cases h : first = k
  · subst h
    simp
  · have other : (k == first) = false := by simpa using Ne.symm h
    simp only [other, h, if_false]

/-- A table whose values are changed is looked up like the table. -/
theorem lookup_map_value {β γ : Type} (f : β → γ) (entries : List (κ × β)) (k : κ) :
    (entries.map fun entry => (entry.1, f entry.2)).lookup k = (entries.lookup k).map f := by
  induction entries with
  | nil => rfl
  | cons entry rest ih =>
    rw [List.map_cons, lookup_cons_eq_ite, ih, lookup_cons_eq_ite]
    split <;> rfl

theorem lookup_addToGroup (k other : κ) (item : α) (groups : List (κ × List α)) :
    (addToGroup k item groups).lookup other =
      if k = other then some ((groups.lookup k).getD [] ++ [item]) else groups.lookup other := by
  induction groups with
  | nil => simp [addToGroup, lookup_cons_eq_ite]
  | cons group rest ih =>
    obtain ⟨first, items⟩ := group
    by_cases here : first = k
    · subst here
      by_cases h : first = other <;> simp [addToGroup, lookup_cons_eq_ite, h]
    · by_cases h : k = other
      · subst h
        simp [addToGroup, lookup_cons_eq_ite, here, ih]
      · simp [addToGroup, lookup_cons_eq_ite, here, h, ih]

theorem keys_addToGroup (k : κ) (item : α) (groups : List (κ × List α)) :
    (addToGroup k item groups).map Prod.fst =
      if k ∈ groups.map Prod.fst then groups.map Prod.fst else groups.map Prod.fst ++ [k] := by
  induction groups with
  | nil => simp [addToGroup]
  | cons group rest ih =>
    obtain ⟨first, items⟩ := group
    by_cases here : first = k
    · simp [addToGroup, here]
    · have there : ¬ k = first := Ne.symm here
      simp only [addToGroup, here, if_false, List.map_cons, ih, List.mem_cons, there, false_or]
      split <;> rfl

theorem groupBy_concat (items : List α) (item : α) :
    groupBy key (items ++ [item]) = addToGroup (key item) item (groupBy key items) := by
  simp [groupBy]

/-- The group of a key holds the items with that key. -/
theorem lookup_groupBy (items : List α) (k : κ) :
    (groupBy key items).lookup k =
      if k ∈ items.map key then some (items.filter fun item => key item = k) else none := by
  induction items using List.reverseRecOn with
  | nil => simp [groupBy]
  | append_singleton items last ih =>
    rw [groupBy_concat, lookup_addToGroup]
    by_cases h : key last = k
    · subst h
      by_cases known : key last ∈ items.map key
      · simp only [ih, known, if_true]
        simp
      · have none : items.filter (fun item => key item = key last) = [] := by
          rw [List.filter_eq_nil_iff]
          intro item listed same
          exact known (List.mem_map.mpr ⟨item, listed, by simpa using same⟩)
        simp only [ih, known, if_false, if_true]
        simp [none]
    · rw [if_neg h, ih]
      simp [h, Ne.symm h]

theorem nodup_keys_groupBy (items : List α) : ((groupBy key items).map Prod.fst).Nodup := by
  induction items using List.reverseRecOn with
  | nil => simp [groupBy]
  | append_singleton items last ih =>
    rw [groupBy_concat, keys_addToGroup]
    split
    · exact ih
    · next fresh => simpa using List.Nodup.concat fresh ih

/-- A table with distinct keys finds all its entries. -/
theorem lookup_eq_some_of_mem {β : Type} {entries : List (κ × β)} {k : κ} {value : β}
    (distinct : (entries.map Prod.fst).Nodup) (h : (k, value) ∈ entries) :
    entries.lookup k = some value := by
  induction entries with
  | nil => simp at h
  | cons entry rest ih =>
    obtain ⟨first, held⟩ := entry
    rw [List.map_cons, List.nodup_cons] at distinct
    rw [lookup_cons_eq_ite]
    rcases List.mem_cons.mp h with same | h
    · simp only [Prod.mk.injEq] at same
      rw [if_pos same.1.symm, same.2]
    · have other : first ≠ k := by
        rintro rfl
        exact distinct.1 (List.mem_map.mpr ⟨_, h, rfl⟩)
      rw [if_neg other]
      exact ih distinct.2 h

theorem mem_of_lookup_eq_some {β : Type} {entries : List (κ × β)} {k : κ} {value : β}
    (h : entries.lookup k = some value) : (k, value) ∈ entries := by
  induction entries with
  | nil => simp at h
  | cons entry rest ih =>
    obtain ⟨first, held⟩ := entry
    rw [lookup_cons_eq_ite] at h
    split at h
    · next same => simp [same, Option.some.inj h]
    · exact List.mem_cons_of_mem _ (ih h)

/-- A table finds something under its keys only. -/
theorem isSome_lookup_iff {β : Type} {entries : List (κ × β)} {k : κ} :
    (entries.lookup k).isSome ↔ k ∈ entries.map Prod.fst := by
  rw [List.lookup_isSome_iff, List.mem_map]
  exact exists_congr fun entry => and_congr_right fun _ => beq_iff_eq.trans eq_comm

theorem mem_groupBy_iff {items : List α} {k : κ} {group : List α} :
    (k, group) ∈ groupBy key items ↔
      k ∈ items.map key ∧ group = items.filter fun item => key item = k := by
  have found : (k, group) ∈ groupBy key items ↔ (groupBy key items).lookup k = some group :=
    ⟨lookup_eq_some_of_mem (nodup_keys_groupBy items), mem_of_lookup_eq_some⟩
  rw [found, lookup_groupBy]
  by_cases known : k ∈ items.map key
  · simp only [known, if_true, Option.some.injEq, true_and]
    exact eq_comm
  · simp only [known, if_false, reduceCtorEq, false_and]

/-- The groups have the keys of the items. -/
theorem mem_keys_groupBy {items : List α} {k : κ} :
    k ∈ (groupBy key items).map Prod.fst ↔ k ∈ items.map key := by
  rw [List.mem_map]
  constructor
  · rintro ⟨⟨other, group⟩, listed, rfl⟩
    exact (mem_groupBy_iff.mp listed).1
  · exact fun known => ⟨(k, _), mem_groupBy_iff.mpr ⟨known, rfl⟩, rfl⟩

theorem count_map_key (items : List α) (k : κ) :
    (items.map key).count k = (items.filter fun item => key item = k).length := by
  rw [List.count, List.countP_map, List.countP_eq_length_filter]
  rfl

/-- **There are no clashes exactly when all keys differ.** -/
theorem clashes_eq_nil_iff (items : List α) :
    clashes key items = [] ↔ (items.map key).Nodup := by
  rw [clashes, List.filter_eq_nil_iff, List.nodup_iff_count_le_one]
  constructor
  · intro h k
    rw [count_map_key]
    by_cases known : k ∈ items.map key
    · have small := h _ (mem_groupBy_iff.mpr ⟨known, rfl⟩)
      simpa using small
    · rw [← count_map_key, List.count_eq_zero_of_not_mem known]
      exact Nat.zero_le 1
  · rintro h ⟨k, group⟩ listed
    rw [(mem_groupBy_iff.mp listed).2, ← count_map_key]
    simpa using h k

end Groups

/-! ## Lists that agree item by item -/

/-- Every item of a list has its partner in a list that agrees with it item by item. -/
theorem exists_of_forall₂ {α β : Type} {S : α → β → Prop} {items : List α}
    {others : List β} (h : List.Forall₂ S items others) {item : α} (listed : item ∈ items) :
    ∃ other ∈ others, S item other := by
  induction h with
  | nil => exact absurd listed (List.not_mem_nil)
  | cons related _ ih =>
    rcases List.mem_cons.mp listed with rfl | listed
    · exact ⟨_, List.mem_cons_self .., related⟩
    · obtain ⟨other, held, related⟩ := ih listed
      exact ⟨other, List.mem_cons_of_mem _ held, related⟩

end TypedRpc
