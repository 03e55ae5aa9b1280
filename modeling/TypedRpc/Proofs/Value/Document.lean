import TypedRpc.Value.Document

/-!
# Documents as plain values

A document keeps its collections under numbers.  As long as only collections stand there, the whole
of a document can be followed down into it one level at a time: where the whole is a map or a list,
so is the content, and scalars stand where they are.

* `Value.KeysDiffer`: maps without a key twice, with `Value.keysDiffer_ofEntries`.
* `Value.Filled`, `Document.Sound`: what may stand under a number.
* `Value.unfold_eq_map`, `Value.unfold_eq_list`, `Value.unfold_eq_scalar`: the levels of the whole.
-/

namespace TypedRpc

/-! ## Maps without a key twice -/

namespace Value

/-- Whether no key stands twice among some entries. -/
def KeysDiffer (entries : List (Value × Value)) : Prop :=
  entries.Pairwise fun entry other => sameScalar entry.1 other.1 = false

variable {entries known : List (Value × Value)} {key value : Value}

/-- The keys of a map with an entry more are those of the map and the new one. -/
theorem key_of_mem_insert {entry : Value × Value} (listed : entry ∈ insert entries key value) :
    entry.1 = key ∨ ∃ old ∈ entries, entry.1 = old.1 := by
  induction entries with
  | nil =>
    rw [insert, List.mem_singleton] at listed
    exact .inl (by rw [listed])
  | cons first rest ih =>
    rw [insert] at listed
    split at listed <;> rcases List.mem_cons.mp listed with rfl | there
    · exact .inr ⟨first, List.mem_cons_self .., rfl⟩
    · exact .inr ⟨entry, List.mem_cons_of_mem _ there, rfl⟩
    · exact .inr ⟨first, List.mem_cons_self .., rfl⟩
    · rcases ih there with new | ⟨old, held, same⟩
      · exact .inl new
      · exact .inr ⟨old, List.mem_cons_of_mem _ held, same⟩

theorem keysDiffer_insert (differ : KeysDiffer entries) :
    KeysDiffer (insert entries key value) := by
  induction entries with
  | nil => exact List.pairwise_singleton ..
  | cons first rest ih =>
    obtain ⟨apart, others⟩ := List.pairwise_cons.mp differ
    rw [insert]
    split
    · exact List.pairwise_cons.mpr ⟨apart, others⟩
    · next unlike =>
      refine List.pairwise_cons.mpr ⟨fun entry listed => ?_, ih others⟩
      rcases key_of_mem_insert listed with new | ⟨old, held, same⟩
      · rw [new]
        exact Bool.eq_false_iff.mpr unlike
      · rw [same]
        exact apart old held

/-- **No key stands twice in a map that is made of entries.** -/
theorem keysDiffer_ofEntries (entries : List (Value × Value)) : KeysDiffer (ofEntries entries) := by
  have kept (known : List (Value × Value)) (differ : KeysDiffer known) :
      KeysDiffer (entries.foldl (fun known entry => insert known entry.1 entry.2) known) := by
    induction entries generalizing known with
    | nil => exact differ
    | cons entry rest ih => exact ih _ (keysDiffer_insert differ)
  exact kept [] .nil

/-- Whether a value is no collection and no number of one. -/
def IsScalar : Value → Prop
  | .list _ | .tuple _ | .map _ | .set _ | .part _ _ => False
  | _ => True

/-- What a collection may be filled with; null stands where none has been filled yet. -/
inductive Filled : Value → Prop where
  | nothing : Filled .null
  | list (items : List Value) : Filled (.list items)
  | map {entries : List (Value × Value)} (differ : KeysDiffer entries) : Filled (.map entries)
  | set (items : List Value) : Filled (.set items)

/-! ## Levels of the whole -/

theorem unfoldItems_eq_map (parts : Array Value) (depth : Nat) (around : List Nat)
    (items : List Value) :
    unfoldItems parts depth around items = items.map (unfold parts depth around) := by
  induction items with
  | nil => rw [unfoldItems, List.map_nil]
  | cons item rest ih => rw [unfoldItems, ih, List.map_cons]

theorem unfoldEntries_eq_map (parts : Array Value) (depth : Nat) (around : List Nat)
    (entries : List (Value × Value)) :
    unfoldEntries parts depth around entries =
      entries.map fun entry => (entry.1, unfold parts depth around entry.2) := by
  induction entries with
  | nil => rw [unfoldEntries, List.map_nil]
  | cons entry rest ih => rw [unfoldEntries, ih, List.map_cons]

mutual

/-- Without any collections under numbers, values stay as they stand. -/
theorem unfold_empty (depth : Nat) (around : List Nat) :
    ∀ value : Value, unfold #[] depth around value = value
  | .part form number => by
    cases depth <;> rw [unfold] <;> split <;> rfl
  | .list items => by rw [unfold, unfoldItems_empty depth around items]
  | .tuple items => by rw [unfold, unfoldItems_empty depth around items]
  | .map entries => by rw [unfold, unfoldEntries_empty depth around entries]
  | .null | .bool _ | .int _ | .float _ | .text _ | .bytes _ | .date _ | .moment _ | .set _ => by
    simp [unfold]

theorem unfoldItems_empty (depth : Nat) (around : List Nat) :
    ∀ items : List Value, unfoldItems #[] depth around items = items
  | [] => by rw [unfoldItems]
  | item :: rest => by
    rw [unfoldItems, unfold_empty depth around item, unfoldItems_empty depth around rest]

theorem unfoldEntries_empty (depth : Nat) (around : List Nat) :
    ∀ entries : List (Value × Value), unfoldEntries #[] depth around entries = entries
  | [] => by rw [unfoldEntries]
  | (key, value) :: rest => by
    rw [unfoldEntries, unfold_empty depth around value, unfoldEntries_empty depth around rest]

end

end Value

namespace Document

/-- Whether nothing but collections stand under the numbers of a document. -/
def Sound (document : Document) : Prop :=
  ∀ part ∈ document.parts, part.Filled

theorem whole_eq_unfold (document : Document) :
    document.whole = document.value.unfold document.parts document.parts.size [] := by
  obtain ⟨value, parts⟩ := document
  rw [whole]
  split
  · next empty =>
    rw [Array.isEmpty_iff.mp empty]
    exact (Value.unfold_empty _ _ value).symm
  · rfl

end Document

namespace Value

theorem content_part (document : Document) (form : CollectionForm) (number : Nat) :
    (document.within (.part form number)).content =
      (document.parts[number]?).getD (.part form number) :=
  rfl

section Levels

variable {document : Document} (sound : document.Sound) {value : Value} {depth : Nat}
  {around : List Nat}

include sound

/-- What a value shows in the whole, its content shows, unless a number is left there. -/
theorem unfold_content {shown : Value} (whole : value.unfold document.parts depth around = shown)
    (noNumber : ∀ form number, shown ≠ .part form number) :
    (∀ form number, (document.within value).content ≠ .part form number) ∧
      ∃ inner beyond,
        (document.within value).content.unfold document.parts inner beyond = shown := by
  cases value with
  | part form number =>
    cases depth with
    | zero =>
      rw [unfold, ite_self] at whole
      exact absurd whole.symm (noNumber form number)
    | succ inner =>
      rw [unfold] at whole
      split at whole
      · exact absurd whole.symm (noNumber form number)
      · rw [content_part]
        cases held : document.parts[number]? with
        | none =>
          rw [held] at whole
          exact absurd whole.symm (noNumber form number)
        | some part =>
          rw [held] at whole
          refine ⟨fun other count same => ?_, inner, number :: around, whole⟩
          have filled := sound part (Array.mem_of_getElem? held)
          rw [Option.getD_some] at same
          rw [same] at filled
          cases filled
  | _ => exact ⟨nofun, depth, around, whole⟩

/-- Where the whole shows a map, there is one. -/
theorem unfold_eq_map {plain : List (Value × Value)}
    (whole : value.unfold document.parts depth around = .map plain) :
    ∃ found inner beyond, (document.within value).content = .map found ∧
      (found.map fun entry => (entry.1, entry.2.unfold document.parts inner beyond)) = plain := by
  obtain ⟨noPart, inner, beyond, shown⟩ := unfold_content sound whole nofun
  cases content : (document.within value).content with
  | map found =>
    rw [content, unfold, unfoldEntries_eq_map] at shown
    exact ⟨found, inner, beyond, rfl, Value.map.inj shown⟩
  | part form number => exact absurd content (noPart form number)
  | _ => simp [content, unfold] at shown

/-- Where the whole shows a list, there is one. -/
theorem unfold_eq_list {plain : List Value}
    (whole : value.unfold document.parts depth around = .list plain) :
    ∃ found inner beyond, (document.within value).content = .list found ∧
      found.map (unfold document.parts inner beyond) = plain := by
  obtain ⟨noPart, inner, beyond, shown⟩ := unfold_content sound whole nofun
  cases content : (document.within value).content with
  | list found =>
    rw [content, unfold, unfoldItems_eq_map] at shown
    exact ⟨found, inner, beyond, rfl, Value.list.inj shown⟩
  | part form number => exact absurd content (noPart form number)
  | _ => simp [content, unfold] at shown

/-- Scalars stand where the whole shows them.  Null may be shown for a collection that has not been
filled. -/
theorem unfold_eq_scalar {shown : Value} (scalar : shown.IsScalar) (given : shown ≠ .null)
    (whole : value.unfold document.parts depth around = shown) : value = shown := by
  cases value with
  | part form number =>
    -- what stands under a number is a collection, and is shown as one
    obtain ⟨noPart, inner, beyond, shows⟩ := unfold_content sound whole fun _ _ same =>
      (same ▸ scalar : IsScalar (.part _ _))
    rw [content_part] at noPart shows
    cases held : document.parts[number]? with
    | none => exact absurd (by rw [held]; rfl) (noPart form number)
    | some part =>
      rw [held, Option.getD_some] at shows
      subst shows
      cases sound part (Array.mem_of_getElem? held) with
      | nothing => simp [unfold] at given
      | list | map | set => simp [unfold, IsScalar] at scalar
  | list | tuple | map | set =>
    subst whole
    simp [unfold, IsScalar] at scalar
  | null | bool | int | float | text | bytes | date | moment => simpa [unfold] using whole

end Levels

end Value
end TypedRpc
