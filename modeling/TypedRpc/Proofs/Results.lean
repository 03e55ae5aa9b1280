import Mathlib.Data.List.Forall2

/-!
# Work that may fail

When work in several steps has a result, and what that result is: for two steps, for the items of a
list, and for findings that are put together.
-/

namespace TypedRpc

variable {ε α β : Type}

/-- Work in two steps succeeds when both steps do. -/
theorem bind_eq_ok_iff {x : Except ε α} {f : α → Except ε β} {result : β} :
    (x >>= f) = .ok result ↔ ∃ value, x = .ok value ∧ f value = .ok result := by
  cases x with
  | error failure =>
    constructor
    · intro h
      cases h
    · rintro ⟨value, h, -⟩
      cases h
  | ok value =>
    constructor
    · exact fun h => ⟨value, rfl, h⟩
    · rintro ⟨other, same, h⟩
      cases same
      exact h

theorem map_eq_ok_iff {x : Except ε α} {f : α → β} {result : β} :
    x.map f = .ok result ↔ ∃ value, x = .ok value ∧ f value = result := by
  cases x with
  | error failure => exact ⟨nofun, fun ⟨_, same, _⟩ => nomatch same⟩
  | ok value =>
    exact ⟨fun h => ⟨value, rfl, Except.ok.inj h⟩, fun ⟨_, same, h⟩ => by cases same; rw [← h]; rfl⟩

/-- A fault in other words is still a fault. -/
theorem mapError_eq_ok_iff {φ : Type} {x : Except ε α} {f : ε → φ} {result : α} :
    x.mapError f = .ok result ↔ x = .ok result := by
  cases x with
  | error failure => exact ⟨nofun, nofun⟩
  | ok value => exact ⟨fun h => by cases h; rfl, fun h => by cases h; rfl⟩

/-- The results for a list are those for its items. -/
theorem mapM_eq_ok_iff {f : α → Except ε β} {items : List α} {results : List β} :
    items.mapM f = .ok results ↔
      List.Forall₂ (fun item result => f item = .ok result) items results := by
  induction items generalizing results with
  | nil =>
    constructor
    · intro h
      cases h
      exact .nil
    · intro h
      cases h
      rfl
  | cons item rest ih =>
    rw [List.mapM_cons, bind_eq_ok_iff, List.forall₂_cons_left_iff]
    simp only [bind_eq_ok_iff, ih]
    constructor
    · rintro ⟨result, here, others, there, done⟩
      cases done
      exact ⟨result, others, here, there, rfl⟩
    · rintro ⟨result, others, here, there, rfl⟩
      exact ⟨result, here, others, there, rfl⟩

/-- Every result comes from an item. -/
theorem exists_of_mem_results {f : α → Except ε β} {items : List α} {results : List β}
    (h : items.mapM f = .ok results) {result : β} (listed : result ∈ results) :
    ∃ item ∈ items, f item = .ok result := by
  rw [mapM_eq_ok_iff] at h
  induction h with
  | nil => exact absurd listed (List.not_mem_nil)
  | cons here _ ih =>
    rcases List.mem_cons.mp listed with rfl | listed
    · exact ⟨_, List.mem_cons_self .., here⟩
    · obtain ⟨item, held, found⟩ := ih listed
      exact ⟨item, List.mem_cons_of_mem _ held, found⟩

theorem mapM_isOk {f : α → Except ε β} {items : List α}
    (h : ∀ item ∈ items, ∃ result, f item = .ok result) :
    ∃ results, items.mapM f = .ok results := by
  induction items with
  | nil => exact ⟨[], rfl⟩
  | cons item rest ih =>
    obtain ⟨result, here⟩ := h item (List.mem_cons_self ..)
    obtain ⟨results, there⟩ := ih fun other listed => h other (List.mem_cons_of_mem _ listed)
    exact ⟨result :: results, mapM_eq_ok_iff.mpr (.cons here (mapM_eq_ok_iff.mp there))⟩

/-- There are results for a list exactly when there is one for each item. -/
theorem mapM_isOk_iff {f : α → Except ε β} {items : List α} :
    (∃ results, items.mapM f = .ok results) ↔ ∀ item ∈ items, ∃ result, f item = .ok result := by
  constructor
  · rintro ⟨results, each⟩
    rw [mapM_eq_ok_iff] at each
    induction each with
    | nil => exact List.forall_mem_nil _
    | cons here _ ih => exact List.forall_mem_cons.mpr ⟨⟨_, here⟩, ih⟩
  · exact mapM_isOk

/-- What is done for each item depends on what is done for the items of the list only. -/
theorem mapM_congr {m : Type → Type} [Monad m] [LawfulMonad m] {f g : α → m β}
    {items : List α} (same : ∀ item ∈ items, f item = g item) : items.mapM f = items.mapM g := by
  induction items with
  | nil => rfl
  | cons item rest ih =>
    rw [List.mapM_cons, List.mapM_cons, same item (List.mem_cons_self ..),
      ih fun item listed => same item (List.mem_cons_of_mem _ listed)]

/-- What is done with each result can be done with all of them. -/
theorem mapM_map {γ : Type} (f : α → Except ε β) (g : β → γ) (items : List α) :
    items.mapM (fun item => (f item).map g) = (items.mapM f).map (List.map g) := by
  induction items with
  | nil => rfl
  | cons item rest ih =>
    rw [List.mapM_cons, List.mapM_cons, ih]
    cases f item with
    | error failure => rfl
    | ok first => cases rest.mapM f <;> rfl

/-- What is done with a result does not decide whether there is one. -/
theorem bind_pure_isOk_iff {x : Except ε α} {f : α → β} :
    (∃ result, (x >>= fun value => pure (f value)) = .ok result) ↔ ∃ value, x = .ok value := by
  constructor
  · rintro ⟨_, done⟩
    obtain ⟨value, here, -⟩ := bind_eq_ok_iff.mp done
    exact ⟨value, here⟩
  · rintro ⟨value, here⟩
    exact ⟨f value, bind_eq_ok_iff.mpr ⟨value, here, rfl⟩⟩

/-- Lists of findings are all empty exactly when nothing is found for any item. -/
theorem mapM_flatten_eq_nil_iff {f : α → Except ε (List β)} {items : List α} :
    (∃ results, items.mapM f = .ok results ∧ results.flatten = []) ↔
      ∀ item ∈ items, f item = .ok [] := by
  simp only [mapM_eq_ok_iff]
  induction items with
  | nil => simp
  | cons item rest ih =>
    rw [List.forall_mem_cons, ← ih]
    constructor
    · rintro ⟨results, paired, empty⟩
      obtain ⟨result, others, here, there, rfl⟩ := List.forall₂_cons_left_iff.mp paired
      rw [List.flatten_cons, List.append_eq_nil_iff] at empty
      exact ⟨by rw [here, empty.1], others, there, empty.2⟩
    · rintro ⟨here, others, there, empty⟩
      exact ⟨[] :: others, .cons here there, by simpa using empty⟩

end TypedRpc
