import Mathlib.Data.List.Perm.Basic
import TypedRpc.Options.Document

/-!
# Unknown keys of options

Keys that are texts are either all known, or the unknown ones are reported in the order of their
characters, which does not depend on where they stand.  A key that is no text is never known, and it
cannot be reported: either it cannot be put in order with another one, or it cannot be listed.

* `checkKeys_texts`, `checkKeys_perm`: keys that are texts.
* `checkKeys_broken`: keys of which one is no text.
-/

namespace TypedRpc
namespace Options

/-! ## Keys that are texts -/

/-- The names among some that are unknown, in the order of their characters. -/
def unknownNames (names : List String) : List String :=
  (names.filter fun name => !knownKeys.contains name).mergeSort fun a b => a ≤ b

theorem unknownNames_eq_nil_iff {names : List String} :
    unknownNames names = [] ↔ ∀ name ∈ names, name ∈ knownKeys := by
  rw [unknownNames, ← List.length_eq_zero_iff, List.length_mergeSort, List.length_eq_zero_iff,
    List.filter_eq_nil_iff]
  simp

/-- Where the names stand does not matter. -/
theorem unknownNames_perm {names others : List String} (same : names.Perm others) :
    unknownNames names = unknownNames others := by
  have sorted (texts : List String) :
      (texts.mergeSort fun a b => a ≤ b).Pairwise fun a b => a ≤ b := by
    have trans (a b c : String) (ab : decide (a ≤ b) = true) (bc : decide (b ≤ c) = true) :
        decide (a ≤ c) = true :=
      decide_eq_true (String.le_trans (of_decide_eq_true ab) (of_decide_eq_true bc))
    have total (a b : String) : (decide (a ≤ b) || decide (b ≤ a)) = true := by
      simpa using String.le_total a b
    exact (List.pairwise_mergeSort trans total texts).imp of_decide_eq_true
  refine List.Perm.eq_of_pairwise (fun a b _ _ => String.le_antisymm) (sorted _) (sorted _) ?_
  exact (List.mergeSort_perm ..).trans ((same.filter _).trans (List.mergeSort_perm ..).symm)

@[simp] theorem textKeys_texts (names : List String) : textKeys (names.map .text) = names := by
  rw [textKeys, List.filterMap_map]
  exact List.filterMap_some

/-- Texts can all be put in order. -/
theorem firstUnordered?_texts (names : List String) :
    firstUnordered? (names.map .text) = none := by
  induction names with
  | nil => rfl
  | cons first rest ih =>
    cases rest with
    | nil => rfl
    | cons second others => exact ih

/-- Of keys that are texts, the unknown ones are reported. -/
theorem checkKeys_texts (names : List String) :
    checkKeys (names.map .text) =
      if unknownNames names = [] then .ok ()
      else .error (.refused (.unknownKeys (unknownNames names))) := by
  have unknown : (names.map Value.text).filter (!isKnownKey ·) =
      (names.filter fun name => !knownKeys.contains name).map .text :=
    List.filter_map
  rw [checkKeys, unknown, unknownNames]
  cases names.filter fun name => !knownKeys.contains name with
  | nil => rw [List.mergeSort_nil, if_pos rfl, List.map_nil]
  | cons first others =>
    have unordered := firstUnordered?_texts (first :: others)
    have texts := textKeys_texts (first :: others)
    have reported : ((first :: others).mergeSort fun a b => a ≤ b) ≠ [] := by
      simp [← List.length_eq_zero_iff]
    rw [List.map_cons] at unordered texts ⊢
    simp only [unordered, texts, if_neg reported]

/-- Where keys stand that are texts does not matter. -/
theorem checkKeys_perm {names others : List String} (same : names.Perm others) :
    checkKeys (names.map .text) = checkKeys (others.map .text) := by
  rw [checkKeys_texts, checkKeys_texts, unknownNames_perm same]

/-! ## Keys that are no texts -/

/-- Only texts can be put in order with a text. -/
theorem text_of_haveOrder {name : String} {key : Value} (ordered : haveOrder key (.text name)) :
    ∃ other, key = .text other := by
  cases key with
  | text other => exact ⟨other, rfl⟩
  | _ => simp [haveOrder, keyNumber?] at ordered

/-- Keys that can be put in order with a text before them are texts. -/
theorem texts_of_ordered {first : String} {others : List Value}
    (ordered : firstUnordered? (.text first :: others) = none) :
    ∀ key ∈ others, ∃ name, key = .text name := by
  induction others generalizing first with
  | nil => exact List.forall_mem_nil _
  | cons second rest ih =>
    rw [firstUnordered?] at ordered
    split at ordered
    · next have_order =>
      obtain ⟨other, rfl⟩ := text_of_haveOrder have_order
      exact List.forall_mem_cons.mpr ⟨⟨other, rfl⟩, ih ordered⟩
    · cases ordered

/-- A key that is no text breaks the report of the unknown keys. -/
theorem checkKeys_broken {keys : List Value} {key : Value} (listed : key ∈ keys)
    (noText : ∀ name, key ≠ .text name) :
    ∃ breakdown, checkKeys keys = .error (.broken breakdown) := by
  have unknown : key ∈ keys.filter (!isKnownKey ·) := by
    refine List.mem_filter.mpr ⟨listed, ?_⟩
    cases key with
    | text name => exact absurd rfl (noText name)
    | _ => rfl
  rw [checkKeys]
  cases found : keys.filter (!isKnownKey ·) with
  | nil => exact absurd unknown (by simp [found])
  | cons first others =>
    cases ordered : firstUnordered? (first :: others) with
    | some pair =>
      simp only [ordered]
      exact ⟨_, rfl⟩
    | none =>
      simp only [ordered]
      cases first with
      | text name =>
        -- all keys are texts then, also the one that is not
        rw [found, List.mem_cons] at unknown
        rcases unknown with here | there
        · exact absurd here (noText name)
        · obtain ⟨other, same⟩ := texts_of_ordered ordered key there
          exact absurd same (noText other)
      | _ => exact ⟨_, rfl⟩

end Options
end TypedRpc
