import TypedRpc.Proofs.Naming.Legality

/-!
# Names already in camelCase

camelCase leaves a name without words alone, and also a name of one word whose first letter is its
own lower form.  There are no others: a name with a separator beside its words loses it.  Every name
in camelCase is of one of these two kinds, since the forms of letters hold no separators and the
lower form of a letter begins in lower case already.  So a second round changes nothing.

* `InCamelCase`, `camelCaseChars_eq_self_iff`: the names that camelCase leaves alone.
* `inCamelCase_camelCaseChars`: camelCase makes such names.
* `names_settle_in_camelCase`: a second round changes nothing, whatever the convention of the wire.
-/

namespace TypedRpc
namespace Naming

open Text

/-- A name in camelCase: there are no words in it, or nothing but one word, which begins in lower
case. -/
def InCamelCase (cs : List Char) : Prop :=
  (∀ c ∈ cs, isJoiner c) ∨ (∀ c ∈ cs, ¬ isJoiner c) ∧ decapitalize cs = cs

-- only the characters of the name are looked through, not all that there are
instance (cs : List Char) : Decidable (InCamelCase cs) :=
  decidable_of_iff (cs.all isJoiner ∨ cs.all (!isJoiner ·) ∧ decapitalize cs = cs)
    (by simp [InCamelCase])

/-- The separators that camelCase removes are marks, which no other character has for a form. -/
theorem mem_nameMarks_of_isJoiner {c : Char} (joins : isJoiner c) : c ∈ nameMarks := by
  rcases isJoiner_iff.mp joins with rfl | rfl <;> decide

/-- **A word begins in lower case once its first letter has been lowered**, whatever follows it. -/
theorem decapitalize_append {word : List Char} (some : word ≠ []) (rest : List Char) :
    decapitalize (decapitalize word ++ rest) = decapitalize word ++ rest := by
  obtain ⟨c, tail, rfl⟩ := List.exists_cons_of_ne_nil some
  obtain ⟨d, more, form, settled⟩ := exists_cons_lowerChar c
  have begun : decapitalize (c :: tail) ++ rest = d :: (more ++ tail ++ rest) := by
    rw [decapitalize, form, List.cons_append, List.cons_append]
  rw [begun, decapitalize, settled, List.singleton_append]

/-- A name in camelCase is left alone. -/
theorem camelCaseChars_of_inCamelCase {cs : List Char} (settled : InCamelCase cs) :
    camelCaseChars cs = cs := by
  rcases settled with joiners | ⟨whole, lowered⟩
  · exact camelCaseChars_of_no_words (words_eq_nil_iff.mpr joiners)
  · by_cases empty : cs = []
    · rw [empty]
      rfl
    · have alone : words isJoiner cs = [cs] := words_of_whole empty whole
      rw [camelCaseChars, alone]
      simp [lowered]

/-- **camelCase makes names in camelCase.** -/
theorem inCamelCase_camelCaseChars (cs : List Char) : InCamelCase (camelCaseChars cs) := by
  cases found : words isJoiner cs with
  | nil =>
    rw [camelCaseChars_of_no_words found]
    exact .inl (words_eq_nil_iff.mp found)
  | cons first others =>
    have some : words isJoiner cs ≠ [] := found ▸ List.cons_ne_nil first others
    right
    constructor
    · -- a separator that was left would have to stand inside a word
      intro c listed joins
      exact ((mem_camelCaseChars_iff (mem_nameMarks_of_isJoiner joins) some).mp listed).2 joins
    · have word : first ≠ [] := ne_nil_of_mem_words (found ▸ List.mem_cons_self)
      rw [camelCaseChars, found]
      exact decapitalize_append word _

/-- **camelCase leaves exactly the names in camelCase alone.** -/
theorem camelCaseChars_eq_self_iff {cs : List Char} :
    camelCaseChars cs = cs ↔ InCamelCase cs := by
  refine ⟨fun same => ?_, camelCaseChars_of_inCamelCase⟩
  rw [← same]
  exact inCamelCase_camelCaseChars cs

/-- **Names settle in camelCase.**  A second round changes nothing; a name is left alone exactly
when it is in camelCase; and so a wire name is the wire name of itself, whatever the convention. -/
theorem names_settle_in_camelCase (name : String) :
    camelCase (camelCase name) = camelCase name ∧
    (camelCase name = name ↔ InCamelCase name.toList) ∧
    ∀ format : WireFormat, format.apply (format.apply name) = format.apply name := by
  have twice : camelCase (camelCase name) = camelCase name := by
    rw [camelCase, camelCase, String.toList_ofList,
      camelCaseChars_of_inCamelCase (inCamelCase_camelCaseChars name.toList)]
  refine ⟨twice, ?alone, fun format => ?wire⟩
  case alone =>
    rw [← camelCaseChars_eq_self_iff, ← String.toList_inj, camelCase, String.toList_ofList]
  case wire =>
    cases format with
    | camelCase => exact twice
    | snakeCase => rfl

example : InCamelCase "dueDate".toList ∧ InCamelCase "_-_".toList ∧
    ¬ InCamelCase "due_date".toList ∧ ¬ InCamelCase "DueDate".toList := by
  decide +kernel

end Naming
end TypedRpc
