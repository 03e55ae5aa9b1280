import TypedRpc.Naming.Legality
import TypedRpc.Proofs.Naming.Words
import TypedRpc.Proofs.Text.Case

/-!
# Names stay legal

A legal name has no question mark, and no underscore directly before a digit.  The words of a name
are free of underscores, and a change of case makes neither mark out of a letter.  So a name that
has words holds no underscore at all in camelCase, and a name without words is left as it is.

* `isLegalChars_iff`: what a legal name is.
* `mem_camelCaseChars_iff`: the marks that are left in camelCase.
* `isLegal_camelCase_iff`: which names are legal in camelCase; `isLegal_camelCase`: legal ones are.
-/

namespace TypedRpc
namespace Naming

open Text

/-! ## Legal names -/

/-- **A name is legal exactly when it has no question mark and no underscore directly before a
digit**, wherever in the name. -/
theorem isLegalChars_iff {cs : List Char} :
    isLegalChars cs ↔ '?' ∉ cs ∧
      ∀ before digit after, cs = before ++ '_' :: digit :: after → ¬ isDigit digit := by
  induction cs with
  | nil => simp [isLegalChars]
  | cons c rest ih =>
    have step : isLegalChars (c :: rest) ↔
        (c ≠ '?' ∧ (c = '_' → ¬ startsWithDigit rest)) ∧ isLegalChars rest := by
      simp [isLegalChars, imp_iff_not_or]
    rw [step, ih]
    constructor
    · rintro ⟨⟨plain, apart⟩, later, below⟩
      refine ⟨?_, ?_⟩
      · rw [List.mem_cons, not_or]
        exact ⟨plain.symm, later⟩
      · intro before digit after split
        cases before with
        | nil =>
          injection split with first following
          have refused := apart first
          rw [following] at refused
          exact refused
        | cons d before =>
          injection split with first following
          exact below before digit after following
    · rintro ⟨plain, apart⟩
      rw [List.mem_cons, not_or] at plain
      refine ⟨⟨Ne.symm plain.1, ?_⟩, plain.2, ?_⟩
      · rintro rfl
        cases rest with
        | nil => exact Bool.false_ne_true
        | cons digit after => exact apart [] digit after rfl
      · intro before digit after split
        exact apart (c :: before) digit after (congrArg (c :: ·) split)

/-- A name without underscores is legal when it has no question mark. -/
theorem isLegalChars_of_not_mem {cs : List Char} (joined : '_' ∉ cs) (plain : '?' ∉ cs) :
    isLegalChars cs := by
  refine isLegalChars_iff.mpr ⟨plain, ?_⟩
  rintro before digit after rfl
  exact absurd (List.mem_append_right before List.mem_cons_self) joined

/-! ## Marks in camelCase -/

/-- A capitalized word has the marks of the word. -/
theorem mem_capitalize_iff {mark : Char} (isMark : mark ∈ nameMarks) {word : List Char} :
    mark ∈ capitalize word ↔ mark ∈ word := by
  cases word with
  | nil => exact Iff.rfl
  | cons c rest =>
    have forms : mark ∈ upperChar c ↔ mark = c := by
      constructor
      · exact fun formed => (eq_of_mem_upperChar isMark formed).symm
      · rintro rfl
        exact (mem_forms_of_mem_nameMarks isMark).1
    rw [capitalize, List.mem_append, forms, List.mem_cons]

/-- A decapitalized word has the marks of the word. -/
theorem mem_decapitalize_iff {mark : Char} (isMark : mark ∈ nameMarks) {word : List Char} :
    mark ∈ decapitalize word ↔ mark ∈ word := by
  cases word with
  | nil => exact Iff.rfl
  | cons c rest =>
    have forms : mark ∈ lowerChar c ↔ mark = c := by
      constructor
      · exact fun formed => (eq_of_mem_lowerChar isMark formed).symm
      · rintro rfl
        exact (mem_forms_of_mem_nameMarks isMark).2
    rw [decapitalize, List.mem_append, forms, List.mem_cons]

/-- **Where a name has words, the marks in camelCase are those of its words**: marks of the name
that do not join. -/
theorem mem_camelCaseChars_iff {mark : Char} (isMark : mark ∈ nameMarks) {cs : List Char}
    (some : words isJoiner cs ≠ []) :
    mark ∈ camelCaseChars cs ↔ mark ∈ cs ∧ ¬ isJoiner mark := by
  have inWord : mark ∈ camelCaseChars cs ↔ ∃ word ∈ words isJoiner cs, mark ∈ word := by
    unfold camelCaseChars
    cases found : words isJoiner cs with
    | nil => exact absurd found some
    | cons first others =>
      simp only [List.mem_append, List.mem_flatten, List.mem_map, mem_decapitalize_iff isMark,
        exists_exists_and_eq_and, mem_capitalize_iff isMark, List.mem_cons, exists_eq_or_imp]
  rw [inWord]
  constructor
  · rintro ⟨word, isWord, inside⟩
    exact mem_of_mem_words isWord inside
  · rintro ⟨listed, whole⟩
    exact exists_word_of_mem listed whole

/-- **A name is legal in camelCase exactly when it has no question mark.** -/
theorem isLegalChars_camelCaseChars_iff {cs : List Char} :
    isLegalChars (camelCaseChars cs) ↔ '?' ∉ cs := by
  by_cases none : words isJoiner cs = []
  · -- a name without words stays as it is, and has neither question marks nor digits
    have joiners := words_eq_nil_iff.mp none
    have plain : '?' ∉ cs := fun listed => absurd (joiners _ listed) (by decide)
    rw [camelCaseChars_of_no_words none]
    refine iff_of_true (isLegalChars_iff.mpr ⟨plain, ?_⟩) plain
    rintro before digit after rfl isDigit
    have joins := joiners digit
      (List.mem_append_right _ (List.mem_cons_of_mem _ List.mem_cons_self))
    rcases isJoiner_iff.mp joins with rfl | rfl <;> exact absurd isDigit (by decide)
  · have marks : '?' ∈ camelCaseChars cs ↔ '?' ∈ cs ∧ ¬ isJoiner '?' :=
      mem_camelCaseChars_iff (by decide) none
    rw [and_iff_left (by decide)] at marks
    rw [← marks]
    refine ⟨fun legal => (isLegalChars_iff.mp legal).1, fun plain => ?_⟩
    refine isLegalChars_of_not_mem ?_ plain
    intro joined
    exact ((mem_camelCaseChars_iff (by decide) none).mp joined).2 rfl

/-- A name is legal in camelCase exactly when it has no question mark. -/
theorem isLegal_camelCase_iff {name : String} :
    isLegal (camelCase name) ↔ '?' ∉ name.toList := by
  unfold isLegal camelCase
  rw [String.toList_ofList]
  exact isLegalChars_camelCaseChars_iff

/-- **A legal name is legal in camelCase too.**  The converse fails: `line_2` is refused, while
`line2` is not. -/
theorem isLegal_camelCase {name : String} (legal : isLegal name) : isLegal (camelCase name) :=
  isLegal_camelCase_iff.mpr (isLegalChars_iff.mp legal).1

example : isLegal "line_2" = false ∧ isLegal (camelCase "line_2") = true := by decide +kernel

end Naming
end TypedRpc
