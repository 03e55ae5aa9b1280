import Mathlib.Logic.Function.Iterate
import TypedRpc.Proofs.Naming.Suggestion

/-!
# Rounds of correction

A correction may be refused in turn, and then it is corrected once more.  It has no question marks
any longer, and nothing else keeps an underscore from the digit behind it, so the second correction
is legal.  A legal name is what its correction leaves alone, so from then on nothing changes.

* `Thinned`, `thinned_suggestChars`: a correction only deletes underscores and question marks.
* `suggestChars_eq_self_iff`: exactly the legal names are left alone.
* `isLegal_suggest_suggest`: a second correction is legal.
* `rounds_of_suggestions`: all of this for every name, and the rounds after the second.
-/

namespace TypedRpc
namespace Naming

/-! ## What a correction deletes -/

/-- What is left of a text when some of its underscores and question marks are deleted and all other
characters keep their order. -/
inductive Thinned : List Char → List Char → Prop
  | nil : Thinned [] []
  | delete {mark : Char} {cs left : List Char} :
      mark = '_' ∨ mark = '?' → Thinned cs left → Thinned (mark :: cs) left
  | keep {c : Char} {cs left : List Char} : Thinned cs left → Thinned (c :: cs) (c :: left)

/-- **A correction only deletes underscores and question marks.** -/
theorem thinned_suggestChars (cs : List Char) : Thinned cs (suggestChars cs) := by
  induction cs using correction_induction with
  | nil => exact .nil
  | dropped rest tight ih =>
    rw [suggestChars_dropped tight]
    exact .delete (.inl rfl) ih
  | kept rest loose ih =>
    rw [suggestChars_kept loose]
    exact .keep ih
  | questionMark rest ih =>
    rw [suggestChars_questionMark]
    exact .delete (.inr rfl) ih
  | plain c rest joined plain ih =>
    rw [suggestChars_cons joined plain]
    exact .keep ih

/-! ## Names left alone -/

/-- Underscores directly before a digit make a name illegal, however many there are. -/
theorem not_isLegalChars_of_tight {rest : List Char}
    (tight : startsWithDigit (rest.dropWhile (· = '_'))) : ¬ isLegalChars ('_' :: rest) := by
  intro legal
  induction rest with
  | nil => exact absurd tight (by decide)
  | cons c rest ih =>
    rw [isLegalChars_underscore] at legal
    by_cases joiner : c = '_'
    · subst joiner
      rw [List.dropWhile_cons_of_pos (by decide)] at tight
      exact ih tight legal.2
    · rw [List.dropWhile_cons_of_neg (by simpa using joiner)] at tight
      exact legal.1 tight

/-- A legal name has nothing to delete. -/
theorem suggestChars_of_isLegalChars {cs : List Char} (legal : isLegalChars cs) :
    suggestChars cs = cs := by
  induction cs using correction_induction with
  | nil => rfl
  | dropped rest tight ih => exact absurd legal (not_isLegalChars_of_tight tight)
  | kept rest loose ih => rw [suggestChars_kept loose, ih (isLegalChars_underscore.mp legal).2]
  | questionMark rest ih => exact absurd List.mem_cons_self (isLegalChars_iff.mp legal).1
  | plain c rest joined plain ih =>
    rw [isLegalChars_cons_of_not joined plain] at legal
    rw [suggestChars_cons joined plain, ih legal]

theorem not_mem_suggestChars (cs : List Char) : '?' ∉ suggestChars cs := by
  intro listed
  exact absurd rfl (of_decide_eq_true (List.mem_filter.mp listed).2)

/-- Without question marks one correction is enough. -/
theorem isLegalChars_suggestChars {cs : List Char} (plain : '?' ∉ cs) :
    isLegalChars (suggestChars cs) := by
  refine isLegalChars_suggestChars_iff.mpr ?_
  rintro ⟨before, marks, digit, after, rfl, -⟩
  exact plain (by simp)

/-- **Exactly the legal names are left alone.** -/
theorem suggestChars_eq_self_iff {cs : List Char} : suggestChars cs = cs ↔ isLegalChars cs := by
  constructor
  · intro same
    have plain : '?' ∉ cs := same ▸ not_mem_suggestChars cs
    have legal := isLegalChars_suggestChars plain
    rwa [same] at legal
  · exact suggestChars_of_isLegalChars

theorem suggest_eq_self_iff {name : String} : suggest name = name ↔ isLegal name := by
  rw [isLegal, ← suggestChars_eq_self_iff, ← String.toList_inj, suggest, String.toList_ofList]

/-! ## The second round -/

/-- **A second correction is legal**, since the first one leaves no question mark behind. -/
theorem isLegal_suggest_suggest (name : String) : isLegal (suggest (suggest name)) := by
  simp only [isLegal, suggest, String.toList_ofList]
  exact isLegalChars_suggestChars (not_mem_suggestChars name.toList)

/-- **Two rounds settle every name.**  A name is legal exactly when its correction leaves it alone;
a correction deletes underscores and question marks only; and the second one is legal, so that
further rounds change nothing. -/
theorem rounds_of_suggestions (name : String) :
    (isLegal name ↔ suggest name = name) ∧
    Thinned name.toList (suggest name).toList ∧
    isLegal (suggest (suggest name)) ∧
    ∀ further, suggest^[further + 2] name = suggest (suggest name) := by
  refine ⟨suggest_eq_self_iff.symm, ?thinned, isLegal_suggest_suggest name, fun further => ?settled⟩
  case thinned =>
    rw [suggest, String.toList_ofList]
    exact thinned_suggestChars name.toList
  case settled =>
    have fixed : suggest (suggest (suggest name)) = suggest (suggest name) :=
      suggest_eq_self_iff.mpr (isLegal_suggest_suggest name)
    rw [Function.iterate_add_apply]
    exact Function.iterate_fixed fixed further

example : isLegal (suggest "line_?2") = false ∧ suggest (suggest "line_?2") = "line2" := by
  decide +kernel

end Naming
end TypedRpc
