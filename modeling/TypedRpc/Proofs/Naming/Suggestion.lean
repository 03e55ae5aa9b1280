import TypedRpc.Proofs.Naming.Legality

/-!
# Corrected names

A refused name is corrected in two rounds.  The first drops every run of underscores that ends
directly before a digit, the second drops the question marks.  The second may bring an underscore
and a digit together that the first one has seen apart, and then the corrected name is refused as
well.  That takes a question mark directly after an underscore, and nothing but question marks and
further underscores on the way to a digit.

* `correction_induction`: what the two rounds do to the first character of a name.
* `Parted`: names whose correction is not enough.
* `reachesDigit_of_startsWithDigit`, `startsWithDigit_or_parted`: when a corrected name starts with
  a digit.
* `isLegalChars_suggestChars_iff`: a corrected name is legal exactly when the name is not parted.
-/

namespace TypedRpc
namespace Naming

open Text

/-! ## The two rounds -/

/-- An underscore and a question mark are no digits. -/
theorem not_startsWithDigit_of_mark {mark : Char} (isMark : mark = '_' ∨ mark = '?')
    (rest : List Char) : ¬ startsWithDigit (mark :: rest) := by
  change ¬ isDigit mark
  rcases isMark with rfl | rfl <;> decide

theorem suggestChars_questionMark (rest : List Char) :
    suggestChars ('?' :: rest) = suggestChars rest := by
  simp [suggestChars, joinDigits, dropQuestionMarks]

/-- Underscores directly before a digit are dropped. -/
theorem suggestChars_dropped {rest : List Char}
    (tight : startsWithDigit (rest.dropWhile (· = '_'))) :
    suggestChars ('_' :: rest) = suggestChars rest := by
  rw [suggestChars, joinDigits, if_pos ⟨rfl, tight⟩, suggestChars]

/-- All other underscores are kept. -/
theorem suggestChars_kept {rest : List Char}
    (loose : ¬ startsWithDigit (rest.dropWhile (· = '_'))) :
    suggestChars ('_' :: rest) = '_' :: suggestChars rest := by
  rw [suggestChars, joinDigits, if_neg fun dropped => loose dropped.2]
  rfl

theorem suggestChars_cons {c : Char} (joined : c ≠ '_') (plain : c ≠ '?') (rest : List Char) :
    suggestChars (c :: rest) = c :: suggestChars rest := by
  simp [suggestChars, joinDigits, dropQuestionMarks, joined, plain]

/-- A name is gone through from its end, by what the two rounds do to its first character. -/
@[elab_as_elim]
theorem correction_induction {motive : List Char → Prop} (nil : motive [])
    (dropped : ∀ rest, startsWithDigit (rest.dropWhile (· = '_')) → motive rest →
      motive ('_' :: rest))
    (kept : ∀ rest, ¬ startsWithDigit (rest.dropWhile (· = '_')) → motive rest →
      motive ('_' :: rest))
    (questionMark : ∀ rest, motive rest → motive ('?' :: rest))
    (plain : ∀ c rest, c ≠ '_' → c ≠ '?' → motive rest → motive (c :: rest))
    (cs : List Char) : motive cs := by
  induction cs with
  | nil => exact nil
  | cons c rest ih =>
    by_cases joiner : c = '_'
    · subst joiner
      by_cases tight : startsWithDigit (rest.dropWhile (· = '_'))
      · exact dropped rest tight ih
      · exact kept rest tight ih
    · by_cases mark : c = '?'
      · subst mark
        exact questionMark rest ih
      · exact plain c rest joiner mark ih

/-! ## Digits behind marks -/

/-- Whether nothing but underscores and question marks stands before a digit. -/
def reachesDigit (cs : List Char) : Bool :=
  startsWithDigit (cs.dropWhile fun c => c = '_' ∨ c = '?')

theorem reachesDigit_cons_of_mark {c : Char} (mark : c = '_' ∨ c = '?') (rest : List Char) :
    reachesDigit (c :: rest) = reachesDigit rest := by
  rw [reachesDigit, List.dropWhile_cons_of_pos (by simpa using mark), reachesDigit]

theorem reachesDigit_cons_of_not {c : Char} (inside : ¬ (c = '_' ∨ c = '?')) (rest : List Char) :
    reachesDigit (c :: rest) = isDigit c := by
  rw [reachesDigit, List.dropWhile_cons_of_neg (by simpa using inside), startsWithDigit]

theorem reachesDigit_iff {cs : List Char} :
    reachesDigit cs ↔ ∃ marks digit after, cs = marks ++ digit :: after ∧
      (∀ mark ∈ marks, mark = '_' ∨ mark = '?') ∧ isDigit digit := by
  induction cs with
  | nil => simp [reachesDigit, startsWithDigit]
  | cons c rest ih =>
    by_cases mark : c = '_' ∨ c = '?'
    · rw [reachesDigit_cons_of_mark mark, ih]
      constructor
      · rintro ⟨marks, digit, after, rfl, are_marks, is_digit⟩
        exact ⟨c :: marks, digit, after, rfl, List.forall_mem_cons.mpr ⟨mark, are_marks⟩, is_digit⟩
      · rintro ⟨marks, digit, after, split, are_marks, is_digit⟩
        cases marks with
        | nil =>
          -- a mark is no digit
          obtain rfl := (List.cons.inj split).1
          rcases mark with rfl | rfl <;> exact absurd is_digit (by decide)
        | cons first marks =>
          exact ⟨marks, digit, after, (List.cons.inj split).2,
            (List.forall_mem_cons.mp are_marks).2, is_digit⟩
    · rw [reachesDigit_cons_of_not mark]
      constructor
      · exact fun is_digit => ⟨[], c, rest, rfl, List.forall_mem_nil _, is_digit⟩
      · rintro ⟨marks, digit, after, split, are_marks, is_digit⟩
        cases marks with
        | nil =>
          obtain rfl := (List.cons.inj split).1
          exact is_digit
        | cons first marks =>
          obtain rfl := (List.cons.inj split).1
          exact absurd (are_marks c List.mem_cons_self) mark

/-- A question mark stands directly after an underscore, and nothing but further marks between it
and a digit. -/
def Parted (cs : List Char) : Prop :=
  ∃ before marks digit after, cs = before ++ '_' :: '?' :: (marks ++ digit :: after) ∧
    (∀ mark ∈ marks, mark = '_' ∨ mark = '?') ∧ isDigit digit

/-- A question mark leads, and nothing but further marks stands between it and a digit. -/
def PartedFromFront (cs : List Char) : Prop :=
  ∃ rest, cs = '?' :: rest ∧ reachesDigit rest

theorem not_parted_nil : ¬ Parted [] := by
  rintro ⟨before, marks, digit, after, split, -⟩
  exact absurd split.symm (List.append_ne_nil_of_right_ne_nil _ (List.cons_ne_nil _ _))

theorem parted_cons_iff {c : Char} {rest : List Char} :
    Parted (c :: rest) ↔ (c = '_' ∧ PartedFromFront rest) ∨ Parted rest := by
  constructor
  · rintro ⟨before, marks, digit, after, split, are_marks, is_digit⟩
    cases before with
    | nil =>
      obtain ⟨rfl, rfl⟩ := List.cons.inj split
      exact .inl ⟨rfl, _, rfl, reachesDigit_iff.mpr ⟨marks, digit, after, rfl, are_marks, is_digit⟩⟩
    | cons first before =>
      exact .inr ⟨before, marks, digit, after, (List.cons.inj split).2, are_marks, is_digit⟩
  · rintro (⟨rfl, tail, rfl, reached⟩ | ⟨before, marks, digit, after, rfl, are_marks, is_digit⟩)
    · obtain ⟨marks, digit, after, rfl, are_marks, is_digit⟩ := reachesDigit_iff.mp reached
      exact ⟨[], marks, digit, after, rfl, are_marks, is_digit⟩
    · exact ⟨c :: before, marks, digit, after, rfl, are_marks, is_digit⟩

/-! ## What a correction starts with -/

/-- A corrected name starts with a digit only if nothing but marks has been dropped before it. -/
theorem reachesDigit_of_startsWithDigit {cs : List Char}
    (starts : startsWithDigit (suggestChars cs)) : reachesDigit cs := by
  induction cs using correction_induction with
  | nil => exact starts
  | dropped rest tight ih =>
    rw [suggestChars_dropped tight] at starts
    rw [reachesDigit_cons_of_mark (.inl rfl)]
    exact ih starts
  | kept rest loose ih =>
    rw [suggestChars_kept loose] at starts
    exact absurd starts (not_startsWithDigit_of_mark (.inl rfl) _)
  | questionMark rest ih =>
    rw [suggestChars_questionMark] at starts
    rw [reachesDigit_cons_of_mark (.inr rfl)]
    exact ih starts
  | plain c rest joined plain ih =>
    rw [suggestChars_cons joined plain] at starts
    rw [reachesDigit_cons_of_not (not_or.mpr ⟨joined, plain⟩)]
    exact starts

/-- Where an underscore is kept and a digit follows it after all, a question mark was between
them. -/
theorem partedFromFront_of_kept {rest : List Char}
    (loose : ¬ startsWithDigit (rest.dropWhile (· = '_')))
    (starts : startsWithDigit (suggestChars rest)) : PartedFromFront rest := by
  cases rest with
  | nil => exact absurd starts (by decide)
  | cons c rest =>
    by_cases mark : c = '?'
    · subst mark
      rw [suggestChars_questionMark] at starts
      exact ⟨rest, rfl, reachesDigit_of_startsWithDigit starts⟩
    · by_cases joiner : c = '_'
      · subst joiner
        -- the next underscore is in the same run, so it is kept too
        rw [List.dropWhile_cons_of_pos (by decide)] at loose
        rw [suggestChars_kept loose] at starts
        exact absurd starts (not_startsWithDigit_of_mark (.inl rfl) _)
      · rw [List.dropWhile_cons_of_neg (by simpa using joiner)] at loose
        rw [suggestChars_cons joiner mark] at starts
        exact absurd starts loose

/-- Where nothing but marks stands before a digit, the corrected name starts with it, unless the
name is parted. -/
theorem startsWithDigit_or_parted {cs : List Char} (reached : reachesDigit cs) :
    startsWithDigit (suggestChars cs) ∨ Parted cs := by
  induction cs using correction_induction with
  | nil => exact .inl reached
  | dropped rest tight ih =>
    rw [reachesDigit_cons_of_mark (.inl rfl)] at reached
    rw [suggestChars_dropped tight, parted_cons_iff]
    exact (ih reached).imp_right .inr
  | kept rest loose ih =>
    rw [reachesDigit_cons_of_mark (.inl rfl)] at reached
    rw [parted_cons_iff]
    rcases ih reached with starts | parted
    · exact .inr (.inl ⟨rfl, partedFromFront_of_kept loose starts⟩)
    · exact .inr (.inr parted)
  | questionMark rest ih =>
    rw [reachesDigit_cons_of_mark (.inr rfl)] at reached
    rw [suggestChars_questionMark, parted_cons_iff]
    exact (ih reached).imp_right .inr
  | plain c rest joined plain ih =>
    rw [reachesDigit_cons_of_not (not_or.mpr ⟨joined, plain⟩)] at reached
    rw [suggestChars_cons joined plain]
    exact .inl reached

/-! ## Legal corrections -/

theorem isLegalChars_cons_of_not {c : Char} (joined : c ≠ '_') (plain : c ≠ '?')
    (rest : List Char) : isLegalChars (c :: rest) = isLegalChars rest := by
  simp [isLegalChars, joined, plain]

theorem isLegalChars_underscore {rest : List Char} :
    isLegalChars ('_' :: rest) ↔ ¬ startsWithDigit rest ∧ isLegalChars rest := by
  simp [isLegalChars]

/-- **A corrected name is legal exactly when the name is not parted.** -/
theorem isLegalChars_suggestChars_iff {cs : List Char} :
    isLegalChars (suggestChars cs) ↔ ¬ Parted cs := by
  induction cs using correction_induction with
  | nil => exact iff_of_true rfl not_parted_nil
  | dropped rest tight ih =>
    have unmarked : ¬ PartedFromFront rest := by
      rintro ⟨rest, rfl, -⟩
      exact not_startsWithDigit_of_mark (.inr rfl) rest tight
    rw [suggestChars_dropped tight, ih, parted_cons_iff]
    simp [unmarked]
  | kept rest loose ih =>
    have brought : startsWithDigit (suggestChars rest) ∨ Parted rest ↔
        PartedFromFront rest ∨ Parted rest := by
      constructor
      · exact Or.imp_left (partedFromFront_of_kept loose)
      · rintro (⟨tail, rfl, reached⟩ | parted)
        · rw [suggestChars_questionMark]
          exact (startsWithDigit_or_parted reached).imp_right fun parted =>
            parted_cons_iff.mpr (.inr parted)
        · exact .inr parted
    rw [suggestChars_kept loose, isLegalChars_underscore, ih, ← not_or, brought, parted_cons_iff]
    simp
  | questionMark rest ih =>
    rw [suggestChars_questionMark, ih, parted_cons_iff]
    simp
  | plain c rest joined plain ih =>
    rw [suggestChars_cons joined plain, isLegalChars_cons_of_not joined plain, ih, parted_cons_iff]
    simp [joined]

/-- A corrected name is legal exactly when no question mark directly after an underscore is all,
further marks apart, that stands between it and a digit. -/
theorem isLegal_suggest_iff {name : String} : isLegal (suggest name) ↔ ¬ Parted name.toList := by
  rw [isLegal, suggest, String.toList_ofList]
  exact isLegalChars_suggestChars_iff

example : suggest "line_?2" = "line_2" ∧ isLegal "line_2" = false := by decide +kernel

end Naming
end TypedRpc
