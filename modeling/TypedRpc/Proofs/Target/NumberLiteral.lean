import Mathlib.Data.List.Basic
import Mathlib.Data.List.TakeWhile
import TypedRpc.Number.Shortest

/-!
# Literals of numbers

An integer is written by its digits, a number with a binary exponent by digits that hold a point or
are followed by an exponent.  So no text is a literal of both kinds: the point, or the letter of the
exponent, tells them apart.

The digits of a number are cut at the zeros behind them, and nothing would be left of a number whose
digits were all zeros.  The search for the shortest digits does not find these for a number that is
not zero, since zero does not round to it; and where the search finds nothing, the point stands
behind the first digit, so a zero is put there.

* `IsIntegerLiteral`, `IsRealLiteral`: the forms of literals.
* `IsRealLiteral.exists_mark`, `IsIntegerLiteral.not_mark`: no text is a literal of both kinds.
* `isIntegerLiteral_toString`, `isRealLiteral_finite`: what is written for numbers.
-/

namespace TypedRpc
namespace Target

/-! ## Forms -/

/-- Whether there are digits and nothing else. -/
structure IsDigits (cs : List Char) : Prop where
  nonempty : cs ≠ []
  digits : ∀ c ∈ cs, c.isDigit

/-- Whether digits write a whole number: none but the number zero begins with a zero. -/
structure IsWhole (cs : List Char) : Prop extends IsDigits cs where
  leading : cs.head? = some '0' → cs = ['0']

/-- An exponent: its letter, a sign or none, and digits. -/
inductive IsExponent : List Char → Prop where
  | intro {letter : Char} {sign digits : List Char} (lettered : letter = 'e' ∨ letter = 'E')
      (signed : sign = [] ∨ sign = ['+'] ∨ sign = ['-']) (behind : IsDigits digits) :
      IsExponent (letter :: sign ++ digits)

/-- A number with a point or an exponent.  Digits may be missing in front of the point. -/
inductive IsReal : List Char → Prop where
  | pointed {whole fraction exponent : List Char} (before : ∀ c ∈ whole, c.isDigit)
      (behind : IsDigits fraction) (scaled : exponent = [] ∨ IsExponent exponent) :
      IsReal (whole ++ '.' :: (fraction ++ exponent))
  | scaled {digits exponent : List Char} (before : IsDigits digits)
      (behind : IsExponent exponent) : IsReal (digits ++ exponent)

/-- What has some form, behind a minus sign or without one. -/
inductive Signed (form : List Char → Prop) : List Char → Prop where
  | plain {cs : List Char} (formed : form cs) : Signed form cs
  | minus {cs : List Char} (formed : form cs) : Signed form ('-' :: cs)

/-- Whether a text is an integer literal, whatever its size. -/
def IsIntegerLiteral (text : String) : Prop :=
  Signed IsWhole text.toList

/-- Whether a text is a literal of a number with a fraction or an exponent. -/
def IsRealLiteral (text : String) : Prop :=
  Signed IsReal text.toList

/-! ## Characters of literals -/

/-- Whether a character may stand in the literal of a number. -/
def isNumberChar (c : Char) : Bool :=
  c.isDigit || ['.', 'e', 'E', '+', '-'].contains c

/-- Whether a character tells a number with a fraction or an exponent. -/
def isRealMark (c : Char) : Bool :=
  ['.', 'e', 'E'].contains c

theorem IsDigits.numberChars {cs : List Char} (formed : IsDigits cs) :
    ∀ c ∈ cs, isNumberChar c := by
  intro c listed
  simp [isNumberChar, formed.digits c listed]

theorem IsExponent.numberChars {cs : List Char} (formed : IsExponent cs) :
    ∀ c ∈ cs, isNumberChar c := by
  obtain ⟨lettered, signed, behind⟩ := formed
  simp only [List.cons_append, List.forall_mem_cons, List.forall_mem_append]
  refine ⟨?_, ?_, behind.numberChars⟩
  · rcases lettered with rfl | rfl <;> decide
  · rcases signed with rfl | rfl | rfl <;> simp [isNumberChar]

theorem IsReal.numberChars {cs : List Char} (formed : IsReal cs) : ∀ c ∈ cs, isNumberChar c := by
  cases formed with
  | pointed before behind scaled =>
    simp only [List.forall_mem_append, List.forall_mem_cons]
    refine ⟨fun c listed => by simp [isNumberChar, before c listed], by decide,
      behind.numberChars, ?_⟩
    rcases scaled with rfl | exponent
    · exact List.forall_mem_nil _
    · exact exponent.numberChars
  | scaled before behind =>
    exact List.forall_mem_append.mpr ⟨before.numberChars, behind.numberChars⟩

/-- What stands behind the sign has the form; apart from it there is only the sign. -/
theorem Signed.exists_unsigned {form : List Char → Prop} {cs : List Char}
    (formed : Signed form cs) :
    ∃ unsigned, form unsigned ∧ unsigned ⊆ cs ∧ ∀ c ∈ cs, c = '-' ∨ c ∈ unsigned := by
  cases formed with
  | plain formed => exact ⟨cs, formed, List.Subset.refl cs, fun _ => .inr⟩
  | minus formed => exact ⟨_, formed, List.subset_cons_self _ _, fun _ => List.mem_cons.mp⟩

theorem Signed.numberChars {form : List Char → Prop} {cs : List Char}
    (each : ∀ {cs}, form cs → ∀ c ∈ cs, isNumberChar c) (formed : Signed form cs) :
    ∀ c ∈ cs, isNumberChar c := by
  obtain ⟨unsigned, formed, -, rest⟩ := formed.exists_unsigned
  intro c listed
  rcases rest c listed with rfl | within
  · decide
  · exact each formed c within

theorem IsIntegerLiteral.numberChars {text : String} (formed : IsIntegerLiteral text) :
    ∀ c ∈ text.toList, isNumberChar c :=
  Signed.numberChars (fun whole => whole.toIsDigits.numberChars) formed

theorem IsRealLiteral.numberChars {text : String} (formed : IsRealLiteral text) :
    ∀ c ∈ text.toList, isNumberChar c :=
  Signed.numberChars IsReal.numberChars formed

theorem IsReal.exists_mark {cs : List Char} (formed : IsReal cs) : ∃ c ∈ cs, isRealMark c := by
  cases formed with
  | pointed before behind scaled => exact ⟨'.', by simp, by decide⟩
  | scaled before behind =>
    obtain ⟨lettered, -, -⟩ := behind
    refine ⟨_, List.mem_append_right _ List.mem_cons_self, ?_⟩
    rcases lettered with rfl | rfl <;> decide

theorem IsWhole.not_mark {cs : List Char} (formed : IsWhole cs) : ∀ c ∈ cs, ¬isRealMark c := by
  intro c listed marked
  have digit := formed.digits c listed
  simp only [isRealMark, List.contains_iff_mem, List.mem_cons, List.not_mem_nil, or_false]
    at marked
  rcases marked with rfl | rfl | rfl <;> exact absurd digit (by decide)

/-- A literal with a fraction or an exponent has a mark that tells it. -/
theorem IsRealLiteral.exists_mark {text : String} (formed : IsRealLiteral text) :
    ∃ c ∈ text.toList, isRealMark c := by
  obtain ⟨unsigned, formed, within, -⟩ := Signed.exists_unsigned formed
  obtain ⟨c, listed, marked⟩ := formed.exists_mark
  exact ⟨c, within listed, marked⟩

/-- **An integer literal has no mark of that kind**, so no text is a literal of both kinds. -/
theorem IsIntegerLiteral.not_mark {text : String} (formed : IsIntegerLiteral text) :
    ∀ c ∈ text.toList, ¬isRealMark c := by
  obtain ⟨unsigned, formed, -, rest⟩ := Signed.exists_unsigned formed
  intro c listed
  rcases rest c listed with rfl | inside
  · decide
  · exact formed.not_mark c inside

/-! ## Integers -/

theorem isDigit_of_mem_toDigits {n : Nat} {c : Char} (listed : c ∈ Nat.toDigits 10 n) :
    c.isDigit :=
  Nat.isDigit_of_mem_toDigits (by decide) (by decide) listed

/-- The digits of a number begin with a zero only for the number zero. -/
theorem head?_toDigits_eq_zero_iff {n : Nat} :
    (Nat.toDigits 10 n).head? = some '0' ↔ n = 0 := by
  induction n using Nat.strongRecOn with
  | ind n ih =>
    rcases Nat.lt_or_ge n 10 with single | several
    · have digit : ∀ d < 10, Nat.digitChar d = '0' ↔ d = 0 := by decide
      rw [Nat.toDigits_of_lt_base single, List.head?_cons, Option.some_inj, digit n single]
    · obtain ⟨c, rest, first⟩ :=
        List.exists_cons_of_ne_nil (Nat.toDigits_ne_nil : Nat.toDigits 10 (n / 10) ≠ [])
      have before := ih (n / 10) (by omega)
      rw [first, List.head?_cons] at before
      rw [Nat.toDigits_of_base_le (by decide) several, first, List.cons_append, List.head?_cons,
        before]
      omega

theorem isWhole_toDigits (n : Nat) : IsWhole (Nat.toDigits 10 n) where
  nonempty := Nat.toDigits_ne_nil
  digits _ listed := isDigit_of_mem_toDigits listed
  leading zero := by rw [head?_toDigits_eq_zero_iff.mp zero]; rfl

/-- **An integer is written as an integer literal.** -/
theorem isIntegerLiteral_toString (n : Int) : IsIntegerLiteral (toString n) := by
  rw [IsIntegerLiteral, Int.toString_eq_repr]
  cases n with
  | ofNat m =>
    rw [Int.repr, Nat.toList_repr]
    exact .plain (isWhole_toDigits m)
  | negSucc m =>
    rw [Int.repr, String.toList_append, Nat.toList_repr]
    exact .minus (isWhole_toDigits (m + 1))

/-! ## Numbers with a binary exponent -/

/-- The digits that are left when the zeros behind them are cut off. -/
theorem digits_trimZeros {cs : List Char} (digits : ∀ c ∈ cs, c.isDigit) :
    ∀ c ∈ Binary64.trimZeros cs, c.isDigit := by
  intro c listed
  rw [Binary64.trimZeros, List.mem_reverse] at listed
  exact digits c (List.mem_reverse.mp (List.dropWhile_subset _ listed))

/-- Something is left of the digits of a number that is not zero. -/
theorem trimZeros_toDigits_ne_nil {n : Nat} (positive : n ≠ 0) :
    Binary64.trimZeros (Nat.toDigits 10 n) ≠ [] := by
  intro none
  rw [Binary64.trimZeros, List.reverse_eq_nil_iff, List.dropWhile_eq_nil_iff] at none
  obtain ⟨c, rest, first⟩ :=
    List.exists_cons_of_ne_nil (Nat.toDigits_ne_nil : Nat.toDigits 10 n ≠ [])
  have zero := none c (by rw [first]; simp)
  refine positive (head?_toDigits_eq_zero_iff.mp ?_)
  rw [first, List.head?_cons, of_decide_eq_true zero]

section Shortest

variable {significand : Nat} (exponent : Int)

/-- Zero does not round to a number that is not zero. -/
theorem not_contains_zero (positive : significand ≠ 0) {den : Nat} (divides : 0 < den) :
    (Binary64.neighbourhood significand exponent).contains 0 den = false := by
  have below : 0 < (Binary64.neighbourhood significand exponent).below := by
    unfold Binary64.neighbourhood
    refine Nat.mul_pos ?_ ?_
    · split_ifs <;> omega
    · split_ifs
      · exact Nat.pow_pos (by decide)
      · exact Nat.one_pos
  have product := Nat.mul_pos below divides
  unfold Binary64.Neighbourhood.contains
  split_ifs
  · simp [Nat.ne_of_gt product]
  · simp

/-- What a grid has for a number that is not zero has other digits than zero. -/
theorem onGrid?_digits_ne_zero (positive : significand ≠ 0) {point : Int} {count : Nat}
    {decimal : Binary64.Decimal}
    (hit : (Binary64.neighbourhood significand exponent).onGrid? point count = some decimal) :
    decimal.digits ≠ 0 := by
  unfold Binary64.Neighbourhood.onGrid? at hit
  have divides : 0 < Number.tenTo (-(point - count)).toNat := Nat.pow_pos (by decide)
  have missed := not_contains_zero exponent positive divides
  dsimp only at hit
  split_ifs at hit with low high
  · rw [← Option.some.inj hit]
    intro (zero : _ / _ = 0)
    rw [zero, Nat.zero_mul, missed] at low
    cases low
  · rw [← Option.some.inj hit]
    exact Nat.succ_ne_zero _

/-- Digits that are all zeros are found only where the search has found nothing. -/
theorem shortest_power_eq_zero (positive : significand ≠ 0)
    (zero : (Binary64.neighbourhood significand exponent).shortest.digits = 0) :
    (Binary64.neighbourhood significand exponent).shortest.power = 0 := by
  revert zero
  unfold Binary64.Neighbourhood.shortest
  dsimp only
  cases found : (List.range 17).findSome? _ with
  | none => exact fun _ => rfl
  | some decimal =>
    obtain ⟨_, -, hit⟩ := List.exists_of_findSome?_eq_some found
    exact fun zero => absurd zero (onGrid?_digits_ne_zero exponent positive hit)

end Shortest

/-- The digits of a number, and that the point stands behind the first one where there are none. -/
theorem decimalDigits_spec (significand : Nat) (exponent : Int) :
    (∀ c ∈ (Binary64.decimalDigits significand exponent).1, c.isDigit) ∧
      ((Binary64.decimalDigits significand exponent).1 = [] →
        (Binary64.decimalDigits significand exponent).2 = 1) := by
  unfold Binary64.decimalDigits
  split_ifs with zero
  · simp
  · refine ⟨digits_trimZeros fun c => isDigit_of_mem_toDigits, fun none => ?_⟩
    dsimp only at none ⊢
    have zeros := not_imp_comm.mp trimZeros_toDigits_ne_nil (not_not.mpr none)
    rw [shortest_power_eq_zero exponent zero zeros, zeros]
    rfl

theorem isDigits_zeros_append {count : Nat} {digits : List Char} (some : digits ≠ [])
    (each : ∀ c ∈ digits, c.isDigit) : IsDigits (List.replicate count '0' ++ digits) where
  nonempty := by simp [some]
  digits := by
    intro c listed
    rcases List.mem_append.mp listed with zero | digit
    · rw [List.eq_of_mem_replicate zero]
      decide
    · exact each c digit

theorem isExponent_exponentChars (exponent : Int) :
    IsExponent (Binary64.exponentChars exponent) := by
  have behind : IsDigits (List.replicate (2 - (Nat.toDigits 10 exponent.natAbs).length) '0' ++
      Nat.toDigits 10 exponent.natAbs) :=
    isDigits_zeros_append Nat.toDigits_ne_nil fun _ => isDigit_of_mem_toDigits
  have signed : [if exponent < 0 then '-' else '+'] = [] ∨
      [if exponent < 0 then '-' else '+'] = ['+'] ∨
        [if exponent < 0 then '-' else '+'] = ['-'] := by
    split_ifs
    · exact .inr (.inr rfl)
    · exact .inr (.inl rfl)
  exact .intro (.inl rfl) signed behind

/-- Digits are laid out with a point or an exponent, wherever the point stands. -/
theorem isReal_layout {digits : List Char} {point : Int} (each : ∀ c ∈ digits, c.isDigit)
    (first : digits = [] → point = 1) : IsReal (Binary64.layout digits point) := by
  unfold Binary64.layout
  split_ifs with near small
  · have some : digits ≠ [] := fun none => by have := first none; omega
    have fraction : IsDigits (List.replicate (-point).toNat '0' ++ digits) :=
      isDigits_zeros_append some each
    have whole : ∀ c ∈ ['0'], c.isDigit := by simp
    have laid := IsReal.pointed whole fraction (.inl rfl)
    rwa [List.append_nil] at laid
  · have whole : ∀ c ∈ digits.take point.toNat ++
        List.replicate (point.toNat - (digits.take point.toNat).length) '0', c.isDigit := by
      refine List.forall_mem_append.mpr ⟨fun c listed => each c (List.mem_of_mem_take listed), ?_⟩
      intro c zero
      rw [List.eq_of_mem_replicate zero]
      decide
    have fraction : IsDigits (if (digits.drop point.toNat).isEmpty then ['0']
        else digits.drop point.toNat) := by
      split_ifs with ended
      · exact ⟨by simp, by simp⟩
      · exact ⟨by simpa using ended, fun c listed => each c (List.mem_of_mem_drop listed)⟩
    have laid := IsReal.pointed whole fraction (.inl rfl)
    rwa [List.append_nil] at laid
  · have exponent := isExponent_exponentChars (point - 1)
    cases digits with
    | nil => have := first rfl; omega
    | cons c rest =>
      rw [List.forall_mem_cons] at each
      have leading : IsDigits [c] := ⟨by simp, by simpa using each.1⟩
      cases rest with
      | nil => exact .scaled leading exponent
      | cons d rest =>
        have fraction : IsDigits (d :: rest) := ⟨by simp, each.2⟩
        have laid := IsReal.pointed leading.digits fraction (.inr exponent)
        exact laid

/-- A number that is finite is written as a literal with a fraction or an exponent. -/
theorem isRealLiteral_finite (negative : Bool) (significand : Nat) (exponent : Int) :
    IsRealLiteral (Binary64.finite negative significand exponent).text := by
  rw [IsRealLiteral, Binary64.text, String.toList_ofList]
  obtain ⟨each, first⟩ := decimalDigits_spec significand exponent
  have laid := isReal_layout each first
  cases negative with
  | false => exact .plain laid
  | true => exact .minus laid

end Target
end TypedRpc
