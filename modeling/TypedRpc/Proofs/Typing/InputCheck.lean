import Mathlib.Algebra.Order.Floor.Ring
import Mathlib.Data.Rat.Floor
import Mathlib.Tactic.Linarith
import TypedRpc.Proofs.Client.ActionTypes
import TypedRpc.Proofs.Sameness

/-!
# What annotated bounds let through

The annotations for bounds take whole numbers, so a bound with a fraction is rounded before it is
written, and the fraction is cut off on either side of zero.  For a lower bound that is negative,
and for an upper bound that is positive, no integer notices: there is none between the bound and
what is written.  A positive lower bound and a negative upper bound move outwards, and let one
integer more through.

* `Number.towardZero_le_iff`, `Number.le_towardZero_iff`: the one integer that a rounded bound lets
  through.
* `Binary64.truncate?_eq`: cutting the fraction off rounds towards zero.
* `Constraints.Admits`, `Obeys`: what the bounds ask of an integer, and what the annotations ask of
  it as they are written.
* `integer_annotations_exact_iff`: the two agree unless a bound moves outwards;
  `level_below_minimum` shows one that does.
-/

namespace TypedRpc

/-! ## Rounding towards zero -/

namespace Number

/-- The integer next to a number on the side of zero, or the number itself. -/
def towardZero (q : Rat) : Int :=
  if 0 ≤ q then ⌊q⌋ else ⌈q⌉

theorem towardZero_of_nonneg {q : Rat} (up : 0 ≤ q) : towardZero q = ⌊q⌋ :=
  if_pos up

theorem towardZero_neg (q : Rat) : towardZero (-q) = -towardZero q := by
  unfold towardZero
  rcases lt_trichotomy q 0 with below | rfl | above
  · rw [if_pos (by linarith), if_neg (by linarith), Int.floor_neg]
  · rw [neg_zero, if_pos le_rfl, Int.floor_zero, neg_zero]
  · rw [if_neg (by linarith), if_pos above.le, Int.ceil_neg]

/-- An integer stays as it is. -/
theorem towardZero_intCast (n : Int) : towardZero (n : Rat) = n := by
  unfold towardZero
  rw [Int.floor_intCast, Int.ceil_intCast, ite_self]

/-- **A lower bound that is rounded towards zero lets through what the bound does, and the rounded
number itself when the bound is positive.** -/
theorem towardZero_le_iff {q : Rat} {value : Int} :
    towardZero q ≤ value ↔ q ≤ value ∨ 0 < q ∧ value = towardZero q := by
  rcases le_or_gt q 0 with below | above
  · -- between a bound that is not positive and its rounded form there is no integer
    have rounded : towardZero q = ⌈q⌉ := by
      rcases below.eq_or_lt with rfl | negative
      · rw [towardZero_of_nonneg le_rfl, Int.floor_zero, Int.ceil_zero]
      · exact if_neg (not_le.mpr negative)
    rw [rounded, Int.ceil_le]
    refine ⟨.inl, ?_⟩
    rintro (kept | ⟨positive, -⟩)
    · exact kept
    · exact absurd positive (not_lt.mpr below)
  · rw [towardZero_of_nonneg above.le]
    constructor
    · intro reached
      rcases le_or_gt q value with kept | between
      · exact .inl kept
      · have under : value ≤ ⌊q⌋ := Int.le_floor.mpr between.le
        exact .inr ⟨above, le_antisymm under reached⟩
    · rintro (kept | ⟨-, same⟩)
      · exact_mod_cast (Int.floor_le q).trans kept
      · exact same.ge

/-- An upper bound that is rounded towards zero lets through what the bound does, and the rounded
number itself when the bound is negative. -/
theorem le_towardZero_iff {q : Rat} {value : Int} :
    value ≤ towardZero q ↔ value ≤ q ∨ q < 0 ∧ value = towardZero q := by
  have mirrored : towardZero (-q) ≤ -value ↔
      -q ≤ (-value : Int) ∨ 0 < -q ∧ -value = towardZero (-q) :=
    towardZero_le_iff
  rw [towardZero_neg, neg_le_neg_iff, Int.cast_neg, neg_le_neg_iff, neg_pos, neg_inj] at mirrored
  exact mirrored

/-- A positive number that does not exceed what it is rounded to has not been rounded. -/
theorem eq_towardZero_of_le {q : Rat} (positive : 0 < q) (kept : q ≤ towardZero q) :
    q = towardZero q := by
  refine le_antisymm kept ?_
  rw [towardZero_of_nonneg positive.le]
  exact Int.floor_le q

/-- A negative number that is not exceeded by what it is rounded to has not been rounded. -/
theorem eq_towardZero_of_ge {q : Rat} (negative : q < 0) (kept : towardZero q ≤ q) :
    q = towardZero q := by
  have mirrored := eq_towardZero_of_le (q := -q) (by linarith)
  rw [towardZero_neg, Int.cast_neg, neg_le_neg_iff, neg_inj] at mirrored
  exact mirrored kept

end Number

namespace Binary64

/-- The integer part of a magnitude is the greatest integer that it reaches. -/
theorem wholePart_eq_floor (significand : Nat) (exponent : Int) :
    (wholePart significand exponent : Int) = ⌊(significand : Rat) * (2 : Rat) ^ exponent⌋ := by
  rcases Int.le_total 0 exponent with up | down
  · obtain ⟨k, rfl⟩ := Int.eq_ofNat_of_zero_le up
    have shifted : wholePart significand (k : Int) = significand * 2 ^ k := by
      simp [wholePart, twoTo_eq]
    have cast : (significand : Rat) * (2 : Rat) ^ (k : Int) =
        ((significand * 2 ^ k : Nat) : Int) := by
      push_cast
      rw [zpow_natCast]
    rw [shifted, cast, Int.floor_intCast]
  · obtain ⟨k, same⟩ := Int.eq_ofNat_of_zero_le (Int.neg_nonneg_of_nonpos down)
    obtain rfl : exponent = -(k : Int) := by omega
    have divided : wholePart significand (-(k : Int)) = significand / 2 ^ k := by
      rcases Nat.eq_zero_or_pos k with rfl | positive
      · simp [wholePart, twoTo_eq]
      · have below : ¬(0 : Int) ≤ -(k : Int) := by omega
        have toNat : (- -(k : Int)).toNat = k := by omega
        rw [wholePart, if_neg below, toNat, twoTo_eq]
    have quotient : (significand : Rat) * (2 : Rat) ^ (-(k : Int)) =
        (significand : Rat) / ((2 ^ k : Nat) : Rat) := by
      rw [zpow_neg, zpow_natCast, ← div_eq_mul_inv]
      push_cast
      rfl
    rw [divided, quotient, Rat.floor_natCast_div_natCast, Int.natCast_ediv]

/-- **Cutting the fraction off rounds the exact value towards zero**, and there is an exact value
whenever there is something to cut. -/
theorem truncate?_eq (x : Binary64) : x.truncate? = x.toRat?.map Number.towardZero := by
  cases x with
  | infinite => rfl
  | nan => rfl
  | finite negative significand exponent =>
    have magnitude : (0 : Rat) ≤ (significand : Rat) * (2 : Rat) ^ exponent := by positivity
    have whole := Number.towardZero_of_nonneg magnitude
    rw [← wholePart_eq_floor] at whole
    cases negative with
    | false => exact congrArg some whole.symm
    | true =>
      have mirrored := Number.towardZero_neg ((significand : Rat) * (2 : Rat) ^ exponent)
      rw [whole] at mirrored
      exact congrArg some mirrored.symm

end Binary64

/-! ## Bounds -/

/-- The exact number of a bound, if it is finite. -/
def Bound.toRat? : Bound → Option Rat
  | .int n => some n
  | .float x => x.toRat?

/-- What is written for a bound is its exact number, rounded towards zero. -/
theorem Bound.truncate_eq_ok_iff {bound : Bound} {n : Int} :
    bound.truncate = .ok n ↔ bound.toRat?.map Number.towardZero = some n := by
  cases bound with
  | int m =>
    rw [Bound.toRat?, Option.map_some, Number.towardZero_intCast, Option.some_inj]
    exact Except.ok.injEq m n ▸ Iff.rfl
  | float x =>
    rw [Bound.toRat?, ← Binary64.truncate?_eq, Bound.truncate]
    cases x.truncate? <;> simp

namespace Constraints

variable {constraints : Constraints} {value : Int}

/-- The exact lower bound, if there is one. -/
def least? (constraints : Constraints) : Option Rat :=
  constraints.min.bind Bound.toRat?

/-- The exact upper bound, if there is one. -/
def most? (constraints : Constraints) : Option Rat :=
  constraints.max.bind Bound.toRat?

/-- Whether an integer lies within the exact bounds. -/
structure Admits (constraints : Constraints) (value : Int) : Prop where
  least : ∀ least ∈ constraints.least?, least ≤ value
  most : ∀ most ∈ constraints.most?, value ≤ most

/-- Whether an integer lies within the bounds after these are rounded towards zero. -/
@[mk_iff]
structure AdmitsRounded (constraints : Constraints) (value : Int) : Prop where
  least : ∀ least ∈ constraints.least?, Number.towardZero least ≤ value
  most : ∀ most ∈ constraints.most?, value ≤ Number.towardZero most

/-- Whether no bound moves outwards when it is rounded towards zero: a lower bound that is positive
is an integer, and so is an upper bound that is negative. -/
structure RoundInwards (constraints : Constraints) : Prop where
  least : ∀ least ∈ constraints.least?, 0 < least → ∃ n : Int, least = n
  most : ∀ most ∈ constraints.most?, most < 0 → ∃ n : Int, most = n

/-- Rounding refuses no integer that lies within the bounds. -/
theorem Admits.rounded (within : constraints.Admits value) : constraints.AdmitsRounded value where
  least least here := Number.towardZero_le_iff.mpr (.inl (within.least least here))
  most most here := Number.le_towardZero_iff.mpr (.inl (within.most most here))

/-- Where no bound moves outwards, an integer within the rounded bounds is within the bounds. -/
theorem AdmitsRounded.exact (within : constraints.AdmitsRounded value)
    (inwards : constraints.RoundInwards) : constraints.Admits value where
  least least here := by
    rcases Number.towardZero_le_iff.mp (within.least least here) with kept | ⟨positive, same⟩
    · exact kept
    · obtain ⟨n, rfl⟩ := inwards.least least here positive
      rw [same, Number.towardZero_intCast]
  most most here := by
    rcases Number.le_towardZero_iff.mp (within.most most here) with kept | ⟨negative, same⟩
    · exact kept
    · obtain ⟨n, rfl⟩ := inwards.most most here negative
      rw [same, Number.towardZero_intCast]

/-- **Rounding towards zero keeps the meaning of the bounds exactly when no bound moves outwards, or
no integer at all lies within the rounded bounds.** -/
theorem admitsRounded_iff_admits_iff :
    (∀ value, constraints.AdmitsRounded value ↔ constraints.Admits value) ↔
      ((∃ value, constraints.AdmitsRounded value) → constraints.RoundInwards) := by
  constructor
  · -- a rounded bound that something reaches is itself within the rounded bounds
    rintro exact ⟨value, within⟩
    constructor
    · intro least here positive
      have reached : constraints.AdmitsRounded (Number.towardZero least) := by
        refine ⟨fun other there => ?_, fun most above => ?_⟩
        · rw [Option.mem_unique here there]
        · exact (within.least least here).trans (within.most most above)
      have kept := ((exact _).mp reached).least least here
      exact ⟨_, Number.eq_towardZero_of_le positive kept⟩
    · intro most here negative
      have reached : constraints.AdmitsRounded (Number.towardZero most) := by
        refine ⟨fun least below => ?_, fun other there => ?_⟩
        · exact (within.least least below).trans (within.most most here)
        · rw [Option.mem_unique here there]
      have kept := ((exact _).mp reached).most most here
      exact ⟨_, Number.eq_towardZero_of_ge negative kept⟩
  · intro inwards value
    exact ⟨fun within => within.exact (inwards ⟨value, within⟩), fun within => within.rounded⟩

end Constraints

/-! ## Annotations as they are written -/

/-- Whether an integer obeys the annotations for bounds among some annotations, as they are
written. -/
structure Obeys (annotations : List String) (value : Int) : Prop where
  min : ∀ least : Int, "@field:Min(" ++ toString least ++ ")" ∈ annotations → least ≤ value
  max : ∀ most : Int, "@field:Max(" ++ toString most ++ ")" ∈ annotations → value ≤ most

namespace InputCheck

/-- The letters that an annotation begins with, as many as tell bounds from everything else. -/
def beginning : InputCheck → String
  | .notBlank | .notNull => "@field:No"
  | .size _ _ => "@field:Si"
  | .min _ => "@field:Mi"
  | .max _ => "@field:Ma"
  | .pattern _ => "@field:Pa"

/-- An annotation begins as what it opens with, if that is long enough. -/
theorem take_text_of_opening {check : InputCheck} {opening content : String} (beginning : String)
    (written : check.text = opening ++ content ++ ")") (begun : check.beginning = beginning)
    (long : 9 ≤ opening.toList.length) (same : opening.toList.take 9 = beginning.toList) :
    check.text.toList.take 9 = check.beginning.toList := by
  rw [written, begun, String.toList_append, String.toList_append, List.append_assoc,
    List.take_append_of_le_length long, same]

theorem take_text (check : InputCheck) :
    check.text.toList.take 9 = check.beginning.toList := by
  cases check with
  | notBlank | notNull => decide
  | size least most => exact take_text_of_opening "@field:Si" rfl rfl (by decide) (by decide)
  | min bound => exact take_text_of_opening "@field:Mi" rfl rfl (by decide) (by decide)
  | max bound => exact take_text_of_opening "@field:Ma" rfl rfl (by decide) (by decide)
  | pattern regex => exact take_text_of_opening "@field:Pa" rfl rfl (by decide) (by decide)

/-- Annotations that are written alike begin alike. -/
theorem beginning_eq {check other : InputCheck} (same : check.text = other.text) :
    check.beginning = other.beginning := by
  have begun := congrArg (fun text : String => text.toList.take 9) same
  simp only [take_text] at begun
  exact String.toList_inj.mp begun

/-- A number can be read off between fixed texts. -/
theorem number_inj {opening closing : String} {m n : Int}
    (same : opening ++ toString m ++ closing = opening ++ toString n ++ closing) : m = n := by
  have digits : toString m = toString n :=
    (String.append_right_inj opening).mp ((String.append_left_inj closing).mp same)
  rw [Int.toString_eq_repr, Int.toString_eq_repr, Int.repr_inj] at digits
  exact digits

/-- Where the letters at the beginning tell a kind of annotation with a number, it is written like
no other one, and its number can be read off. -/
theorem text_eq_numbered_iff {numbered : Int → InputCheck} {opening : String}
    (written : ∀ n, (numbered n).text = opening ++ toString n ++ ")")
    (told : ∀ check n, check.beginning = (numbered n).beginning → ∃ m, check = numbered m)
    {check : InputCheck} {n : Int} :
    check.text = opening ++ toString n ++ ")" ↔ check = numbered n := by
  constructor
  · intro same
    obtain ⟨m, rfl⟩ := told check n (beginning_eq (same.trans (written n).symm))
    rw [written] at same
    rw [number_inj same]
  · rintro rfl
    exact written n

/-- Of all annotations only a lower bound is written like one. -/
theorem text_eq_min_iff {check : InputCheck} {least : Int} :
    check.text = "@field:Min(" ++ toString least ++ ")" ↔ check = .min least := by
  refine text_eq_numbered_iff (fun _ => rfl) ?_
  intro check n begun
  cases check with
  | min bound => exact ⟨bound, rfl⟩
  | notBlank | notNull | size | max | pattern => simp [beginning] at begun

/-- Of all annotations only an upper bound is written like one. -/
theorem text_eq_max_iff {check : InputCheck} {most : Int} :
    check.text = "@field:Max(" ++ toString most ++ ")" ↔ check = .max most := by
  refine text_eq_numbered_iff (fun _ => rfl) ?_
  intro check n begun
  cases check with
  | max bound => exact ⟨bound, rfl⟩
  | notBlank | notNull | size | min | pattern => simp [beginning] at begun

end InputCheck

/-- Written annotations ask of an integer what the annotations for bounds ask. -/
theorem obeys_text_iff {checks : List InputCheck} {value : Int} :
    Obeys (checks.map InputCheck.text) value ↔
      (∀ least, .min least ∈ checks → least ≤ value) ∧
        ∀ most, .max most ∈ checks → value ≤ most := by
  have least_iff (least : Int) : "@field:Min(" ++ toString least ++ ")" ∈
      checks.map InputCheck.text ↔ .min least ∈ checks := by
    simp only [List.mem_map, InputCheck.text_eq_min_iff, exists_eq_right]
  have most_iff (most : Int) : "@field:Max(" ++ toString most ++ ")" ∈
      checks.map InputCheck.text ↔ .max most ∈ checks := by
    simp only [List.mem_map, InputCheck.text_eq_max_iff, exists_eq_right]
  constructor
  · rintro ⟨min, max⟩
    exact ⟨fun least listed => min least ((least_iff least).mpr listed),
      fun most listed => max most ((most_iff most).mpr listed)⟩
  · rintro ⟨min, max⟩
    exact ⟨fun least listed => min least ((least_iff least).mp listed),
      fun most listed => max most ((most_iff most).mp listed)⟩

/-! ## Fields of integers -/

/-- The annotation for an optional bound that is finite. -/
theorem toList_map_truncate {bound : Option Bound} (finite : bound.all Bound.isFinite = true)
    (form : Int → InputCheck) :
    (bound.map fun bound => bound.truncate.map form).toList =
      (((bound.bind Bound.toRat?).map Number.towardZero).map form).toList.map .ok := by
  cases bound with
  | none => rfl
  | some bound =>
    obtain ⟨n, cut⟩ := bound.truncate_isOk_iff.mpr finite
    rw [Option.map_some, cut, Option.bind_some, Bound.truncate_eq_ok_iff.mp cut]
    rfl

section Integers

variable {field : FieldSpec} {constraints : Constraints}

/-- The annotations of a field of integers: its rounded bounds, and whether it must be there. -/
theorem annotations_integer (typed : field.type = .primitive .integer constraints)
    (finite : field.type.hasFiniteBounds = true) :
    field.annotations = .ok (presenceCheck field ++
      ((constraints.least?.map Number.towardZero).map InputCheck.min).toList ++
      ((constraints.most?.map Number.towardZero).map InputCheck.max).toList) := by
  have both : constraints.min.all Bound.isFinite = true ∧
      constraints.max.all Bound.isFinite = true := by
    rw [typed] at finite
    simpa [TypeRef.hasFiniteBounds, TypeRef.isNumeric, TypeRef.constraints?] using finite
  have bounds : boundChecks (.primitive .integer constraints) constraints =
      (((constraints.least?.map Number.towardZero).map InputCheck.min).toList ++
        ((constraints.most?.map Number.towardZero).map InputCheck.max).toList).map .ok := by
    have numeric : (TypeRef.primitive .integer constraints).isNumeric = true := rfl
    rw [boundChecks, if_pos numeric, toList_map_truncate both.1, toList_map_truncate both.2,
      ← List.map_append]
    rfl
  have unsized : sizeCheck (.primitive .integer constraints) constraints = [] := rfl
  have unmatched : patternCheck (.primitive .integer constraints) constraints = [] := rfl
  have listed : field.checks = (presenceCheck field ++
      ((constraints.least?.map Number.towardZero).map InputCheck.min).toList ++
      ((constraints.most?.map Number.towardZero).map InputCheck.max).toList).map .ok := by
    rw [Field.checks, typed]
    simp only [TypeRef.constraints?, bounds, unsized, unmatched, List.append_nil, List.map_nil,
      ← List.map_append, List.append_assoc]
  rw [Field.annotations, listed, mapM_eq_ok_iff, List.forall₂_map_left_iff, List.forall₂_same]
  exact fun _ _ => rfl

/-- The annotation for a value that must be there is none for a bound. -/
theorem not_mem_presenceCheck (field : FieldSpec) (n : Int) :
    .min n ∉ presenceCheck field ∧ .max n ∉ presenceCheck field := by
  unfold presenceCheck
  split_ifs <;> simp

/-- The annotations of a field of integers ask that its value lies within the rounded bounds. -/
theorem exists_annotations_integer (typed : field.type = .primitive .integer constraints)
    (finite : field.type.hasFiniteBounds = true) :
    ∃ checks, field.annotations = .ok checks ∧
      ∀ value, Obeys (checks.map InputCheck.text) value ↔ constraints.AdmitsRounded value := by
  refine ⟨_, annotations_integer typed finite, fun value => ?_⟩
  rw [obeys_text_iff, Constraints.admitsRounded_iff]
  simp only [List.mem_append, not_mem_presenceCheck, false_or, Option.mem_toList]
  cases constraints.least? <;> cases constraints.most? <;> simp

/-- **The annotations of a field of integers ask what its bounds ask**, as exact numbers, exactly
when no bound moves outwards as its fraction is cut off, or no integer at all obeys the annotations.
They are there for all finite bounds, and they never refuse an integer that lies within. -/
theorem integer_annotations_exact_iff (typed : field.type = .primitive .integer constraints)
    (finite : field.type.hasFiniteBounds = true) :
    ∃ checks, field.annotations = .ok checks ∧
      (∀ value, constraints.Admits value → Obeys (checks.map InputCheck.text) value) ∧
      ((∀ value, Obeys (checks.map InputCheck.text) value ↔ constraints.Admits value) ↔
        ((∃ value, Obeys (checks.map InputCheck.text) value) → constraints.RoundInwards)) := by
  obtain ⟨checks, made, asked⟩ := exists_annotations_integer typed finite
  refine ⟨checks, made, fun value within => (asked value).mpr within.rounded, ?_⟩
  simp only [asked]
  exact Constraints.admitsRounded_iff_admits_iff

end Integers

/-- Between -2.5 and 7.5. -/
def ratingBounds : Constraints where
  min := some (.float (.finite true 5629499534213120 (-51)))
  max := some (.float (.finite false 8444249301319680 (-50)))

/-- A rating that must be given. -/
def ratingField : FieldSpec where
  name := "rating"
  type := .primitive .integer ratingBounds
  nullable := false

/-- The annotations of a rating ask for -2 to 7, which are the integers between its bounds. -/
theorem rating_annotations_exact :
    ratingField.type = .primitive .integer ratingBounds ∧
      ratingField.type.hasFiniteBounds = true ∧
      ratingField.annotations = .ok [.notNull, .min (-2), .max 7] ∧
      ∀ value, Obeys ["@field:NotNull", "@field:Min(-2)", "@field:Max(7)"] value ↔
        ratingBounds.Admits value := by
  have evaluated : ratingField.annotations = .ok [.notNull, .min (-2), .max 7] := by rfl
  have typed : ratingField.type = .primitive .integer ratingBounds := rfl
  have finite : ratingField.type.hasFiniteBounds = true := by rfl
  obtain ⟨checks, made, -, exact⟩ := integer_annotations_exact_iff typed finite
  rw [evaluated] at made
  obtain rfl := Except.ok.inj made
  have least : ratingBounds.least? = some (-(5 / 2)) := by
    simp [Constraints.least?, ratingBounds, Bound.toRat?, Binary64.toRat?]
    norm_num
  have most : ratingBounds.most? = some (15 / 2) := by
    simp [Constraints.most?, ratingBounds, Bound.toRat?, Binary64.toRat?]
    norm_num
  have inwards : ratingBounds.RoundInwards := by
    constructor
    · intro q here positive
      rw [least, Option.mem_some] at here
      linarith
    · intro q here negative
      rw [most, Option.mem_some] at here
      linarith
  exact ⟨typed, finite, evaluated, exact.mpr fun _ => inwards⟩

/-- At least 2.5. -/
def levelBounds : Constraints where
  min := some (.float (.finite false 5629499534213120 (-51)))

/-- A level. -/
def levelField : FieldSpec where
  name := "level"
  type := .primitive .integer levelBounds

/-- **A positive lower bound lets one integer too many through**: 2 obeys the annotation of a level
that is at least 2.5. -/
theorem level_below_minimum :
    Number.readSigned? "2.5".toList = some (.finite false 5629499534213120 (-51)) ∧
      levelField.annotations = .ok [.min 2] ∧
      Obeys ["@field:Min(2)"] 2 ∧ ¬levelBounds.Admits 2 ∧
      ¬∀ (field : FieldSpec) (constraints : Constraints),
        field.type = .primitive .integer constraints → field.type.hasFiniteBounds = true →
          ∃ checks, field.annotations = .ok checks ∧
            ∀ value, Obeys (checks.map InputCheck.text) value ↔ constraints.Admits value := by
  have spelled : Number.readSigned? "2.5".toList =
      some (.finite false 5629499534213120 (-51)) := by
    decide +kernel
  have evaluated : levelField.annotations = .ok [.min 2] := by rfl
  have least : levelBounds.least? = some (5 / 2) := by
    simp [Constraints.least?, levelBounds, Bound.toRat?, Binary64.toRat?]
    norm_num
  have obeyed : Obeys ([InputCheck.min 2].map InputCheck.text) 2 := by
    rw [obeys_text_iff]
    simp
  have outside : ¬levelBounds.Admits 2 := by
    intro within
    have reached := within.least (5 / 2) (by rw [least, Option.mem_some])
    norm_num at reached
  refine ⟨spelled, evaluated, obeyed, outside, ?_⟩
  intro claimed
  obtain ⟨checks, made, exact⟩ := claimed levelField levelBounds rfl rfl
  rw [evaluated] at made
  obtain rfl := Except.ok.inj made
  exact outside ((exact 2).mp obeyed)

end TypedRpc
