import Mathlib.Algebra.Order.Field.Rat
import Mathlib.Data.List.Forall2
import Mathlib.Tactic.FieldSimp
import Mathlib.Tactic.Positivity
import TypedRpc.Discovery.Basic
import TypedRpc.Proofs.Grouping

/-!
# Values and types that say the same

Values are compared by what they say: numbers across their kinds, maps and sets without regard to
order, nested unions and renames likewise.  The comparisons walk through two descriptors at once and
look entries up on one side only, so it is not plain that they relate everything to everything that
it should.

* `Binary64.toInt?_eq_some_iff`: a binary number is an integer exactly when its exact value is one.
* `Value.sameScalar_iff`: scalars are the same exactly when they have one key.
* `Value.same_of_common`, `TypeRef.same_of_common`: what is the same as a third is the same.
* `UnionDef.sameShape_of_common`: likewise for the members of unions.

No assumption on the tables is needed, such as that their keys differ.
-/

namespace TypedRpc

/-! ## Numbers -/

namespace Binary64

theorem twoTo_eq (n : Nat) : Number.twoTo n = 2 ^ n := rfl

theorem eq_mul_iff_div {a d : Nat} {n : Int} (positive : 0 < d) :
    (a : Int) = n * d ↔ a % d = 0 ∧ ((a / d : Nat) : Int) = n := by
  constructor
  · intro h
    have divides : (d : Int) ∣ a := ⟨n, by rw [h, mul_comm]⟩
    refine ⟨Nat.mod_eq_zero_of_dvd (Int.natCast_dvd_natCast.mp divides), ?_⟩
    rw [Int.natCast_ediv, h, Int.mul_ediv_cancel n (by omega)]
  · rintro ⟨divides, rfl⟩
    exact_mod_cast (Nat.div_mul_cancel (Nat.dvd_of_mod_eq_zero divides)).symm

/-- The magnitude of a finite number is an integer exactly when it has no fraction, and then it is
the integer part. -/
theorem magnitude_eq_iff (significand : Nat) (exponent n : Int) :
    (significand : Rat) * (2 : Rat) ^ exponent = n ↔
      isWhole significand exponent ∧ (wholePart significand exponent : Int) = n := by
  rcases Int.le_total 0 exponent with up | down
  · obtain ⟨k, rfl⟩ := Int.eq_ofNat_of_zero_le up
    have whole : wholePart significand (k : Int) = significand * 2 ^ k := by
      simp [wholePart, twoTo_eq]
    rw [whole, zpow_natCast]
    simp only [isWhole, up, decide_true, Bool.true_or, true_and]
    norm_cast
  · obtain ⟨k, same⟩ := Int.eq_ofNat_of_zero_le (Int.neg_nonneg_of_nonpos down)
    obtain rfl : exponent = -(k : Int) := by omega
    have toNat : (- -(k : Int)).toNat = k := by omega
    have moved : (significand : Rat) * (2 : Rat) ^ (-(k : Int)) = n ↔
        (significand : Int) = n * 2 ^ k := by
      rw [zpow_neg, zpow_natCast, ← div_eq_mul_inv, div_eq_iff (by positivity)]
      norm_cast
    rw [moved]
    rcases Nat.eq_zero_or_pos k with rfl | positive
    · simp [isWhole, wholePart, twoTo_eq]
    · have below : ¬ (0 : Int) ≤ -(k : Int) := by omega
      simp only [isWhole, wholePart, below, decide_false, Bool.false_or, if_false, toNat, twoTo_eq,
        beq_iff_eq]
      exact_mod_cast eq_mul_iff_div (pow_pos (by norm_num) k)

/-- A binary number is an integer exactly when its exact value is one. -/
theorem toInt?_eq_some_iff {x : Binary64} {n : Int} :
    x.toInt? = some n ↔ x.toRat? = some (n : Rat) := by
  cases x with
  | infinite => simp [toInt?, toRat?]
  | nan => simp [toInt?, toRat?]
  | finite negative significand exponent =>
    cases negative with
    | false =>
      simp only [toInt?, toRat?, Bool.false_eq_true, if_false, Option.some.injEq,
        magnitude_eq_iff]
      split <;> simp [*]
    | true =>
      have flipped : -((significand : Rat) * (2 : Rat) ^ exponent) = n ↔
          (significand : Rat) * (2 : Rat) ^ exponent = ((-n : Int) : Rat) := by
        rw [Int.cast_neg, neg_eq_iff_eq_neg]
      simp only [toInt?, toRat?, if_true, Option.some.injEq, flipped, magnitude_eq_iff]
      split
      · simp only [*, true_and, Option.some.injEq]
        omega
      · simp [*]

/-- Numbers are the same exactly when they have one exact value, or neither has any and they are
equal. -/
theorem same_iff {x y : Binary64} :
    x.same y ↔ x.toRat? = y.toRat? ∧ (x.toRat? = none → x = y) := by
  unfold same
  cases x.toRat? <;> cases y.toRat? <;> simp

end Binary64

/-! ## Scalars -/

/-- What decides whether two scalars are the same. -/
inductive ScalarKey where
  | null
  /-- An exact number, or a binary number that has no exact value. -/
  | number (value : Rat ⊕ Binary64)
  | text (value : String)
  | bytes (value : List UInt8)
  | date (value : Date)
  /-- A point in time: its microseconds, of universal time when the zone is known. -/
  | moment (zoned : Bool) (microseconds : Int)

namespace Value

/-- The number that a binary number stands for. -/
def floatNumber (x : Binary64) : Rat ⊕ Binary64 :=
  match x.toRat? with
  | some value => .inl value
  | none => .inr x

/-- The key of a scalar.  Collections have none. -/
def scalarKey? : Value → Option ScalarKey
  | .null => some .null
  | .bool b => some (.number (.inl (if b then 1 else 0)))
  | .int n => some (.number (.inl n))
  | .float x => some (.number (floatNumber x))
  | .text s => some (.text s)
  | .bytes bs => some (.bytes bs)
  | .date d => some (.date d)
  | .moment t => some (.moment t.offset.isSome (t.localMicroseconds - t.offset.getD 0 * 1000000))
  | .list _ | .tuple _ | .map _ | .set _ | .part _ _ => none

theorem moment_same_iff {s t : Moment} :
    s.same t ↔ (Value.moment s).scalarKey? = (Value.moment t).scalarKey? := by
  unfold Moment.same
  cases here : s.offset <;> cases there : t.offset <;> simp [scalarKey?, here, there]

theorem float_same_iff {x y : Binary64} : x.same y ↔ floatNumber x = floatNumber y := by
  rw [Binary64.same_iff]
  unfold floatNumber
  cases x.toRat? <;> cases y.toRat? <;> simp

/-- The integer of a scalar is its number. -/
theorem toInt?_eq_some_iff {a : Value} {n : Int} :
    a.toInt? = some n ↔ a.scalarKey? = some (.number (.inl n)) := by
  cases a with
  | float x =>
    simp only [toInt?, scalarKey?, floatNumber, Binary64.toInt?_eq_some_iff]
    cases x.toRat? <;> simp
  | bool b => cases b <;> simp [toInt?, scalarKey?, eq_comm]
  | _ => simp [toInt?, scalarKey?]

/-- Where one of two scalars is an integer, the integers are compared. -/
theorem sameScalar_iff_of_integer {a b : Value}
    (compared : a.sameScalar b = (a.toInt?.isSome && a.toInt? == b.toInt?))
    (whole : a.toInt?.isSome ∨ b.toInt?.isSome) :
    a.sameScalar b ↔ a.scalarKey? = b.scalarKey? ∧ a.scalarKey?.isSome := by
  rw [compared, Bool.and_eq_true, beq_iff_eq]
  rcases whole with whole | whole <;> obtain ⟨n, found⟩ := Option.isSome_iff_exists.mp whole
  · have key := toInt?_eq_some_iff.mp found
    rw [key, found, eq_comm (a := some n), toInt?_eq_some_iff]
    simp [eq_comm]
  · have key := toInt?_eq_some_iff.mp found
    rw [key, found, toInt?_eq_some_iff]
    constructor
    · rintro ⟨-, same⟩
      simp [same]
    · rintro ⟨same, -⟩
      simp [same, toInt?_eq_some_iff.mpr same]

/-- **Scalars are the same exactly when they have one key.** -/
theorem sameScalar_iff {a b : Value} :
    a.sameScalar b ↔ a.scalarKey? = b.scalarKey? ∧ a.scalarKey?.isSome := by
  cases a <;> cases b
  case float.float x y => simp [sameScalar, scalarKey?, float_same_iff]
  case moment.moment s t =>
    rw [sameScalar, moment_same_iff]
    simp [scalarKey?]
  case bool.bool | bool.int | bool.float | int.bool | int.int | int.float =>
    exact sameScalar_iff_of_integer rfl (.inl rfl)
  case float.bool | float.int => exact sameScalar_iff_of_integer rfl (.inr rfl)
  all_goals simp [sameScalar, scalarKey?, toInt?, Option.isSome_iff_ne_none]

/-- Scalars that are the same are the same as the same scalars. -/
theorem sameScalar_congr {a b : Value} (h : a.sameScalar b) (other : Value) :
    a.sameScalar other = b.sameScalar other := by
  have same := (sameScalar_iff.mp h).1
  rw [Bool.eq_iff_iff, sameScalar_iff, sameScalar_iff, same]

theorem sameScalar_symm {a b : Value} (h : a.sameScalar b) : b.sameScalar a := by
  rw [sameScalar_iff] at h ⊢
  rw [← h.1]
  exact ⟨rfl, h.2⟩

/-- Two scalars that are the same as a third are the same. -/
theorem sameScalar_of_common {a b c : Value} (left : a.sameScalar c) (right : b.sameScalar c) :
    a.sameScalar b := by
  rw [sameScalar_congr left]
  exact sameScalar_symm right

/-! ## Values -/

theorem sameEntries_iff {xs ys : List (Value × Value)} :
    sameEntries xs ys ↔ ∀ x ∈ xs, ∃ y, (ys.find? fun entry => sameScalar x.1 entry.1) = some y ∧
      same x.2 y.2 := by
  induction xs with
  | nil => simp [sameEntries]
  | cons x rest ih =>
    rw [sameEntries, Bool.and_eq_true, ih, List.forall_mem_cons]
    refine and_congr_left fun _ => ?_
    cases ys.find? fun entry => sameScalar x.1 entry.1 <;> simp

theorem same_map_iff {xs ys : List (Value × Value)} :
    same (.map xs) (.map ys) ↔
      (∀ x ∈ xs, ∃ y, (ys.find? fun entry => sameScalar x.1 entry.1) = some y ∧ same x.2 y.2) ∧
        ∀ y ∈ ys, ∃ x ∈ xs, sameScalar y.1 x.1 := by
  simp only [same, Bool.and_eq_true, sameEntries_iff, List.all_eq_true, List.any_eq_true]

theorem same_set_iff {xs ys : List Value} :
    same (.set xs) (.set ys) ↔
      (∀ x ∈ xs, ∃ y ∈ ys, sameScalar x y) ∧ ∀ y ∈ ys, ∃ x ∈ xs, sameScalar y x := by
  simp only [same, Bool.and_eq_true, List.all_eq_true, List.any_eq_true]

/-- A value that is the same as a scalar is a scalar, and they are compared as such. -/
theorem same_iff_of_scalar {a b : Value} (scalar : a.scalarKey?.isSome ∨ b.scalarKey?.isSome) :
    a.same b ↔ a.sameScalar b := by
  rcases scalar with scalar | scalar
  · cases a <;> first | rfl | simp [scalarKey?] at scalar
  · cases b <;> first | (simp [scalarKey?] at scalar; done) | (cases a <;> rfl)

/-- The entry that a key finds is the one that any key finds that is the same. -/
theorem find?_sameScalar_congr {k l : Value} (h : k.sameScalar l)
    (entries : List (Value × Value)) :
    (entries.find? fun entry => sameScalar k entry.1) =
      entries.find? fun entry => sameScalar l entry.1 := by
  congr
  funext entry
  exact sameScalar_congr h entry.1

/-- Maps that are the same as a third have entries of the same keys, and the entries under one key
are the same as one entry of the third. -/
theorem entry_of_common {xs ys zs : List (Value × Value)} (left : same (.map xs) (.map zs))
    (right : same (.map ys) (.map zs)) {x : Value × Value} (listed : x ∈ xs) :
    ∃ y value, (ys.find? fun entry => sameScalar x.1 entry.1) = some y ∧ same x.2 value ∧
      same y.2 value := by
  rw [same_map_iff] at left right
  obtain ⟨z, found, same_xz⟩ := left.1 x listed
  have key_xz : x.1.sameScalar z.1 := by simpa using List.find?_some found
  obtain ⟨y', listed_y', key_zy'⟩ := right.2 z (List.mem_of_find?_eq_some found)
  have key_xy' : x.1.sameScalar y'.1 := by rwa [sameScalar_congr key_xz]
  cases found_y : ys.find? fun entry => sameScalar x.1 entry.1 with
  | none => exact absurd key_xy' (by simpa using List.find?_eq_none.mp found_y y' listed_y')
  | some y =>
    have key_xy : x.1.sameScalar y.1 := by simpa using List.find?_some found_y
    obtain ⟨z', found', same_yz'⟩ := right.1 y (List.mem_of_find?_eq_some found_y)
    rw [← find?_sameScalar_congr key_xy, found] at found'
    obtain rfl := Option.some.inj found'
    exact ⟨y, z.2, rfl, same_xz, same_yz'⟩

/-- Every key of a map stands in any map that is the same as a third with it. -/
theorem key_of_common {xs ys zs : List (Value × Value)} (left : same (.map xs) (.map zs))
    (right : same (.map ys) (.map zs)) {y : Value × Value} (listed : y ∈ ys) :
    ∃ x ∈ xs, sameScalar y.1 x.1 := by
  rw [same_map_iff] at left right
  obtain ⟨z, found, -⟩ := right.1 y listed
  obtain ⟨x, listed_x, key_zx⟩ := left.2 z (List.mem_of_find?_eq_some found)
  have key_yz : y.1.sameScalar z.1 := by simpa using List.find?_some found
  exact ⟨x, listed_x, by rwa [sameScalar_congr key_yz]⟩

theorem sameSet_of_common {xs ys zs : List Value} (left : same (.set xs) (.set zs))
    (right : same (.set ys) (.set zs)) : same (.set xs) (.set ys) := by
  rw [same_set_iff] at left right ⊢
  constructor
  · intro x listed
    obtain ⟨z, listed_z, key_xz⟩ := left.1 x listed
    obtain ⟨y, listed_y, key_zy⟩ := right.2 z listed_z
    exact ⟨y, listed_y, by rwa [sameScalar_congr key_xz]⟩
  · intro y listed
    obtain ⟨z, listed_z, key_yz⟩ := right.1 y listed
    obtain ⟨x, listed_x, key_zx⟩ := left.2 z listed_z
    exact ⟨x, listed_x, by rwa [sameScalar_congr key_yz]⟩

/-- The layout of a value: what sort of collection it is, if it is one. -/
inductive Layout where
  | scalar
  | list
  | tuple
  | map
  | set
  | part

/-- The layout of a value. -/
def layout : Value → Layout
  | .list _ => .list
  | .tuple _ => .tuple
  | .map _ => .map
  | .set _ => .set
  | .part _ _ => .part
  | _ => .scalar

theorem layout_eq_of_same {a b : Value} (h : a.same b) : a.layout = b.layout := by
  cases a <;> cases b <;> first
    | rfl
    | simp [same, sameScalar, toInt?, Option.isSome_iff_ne_none] at h

theorem list_of_layout {a : Value} (h : a.layout = .list) : ∃ items, a = .list items := by
  cases a <;> simp_all [layout]

theorem tuple_of_layout {a : Value} (h : a.layout = .tuple) : ∃ items, a = .tuple items := by
  cases a <;> simp_all [layout]

theorem map_of_layout {a : Value} (h : a.layout = .map) : ∃ entries, a = .map entries := by
  cases a <;> simp_all [layout]

theorem set_of_layout {a : Value} (h : a.layout = .set) : ∃ items, a = .set items := by
  cases a <;> simp_all [layout]

theorem same_of_common_of_scalar {a b c : Value} (scalar : a.scalarKey?.isSome)
    (left : a.same c) (right : b.same c) : a.same b := by
  rw [same_iff_of_scalar (.inl scalar)] at left ⊢
  have scalar_c : c.scalarKey?.isSome := (sameScalar_iff.mp left).1 ▸ scalar
  rw [same_iff_of_scalar (.inr scalar_c)] at right
  exact sameScalar_of_common left right

theorem sizeOf_lt_of_mem_entries {x : Value × Value} {xs : List (Value × Value)}
    (listed : x ∈ xs) : sizeOf x.2 < sizeOf xs := by
  have := List.sizeOf_lt_of_mem listed
  have : sizeOf x = 1 + sizeOf x.1 + sizeOf x.2 := rfl
  omega

mutual

/-- **What is the same as a third value is the same.** -/
theorem same_of_common : ∀ a b c : Value, a.same c → b.same c → a.same b
  | .null, _, _, left, right | .bool _, _, _, left, right | .int _, _, _, left, right
  | .float _, _, _, left, right | .text _, _, _, left, right | .bytes _, _, _, left, right
  | .date _, _, _, left, right | .moment _, _, _, left, right =>
    same_of_common_of_scalar rfl left right
  | .part _ _, _, _, left, _ => by simp [same, sameScalar, toInt?] at left
  | .list xs, b, c, left, right => by
    have layout_c := layout_eq_of_same left
    obtain ⟨zs, rfl⟩ := list_of_layout layout_c.symm
    obtain ⟨ys, rfl⟩ := list_of_layout (layout_eq_of_same right)
    exact sameItems_of_common xs ys zs left right
  | .tuple xs, b, c, left, right => by
    have layout_c := layout_eq_of_same left
    obtain ⟨zs, rfl⟩ := tuple_of_layout layout_c.symm
    obtain ⟨ys, rfl⟩ := tuple_of_layout (layout_eq_of_same right)
    exact sameItems_of_common xs ys zs left right
  | .set xs, b, c, left, right => by
    have layout_c := layout_eq_of_same left
    obtain ⟨zs, rfl⟩ := set_of_layout layout_c.symm
    obtain ⟨ys, rfl⟩ := set_of_layout (layout_eq_of_same right)
    exact sameSet_of_common left right
  | .map xs, b, c, left, right => by
    have layout_c := layout_eq_of_same left
    obtain ⟨zs, rfl⟩ := map_of_layout layout_c.symm
    obtain ⟨ys, rfl⟩ := map_of_layout (layout_eq_of_same right)
    rw [same_map_iff]
    refine ⟨fun x listed => ?_, fun y listed => key_of_common left right listed⟩
    obtain ⟨y, value, found, same_x, same_y⟩ := entry_of_common left right listed
    have smaller := sizeOf_lt_of_mem_entries listed
    exact ⟨y, found, same_of_common x.2 y.2 value same_x same_y⟩
termination_by a => sizeOf a

theorem sameItems_of_common : ∀ xs ys zs : List Value, sameItems xs zs → sameItems ys zs →
    sameItems xs ys
  | [], [], [], _, _ => rfl
  | [], y :: ys, [], _, right => by simp [sameItems] at right
  | [], _, z :: zs, left, _ => by simp [sameItems] at left
  | x :: xs, _, [], left, _ => by simp [sameItems] at left
  | x :: xs, [], z :: zs, _, right => by simp [sameItems] at right
  | x :: xs, y :: ys, z :: zs, left, right => by
    simp only [sameItems, Bool.and_eq_true] at left right ⊢
    exact ⟨same_of_common x y z left.1 right.1, sameItems_of_common xs ys zs left.2 right.2⟩
termination_by xs => sizeOf xs

end

end Value

/-! ## Types -/

theorem sameOption_of_common {α : Type} {same : α → α → Bool}
    (common : ∀ a b c, same a c → same b c → same a b) {a b c : Option α}
    (left : sameOption same a c) (right : sameOption same b c) : sameOption same a b := by
  cases a <;> cases b <;> cases c <;> simp_all [sameOption]
  exact common _ _ _ left right

theorem Constraints.same_of_common {a b c : Constraints} (left : a.same c) (right : b.same c) :
    a.same b := by
  have bounds (x y z : Bound) : x.same z → y.same z → x.same y := Value.sameScalar_of_common
  simp only [Constraints.same, Bool.and_eq_true, beq_iff_eq] at left right ⊢
  obtain ⟨⟨⟨⟨min_l, max_l⟩, minLength_l⟩, maxLength_l⟩, pattern_l⟩ := left
  obtain ⟨⟨⟨⟨min_r, max_r⟩, minLength_r⟩, maxLength_r⟩, pattern_r⟩ := right
  exact ⟨⟨⟨⟨sameOption_of_common bounds min_l min_r, sameOption_of_common bounds max_l max_r⟩,
    minLength_l.trans minLength_r.symm⟩, maxLength_l.trans maxLength_r.symm⟩,
    pattern_l.trans pattern_r.symm⟩

section Tables

variable {α : Type} {R : α → α → Prop} {xs ys zs : List (String × α)}

/-- Entries that have counterparts in a third table have counterparts in any table that it stands
for. -/
theorem lookup_of_common (left : ∀ x ∈ xs, ∃ z, zs.lookup x.1 = some z ∧ R x.2 z)
    (right : ∀ y ∈ ys, ∃ z, zs.lookup y.1 = some z ∧ R y.2 z)
    (covered : ∀ z ∈ zs, (ys.lookup z.1).isSome) {x : String × α} (listed : x ∈ xs) :
    ∃ y z, ys.lookup x.1 = some y ∧ R x.2 z ∧ R y z := by
  obtain ⟨z, found, same_x⟩ := left x listed
  obtain ⟨y, found_y⟩ := Option.isSome_iff_exists.mp (covered _ (mem_of_lookup_eq_some found))
  obtain ⟨z', found', same_y⟩ := right _ (mem_of_lookup_eq_some found_y)
  rw [found] at found'
  obtain rfl := Option.some.inj found'
  exact ⟨y, z, found_y, same_x, same_y⟩

/-- The keys of a table stand in any table that covers what it has counterparts in. -/
theorem covered_of_common (right : ∀ y ∈ ys, ∃ z, zs.lookup y.1 = some z ∧ R y.2 z)
    (covered : ∀ z ∈ zs, (xs.lookup z.1).isSome) (y : String × α) (listed : y ∈ ys) :
    (xs.lookup y.1).isSome := by
  obtain ⟨z, found, -⟩ := right y listed
  exact covered (y.1, z) (mem_of_lookup_eq_some found)

end Tables

theorem sameTable_iff {xs ys : Renames} :
    sameTable xs ys ↔ (∀ x ∈ xs, ∃ y, ys.lookup x.1 = some y ∧ x.2 = y) ∧
      ∀ y ∈ ys, (xs.lookup y.1).isSome := by
  simp [sameTable]

theorem sameTable_of_common {xs ys zs : Renames} (left : sameTable xs zs)
    (right : sameTable ys zs) : sameTable xs ys := by
  rw [sameTable_iff] at left right ⊢
  refine ⟨fun x listed => ?_, covered_of_common (R := Eq) right.1 left.2⟩
  obtain ⟨y, z, found, same_x, same_y⟩ := lookup_of_common (R := Eq) left.1 right.1 right.2 listed
  exact ⟨y, found, same_x.trans same_y.symm⟩

namespace TypeRef

theorem sameMembers_iff {xs ys : List (String × TypeRef)} :
    sameMembers xs ys ↔ ∀ x ∈ xs, ∃ y, ys.lookup x.1 = some y ∧ same x.2 y := by
  induction xs with
  | nil => simp [sameMembers]
  | cons x rest ih =>
    rw [sameMembers, Bool.and_eq_true, ih, List.forall_mem_cons]
    refine and_congr_left fun _ => ?_
    cases ys.lookup x.1 <;> simp

theorem same_union_iff {xs ys : List (String × TypeRef)} {m n : Option String} :
    same (.union xs m) (.union ys n) ↔ ((∀ x ∈ xs, ∃ y, ys.lookup x.1 = some y ∧ same x.2 y) ∧
      ∀ y ∈ ys, (xs.lookup y.1).isSome) ∧ m = n := by
  simp only [same, Bool.and_eq_true, sameMembers_iff, List.all_eq_true, beq_iff_eq]

theorem sizeOf_lt_of_mem_members {x : String × TypeRef} {xs : List (String × TypeRef)}
    (listed : x ∈ xs) : sizeOf x.2 < sizeOf xs := by
  have := List.sizeOf_lt_of_mem listed
  have : sizeOf x = 1 + sizeOf x.1 + sizeOf x.2 := rfl
  omega

theorem sizeOf_type_lt (field : Field TypeRef) : sizeOf field.type < sizeOf field := by
  cases field
  simp only [Field.mk.sizeOf_spec]
  omega

mutual

/-- **What is the same as a third type is the same.** -/
theorem same_of_common : ∀ a b c : TypeRef, a.same c → b.same c → a.same b
  | .primitive k r, b, c, left, right => by
    cases c with
    | primitive k'' r'' =>
      cases b with
      | primitive k' r' =>
        simp only [same, Bool.and_eq_true, beq_iff_eq] at left right ⊢
        exact ⟨left.1.trans right.1.symm, Constraints.same_of_common left.2 right.2⟩
      | _ => simp [same] at right
    | _ => simp [same] at left
  | .array t r, b, c, left, right => by
    cases c with
    | array v r'' =>
      cases b with
      | array u r' =>
        simp only [same, Bool.and_eq_true] at left right ⊢
        exact ⟨same_of_common t u v left.1 right.1, Constraints.same_of_common left.2 right.2⟩
      | _ => simp [same] at right
    | _ => simp [same] at left
  | .union xs m, b, c, left, right => by
    cases c with
    | union zs m'' =>
      cases b with
      | union ys m' =>
        rw [same_union_iff] at left right ⊢
        obtain ⟨⟨found_l, covered_l⟩, name_l⟩ := left
        obtain ⟨⟨found_r, covered_r⟩, name_r⟩ := right
        refine ⟨⟨fun x listed => ?_,
          covered_of_common (R := fun y z => y.same z) found_r covered_l⟩, name_l.trans name_r.symm⟩
        obtain ⟨u, v, found, same_x, same_y⟩ :=
          lookup_of_common (R := fun y z => y.same z) found_l found_r covered_r listed
        have smaller := sizeOf_lt_of_mem_members listed
        exact ⟨u, found, same_of_common x.2 u v same_x same_y⟩
      | _ => simp [same] at right
    | _ => simp [same] at left
  | .struct k fs i ns, b, c, left, right => by
    cases c with
    | struct k'' hs i'' ns'' =>
      cases b with
      | struct k' gs i' ns' =>
        simp only [same, Bool.and_eq_true, beq_iff_eq] at left right ⊢
        obtain ⟨⟨⟨kind_l, fields_l⟩, instance_l⟩, renames_l⟩ := left
        obtain ⟨⟨⟨kind_r, fields_r⟩, instance_r⟩, renames_r⟩ := right
        exact ⟨⟨⟨kind_l.trans kind_r.symm, sameFields_of_common fs gs hs fields_l fields_r⟩,
          instance_l.trans instance_r.symm⟩, sameTable_of_common renames_l renames_r⟩
      | _ => simp [same] at right
    | _ => simp [same] at left
  | .enum vs n, b, c, left, right => by
    cases c with
    | enum =>
      cases b with
      | enum => simp_all [same]
      | _ => simp [same] at right
    | _ => simp [same] at left
  | .resource i, b, c, left, right => by
    cases c with
    | resource =>
      cases b with
      | resource => simp_all [same]
      | _ => simp [same] at right
    | _ => simp [same] at left
  | .unknown n, b, c, left, right => by
    cases c with
    | unknown =>
      cases b with
      | unknown => simp_all [same]
      | _ => simp [same] at right
    | _ => simp [same] at left
termination_by a => sizeOf a

theorem sameFields_of_common : ∀ xs ys zs : List (Field TypeRef), sameFields xs zs →
    sameFields ys zs → sameFields xs ys
  | [], [], [], _, _ => rfl
  | [], y :: ys, [], _, right => by simp [sameFields] at right
  | [], _, z :: zs, left, _ => by simp [sameFields] at left
  | x :: xs, _, [], left, _ => by simp [sameFields] at left
  | x :: xs, [], z :: zs, _, right => by simp [sameFields] at right
  | x :: xs, y :: ys, z :: zs, left, right => by
    have smaller := sizeOf_type_lt x
    simp only [sameFields, Bool.and_eq_true, beq_iff_eq] at left right ⊢
    obtain ⟨⟨⟨⟨⟨name_l, type_l⟩, nullable_l⟩, default_l⟩, description_l⟩, rest_l⟩ := left
    obtain ⟨⟨⟨⟨⟨name_r, type_r⟩, nullable_r⟩, default_r⟩, description_r⟩, rest_r⟩ := right
    exact ⟨⟨⟨⟨⟨name_l.trans name_r.symm, same_of_common _ _ _ type_l type_r⟩,
      nullable_l.trans nullable_r.symm⟩, Value.same_of_common _ _ _ default_l default_r⟩,
      description_l.trans description_r.symm⟩, sameFields_of_common xs ys zs rest_l rest_r⟩
termination_by xs => sizeOf xs

end

end TypeRef

/-! ## Unions -/

theorem sameMemberList_iff {xs ys : List (String × TypeRef)} :
    sameMemberList xs ys ↔
      List.Forall₂ (fun x y : String × TypeRef => x.1 = y.1 ∧ x.2.same y.2) xs ys := by
  induction xs generalizing ys with
  | nil => cases ys <;> simp [sameMemberList]
  | cons x xs ih => cases ys <;> simp [sameMemberList, ih]

namespace UnionDef

/-- Unions of one shape have the same tags. -/
theorem tags_eq_of_sameShape {a b : UnionDef} (h : a.sameShape b) :
    a.members.map Prod.fst = b.members.map Prod.fst := by
  have paired := sameMemberList_iff.mp h
  rw [← List.forall₂_eq_eq_eq, List.forall₂_map_left_iff, List.forall₂_map_right_iff]
  exact paired.imp fun _ _ same => same.1

/-- **Unions that have the shape of a third have one shape.** -/
theorem sameShape_of_common {a b c : UnionDef} (left : a.sameShape c) (right : b.sameShape c) :
    a.sameShape b := by
  have members : ∀ {xs ys zs : List (String × TypeRef)}, sameMemberList xs zs →
      sameMemberList ys zs → sameMemberList xs ys := by
    intro xs ys zs left right
    rw [sameMemberList_iff] at left right ⊢
    induction left generalizing ys with
    | nil =>
      cases right
      exact .nil
    | cons same_xz _ ih =>
      cases right with
      | cons same_yz rest =>
        exact .cons ⟨same_xz.1.trans same_yz.1.symm, TypeRef.same_of_common _ _ _ same_xz.2
          same_yz.2⟩ (ih rest)
  exact members left right

end UnionDef
end TypedRpc
