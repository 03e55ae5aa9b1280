/-!
# Numbers with a binary exponent

The numbers of schema documents that are written with a point or an exponent are binary64 numbers:
a sign, a significand below `2 ^ 53` and a power of two between `-1074` and `971`, or one of the two
infinities, or no number at all.

They are kept exactly, as integers, so that rounding, comparing, cutting off a fraction and printing
are plain integer arithmetic.  The significand is the largest that fits, as `ofRatio` makes it:
at least `2 ^ 52`, unless the exponent is already the least one.
-/

namespace TypedRpc

namespace Number

/-- A power of two. -/
def twoTo (n : Nat) : Nat :=
  Nat.pow 2 n

/-- A power of ten. -/
def tenTo (n : Nat) : Nat :=
  Nat.pow 10 n

end Number

/-- A binary64 number: `± significand * 2 ^ exponent`, an infinity, or not a number. -/
inductive Binary64 where
  | finite (negative : Bool) (significand : Nat) (exponent : Int)
  | infinite (negative : Bool)
  | nan
  deriving DecidableEq, Repr

namespace Binary64

/-- The least exponent of a finite number. -/
def minExponent : Int := -1074

/-- The greatest exponent of a finite number. -/
def maxExponent : Int := 971

/-- The number of binary digits of a full significand. -/
def precision : Nat := 53

/-- Zero, with its sign. -/
def zero (negative : Bool) : Binary64 :=
  .finite negative 0 minExponent

/-- The quotient rounded to the nearest integer; a half goes to the even neighbour. -/
def roundDiv (num den : Nat) : Nat :=
  let quotient := num / den
  let twice := 2 * (num % den)
  if twice < den then quotient
  else if twice = den then quotient + quotient % 2
  else quotient + 1

/-- The integer nearest to `num / den / 2 ^ exponent`. -/
def roundScaled (num den : Nat) (exponent : Int) : Nat :=
  if 0 ≤ exponent then roundDiv num (den * Number.twoTo exponent.toNat)
  else roundDiv (num * Number.twoTo (-exponent).toNat) den

/-- Whether `num / den` is at least `2 ^ exponent`. -/
def reaches (num den : Nat) (exponent : Int) : Bool :=
  if 0 ≤ exponent then den * Number.twoTo exponent.toNat ≤ num
  else den ≤ num * Number.twoTo (-exponent).toNat

/-- The exponent of the highest binary digit of `num / den`. -/
def leadingExponent (num den : Nat) : Int :=
  let guess : Int := (Nat.log2 num : Int) - (Nat.log2 den : Int)
  if reaches num den guess then guess else guess - 1

/-- The number nearest to `± num / den`; a tie goes to the even significand, and what is too large
becomes an infinity. -/
def ofRatio (negative : Bool) (num den : Nat) : Binary64 :=
  if num = 0 then zero negative
  else
    let exponent := max minExponent (leadingExponent num den - 52)
    let significand := roundScaled num den exponent
    let carried := significand = Number.twoTo precision
    let significand := if carried then Number.twoTo (precision - 1) else significand
    let exponent := if carried then exponent + 1 else exponent
    if maxExponent < exponent then .infinite negative
    else .finite negative significand exponent

/-- The number nearest to an integer. -/
def ofInt (n : Int) : Binary64 :=
  ofRatio (n < 0) n.natAbs 1

/-- The exact value of a finite number. -/
def toRat? : Binary64 → Option Rat
  | .finite negative significand exponent =>
    let magnitude : Rat := significand * (2 : Rat) ^ exponent
    some (if negative then -magnitude else magnitude)
  | _ => none

/-- The integer part of `significand * 2 ^ exponent`. -/
def wholePart (significand : Nat) (exponent : Int) : Nat :=
  if 0 ≤ exponent then significand * Number.twoTo exponent.toNat
  else significand / Number.twoTo (-exponent).toNat

/-- Whether `significand * 2 ^ exponent` has no fraction. -/
def isWhole (significand : Nat) (exponent : Int) : Bool :=
  0 ≤ exponent || significand % Number.twoTo (-exponent).toNat == 0

/-- The integer left when the fraction of a finite number is cut off. -/
def truncate? : Binary64 → Option Int
  | .finite negative significand exponent =>
    let whole : Int := wholePart significand exponent
    some (if negative then -whole else whole)
  | _ => none

/-- The integer that a number without a fraction equals. -/
def toInt? : Binary64 → Option Int
  | .finite negative significand exponent =>
    if isWhole significand exponent then
      let whole : Int := wholePart significand exponent
      some (if negative then -whole else whole)
    else none
  | _ => none

/-- The number with the opposite sign. -/
def negate : Binary64 → Binary64
  | .finite negative significand exponent => .finite (!negative) significand exponent
  | .infinite negative => .infinite (!negative)
  | .nan => .nan

/-- Whether the number is a zero of either sign. -/
def isZero : Binary64 → Bool
  | .finite _ significand _ => significand == 0
  | _ => false

/-- Whether two numbers are the same as values: zeros of both signs are, and so is a number that is
none with itself. -/
def same (x y : Binary64) : Bool :=
  match x.toRat?, y.toRat? with
  | some p, some q => p == q
  | none, none => x == y
  | _, _ => false

end Binary64
end TypedRpc
