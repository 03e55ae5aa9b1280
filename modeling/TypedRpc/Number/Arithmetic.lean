import TypedRpc.Number.Binary64

/-!
# Sums and products

The sum and the product of two binary64 numbers: formed exactly and rounded once.  What involves an
infinity follows the sign rules, and where those say nothing the result is not a number.
-/

namespace TypedRpc
namespace Binary64

/-- The number nearest to `± significand * 2 ^ exponent`. -/
def ofScaled (negative : Bool) (significand : Nat) (exponent : Int) : Binary64 :=
  if 0 ≤ exponent then ofRatio negative (significand * Number.twoTo exponent.toNat) 1
  else ofRatio negative significand (Number.twoTo (-exponent).toNat)

/-- Whether the sign of a number is negative. -/
def isNegative : Binary64 → Bool
  | .finite negative _ _ => negative
  | .infinite negative => negative
  | .nan => false

/-- The product of two numbers. -/
def mul : Binary64 → Binary64 → Binary64
  | .finite s m e, .finite t n f => ofScaled (s != t) (m * n) (e + f)
  | .nan, _ => .nan
  | _, .nan => .nan
  | x, y => if x.isZero || y.isZero then .nan else .infinite (x.isNegative != y.isNegative)

/-- The signed significand of a finite number at a smaller exponent. -/
def alignedTo (negative : Bool) (significand : Nat) (exponent least : Int) : Int :=
  let magnitude : Nat := significand * Number.twoTo (exponent - least).toNat
  if negative then -(magnitude : Int) else magnitude

/-- The sum of two numbers. -/
def add : Binary64 → Binary64 → Binary64
  | .finite s m e, .finite t n f =>
    let least := min e f
    let total := alignedTo s m e least + alignedTo t n f least
    ofScaled (if total = 0 then s && t else total < 0) total.natAbs least
  | .infinite s, .infinite t => if s = t then .infinite s else .nan
  | .infinite s, .finite _ _ _ => .infinite s
  | .finite _ _ _, .infinite t => .infinite t
  | _, _ => .nan

end Binary64
end TypedRpc
