import TypedRpc.Text.CharClass

/-!
# Numerals

Numbers in texts may have blanks around them, and where any script is welcome its decimal digits
count as those of the Latin script.
-/

namespace TypedRpc
namespace Text

/-- Blank characters around a number.  The four separators of records are none. -/
def isMargin (c : Char) : Bool :=
  isBlank c && !(0x1c ≤ c.toNat && c.toNat ≤ 0x1f)

/-- The characters between the blanks at both ends. -/
def trimMargins (cs : List Char) : List Char :=
  ((cs.dropWhile isMargin).reverse.dropWhile isMargin).reverse

/-- The value of a decimal digit of some script.  The digits of a range stand in groups of ten. -/
def decimalValue? (c : Char) : Option Nat :=
  (decimalDigits.find? fun range => range.1 ≤ c.toNat && c.toNat ≤ range.2).map fun range =>
    (c.toNat - range.1) % 10

/-- The Latin digit of the same value; other characters stand for themselves. -/
def toLatinDigit (c : Char) : Char :=
  match decimalValue? c with
  | some value => Char.ofNat ('0'.toNat + value)
  | none => c

end Text
end TypedRpc
