import TypedRpc.Number.Binary64

/-!
# Reading decimals

Digits are read into integers, and a decimal with a fraction and an exponent into the nearest
binary64 number.  The quotient is formed exactly and rounded once; an exponent that is far outside
the range of the format is not expanded, since the result is known to be an infinity or a zero.
-/

namespace TypedRpc
namespace Number

/-- The value of a digit in bases up to sixteen, in either case. -/
def digitValue (c : Char) : Nat :=
  if c.isDigit then c.toNat - '0'.toNat
  else if 'a' ≤ c ∧ c ≤ 'f' then c.toNat - 'a'.toNat + 10
  else if 'A' ≤ c ∧ c ≤ 'F' then c.toNat - 'A'.toNat + 10
  else 0

/-- The number that digits write in a base. -/
def ofDigits (base : Nat) (digits : List Char) : Nat :=
  digits.foldl (fun value c => value * base + digitValue c) 0

/-- An integer with its sign. -/
def signed (negative : Bool) (n : Nat) : Int :=
  if negative then -(n : Int) else n

/-- The number of decimal digits beyond which an integer is converted neither from a text nor to
one. -/
def maxIntegerDigits : Nat := 4300

/-- The wording for an integer that is not converted. -/
def digitLimitMessage (detail : String) : String :=
  "Exceeds the limit (" ++ toString maxIntegerDigits ++
    " digits) for integer string conversion" ++ detail ++
    "; use sys.set_int_max_str_digits() to increase the limit"

/-- The wording for a decimal integer that is too long. -/
def integerTooLongMessage (digits : Nat) : String :=
  digitLimitMessage (": value has " ++ toString digits ++ " digits")

/-- Whether an integer is short enough to be written as a decimal. -/
def isWritable (n : Int) : Bool :=
  (Nat.toDigits 10 n.natAbs).length ≤ maxIntegerDigits

/-- Decimal exponents beyond which every number of the format is an infinity or a zero. -/
def farExponent : Int := 400

/-- The number nearest to `± digits * 10 ^ power`. -/
def scaled (negative : Bool) (digits : List Char) (power : Int) : Binary64 :=
  let significant := digits.dropWhile (· = '0')
  let magnitude := (significant.length : Int) + power
  if significant.isEmpty then .zero negative
  else if farExponent < magnitude then .infinite negative
  else if magnitude < -farExponent then .zero negative
  else
    let value := ofDigits 10 significant
    if 0 ≤ power then .ofRatio negative (value * Number.tenTo power.toNat) 1
    else .ofRatio negative value (Number.tenTo (-power).toNat)

/-- The number nearest to a decimal given by the digits before and after its point and by its
exponent. -/
def ofDecimal (negative : Bool) (whole fraction : List Char) (exponent : Int) : Binary64 :=
  scaled negative (whole ++ fraction) (exponent - fraction.length)

/-- An unsigned decimal split into its parts: `whole.fraction` and the exponent, if any. -/
structure DecimalParts where
  whole : List Char
  fraction : Option (List Char)
  exponent : Option Int
  deriving Repr

/-- Reads an exponent: `e` or `E`, a sign if there is one, and digits. -/
def readExponent? : List Char → Option (Option Int)
  | [] => some none
  | mark :: rest =>
    if mark = 'e' ∨ mark = 'E' then
      let (negative, digits) :=
        match rest with
        | '-' :: digits => (true, digits)
        | '+' :: digits => (false, digits)
        | digits => (false, digits)
      if digits.isEmpty || !digits.all Char.isDigit then none
      else some (some (signed negative (ofDigits 10 digits)))
    else none

/-- Reads an unsigned decimal that takes up the whole text.  Digits may be missing on one side of
the point, but not on both. -/
def readParts? (cs : List Char) : Option DecimalParts :=
  let whole := cs.takeWhile Char.isDigit
  match cs.dropWhile Char.isDigit with
  | '.' :: rest =>
    let fraction := rest.takeWhile Char.isDigit
    if whole.isEmpty && fraction.isEmpty then none
    else (readExponent? (rest.dropWhile Char.isDigit)).map fun exponent =>
      ⟨whole, some fraction, exponent⟩
  | rest =>
    if whole.isEmpty then none
    else (readExponent? rest).map fun exponent => ⟨whole, none, exponent⟩

/-- The number nearest to a decimal with a sign. -/
def DecimalParts.toBinary64 (parts : DecimalParts) (negative : Bool) : Binary64 :=
  ofDecimal negative parts.whole (parts.fraction.getD []) (parts.exponent.getD 0)

/-- The number that an unsigned text spells: a decimal, or one of the words for an infinity and for
no number, in letters of either case. -/
def readUnsigned? (negative : Bool) (cs : List Char) : Option Binary64 :=
  let lowered := String.ofList (cs.map Char.toLower)
  if lowered = "inf" || lowered = "infinity" then some (.infinite negative)
  else if lowered = "nan" then some .nan
  else (readParts? cs).map fun parts => parts.toBinary64 negative

/-- The number that a text spells, with a sign or without. -/
def readSigned? : List Char → Option Binary64
  | '-' :: rest => readUnsigned? true rest
  | '+' :: rest => readUnsigned? false rest
  | cs => readUnsigned? false cs

end Number
end TypedRpc
