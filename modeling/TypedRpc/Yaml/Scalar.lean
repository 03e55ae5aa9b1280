import TypedRpc.Number.Arithmetic
import TypedRpc.Number.Decimal
import TypedRpc.Text.Case
import TypedRpc.Text.Numeral
import TypedRpc.Value.Basic
import TypedRpc.Yaml.Tag
import TypedRpc.Yaml.Token

/-!
# Values of scalars

A scalar is turned into a value by the rules of its tag.  A scalar whose tag was found from its
notation nearly always has a value; one with a tag of its own may hold anything, and what it holds
is refused by the rule of the tag.
-/

namespace TypedRpc
namespace Yaml

/-- The text without underscores. -/
def withoutGaps (text : String) : List Char :=
  text.toList.filter (· ≠ '_')

/-- A text as a numeral: without the blanks around it and in Latin digits. -/
def numeral (cs : List Char) : List Char :=
  (Text.trimMargins cs).map Text.toLatinDigit

/-- The digits of an integer in a base, without its sign and the letter that names the base. -/
def baseDigits (base : Nat) (cs : List Char) : List Char :=
  match cs with
  | '0' :: mark :: digits =>
    if (base = 16 ∧ (mark = 'x' ∨ mark = 'X')) ∨ (base = 8 ∧ (mark = 'o' ∨ mark = 'O')) ∨
        (base = 2 ∧ (mark = 'b' ∨ mark = 'B')) then digits
    else cs
  | _ => cs

/-- The integer that a text writes in a base.  Too many digits in base ten are refused whatever
follows them. -/
def integerIn (base : Nat) (cs : List Char) : Except Failure Int :=
  let trimmed := numeral cs
  let written := baseDigits base (unsigned trimmed)
  let digits := written.takeWhile fun c => isHexDigit c && Number.digitValue c < base
  if base = 10 && Number.maxIntegerDigits < digits.length then
    .error (.integerTooLong digits.length)
  else if digits.isEmpty || digits.length ≠ written.length then
    .error (.notAnInteger base (String.ofList cs))
  else .ok (Number.signed (trimmed.head? = some '-') (Number.ofDigits base digits))

/-- An integer whose digits in base sixty are given from the first to the last. -/
def ofSixtieths (digits : List Int) : Int :=
  digits.foldl (fun value digit => value * 60 + digit) 0

/-- The value of an integer behind its sign. -/
def magnitude (cs : List Char) : Except Failure Int :=
  match cs with
  | [] => .error .emptyNumber
  | ['0'] => .ok 0
  | '0' :: 'b' :: digits => integerIn 2 digits
  | '0' :: 'x' :: digits => integerIn 16 digits
  | '0' :: _ => integerIn 8 cs
  | _ =>
    if cs.contains ':' then do
      let digits ← (colonPieces cs).mapM (integerIn 10)
      pure (ofSixtieths digits)
    else integerIn 10 cs

/-- The integer that a scalar writes. -/
def integerOf (text : String) : Except Failure Int :=
  match withoutGaps text with
  | [] => .error .emptyNumber
  | '-' :: rest => (magnitude rest).map fun n => -n
  | '+' :: rest => magnitude rest
  | cs => magnitude cs

/-- The number that a text writes. -/
def plainNumber (cs : List Char) : Except Failure Binary64 :=
  match Number.readSigned? (numeral cs) with
  | some x => .ok x
  | none => .error (.notANumber (String.ofList cs))

/-- A number whose digits in base sixty are given from the last to the first, added up from the
last; `weight` is that of the first of them. -/
def sumSixtieths (total : Binary64) (weight : Nat) : List Binary64 → Binary64
  | [] => total
  | digit :: rest =>
    sumSixtieths (total.add (digit.mul (.ofInt weight))) (weight * 60) rest

/-- The value of a number behind its sign, in lower case. -/
def numberMagnitude (cs : List Char) : Except Failure Binary64 :=
  if cs = ['.', 'i', 'n', 'f'] then .ok (.infinite false)
  else if cs = ['.', 'n', 'a', 'n'] then .ok .nan
  else if cs.contains ':' then do
    let digits ← (colonPieces cs).mapM plainNumber
    pure (sumSixtieths (.zero false) 1 digits.reverse)
  else plainNumber cs

/-- The number that a scalar writes. -/
def numberOf (text : String) : Except Failure Binary64 :=
  match Text.lower (withoutGaps text) with
  | [] => .error .emptyNumber
  | '-' :: rest => (numberMagnitude rest).map Binary64.negate
  | '+' :: rest => numberMagnitude rest
  | cs => numberMagnitude cs

/-- The boolean that a scalar writes. -/
def booleanOf (text : String) : Except Failure Bool :=
  let word := String.ofList (Text.lower text.toList)
  if ["yes", "true", "on"].contains word then .ok true
  else if ["no", "false", "off"].contains word then .ok false
  else .error (.notABoolean word)

/-- The value of a letter of base sixty-four. -/
def base64Value? (c : Char) : Option Nat :=
  if 'A' ≤ c ∧ c ≤ 'Z' then some (c.toNat - 'A'.toNat)
  else if 'a' ≤ c ∧ c ≤ 'z' then some (c.toNat - 'a'.toNat + 26)
  else if c.isDigit then some (c.toNat - '0'.toNat + 52)
  else if c = '+' then some 62
  else if c = '/' then some 63
  else none

/-- The bytes that letters of base sixty-four write.  Other characters are skipped, and reading ends
at the padding that completes a group of four.  `held` holds the bits of `count` letters of the
group that have not made up a byte. -/
def base64Bytes (count pads held : Nat) : List Char → Except Failure (List UInt8)
  | [] => if count = 0 then .ok [] else .error .malformed
  | c :: rest =>
    if c = '=' then
      if 2 ≤ count then
        if 4 ≤ count + pads + 1 then .ok [] else base64Bytes count (pads + 1) held rest
      else base64Bytes count pads held rest
    else
      match base64Value? c with
      | none => base64Bytes count pads held rest
      | some v =>
        match count with
        | 0 => base64Bytes 1 0 v rest
        | 1 => (base64Bytes 2 0 (v % 16) rest).map ((held * 4 + v / 16).toUInt8 :: ·)
        | 2 => (base64Bytes 3 0 (v % 4) rest).map ((held * 16 + v / 4).toUInt8 :: ·)
        | _ => (base64Bytes 0 0 0 rest).map ((held * 64 + v).toUInt8 :: ·)

/-- The bytes that a scalar writes. -/
def bytesOf (text : String) : Except Failure (List UInt8) :=
  if text.toList.all fun c => c.toNat < 128 then base64Bytes 0 0 0 text.toList
  else .error .malformed

/-- A date, if the calendar has it. -/
def checkDate (year month day : Nat) : Except Failure Date :=
  if year = 0 then .error (.yearOutOfRange year)
  else if month = 0 || 12 < month then .error .monthOutOfRange
  else if day = 0 || daysInMonth year month < day then .error .dayOutOfRange
  else .ok ⟨year, month, day⟩

/-- The seconds from universal time. -/
def zoneOffset (zone : Option Char × List Char × List Char) : Except Failure Int :=
  let (sign, hours, minutes) := zone
  let seconds := (Number.ofDigits 10 hours * 60 + Number.ofDigits 10 minutes) * 60
  let offset := Number.signed (sign = some '-') seconds
  if 86400 ≤ seconds then .error (.zoneOutOfRange offset) else .ok offset

/-- The microseconds of a fraction of a second. -/
def microseconds (fraction : List Char) : Nat :=
  let digits := fraction.take 6
  Number.ofDigits 10 (digits ++ List.replicate (6 - digits.length) '0')

/-- The date or the point in time that a scalar writes. -/
def timestampOf (text : String) : Except Failure Value := do
  match timestampParts? (withoutFinalFeed text.toList) with
  | none => .error .notATimestamp
  | some parts =>
    let year := Number.ofDigits 10 parts.year
    let month := Number.ofDigits 10 parts.month
    let day := Number.ofDigits 10 parts.day
    match parts.time with
    | none => return .date (← checkDate year month day)
    | some (hour, minute, second) =>
      let offset ← parts.zone.mapM zoneOffset
      let date ← checkDate year month day
      let hour := Number.ofDigits 10 hour
      let minute := Number.ofDigits 10 minute
      let second := Number.ofDigits 10 second
      if 23 < hour then .error .hourOutOfRange
      else if 59 < minute then .error .minuteOutOfRange
      else if 59 < second then .error .secondOutOfRange
      else pure (.moment ⟨date, hour, minute, second, microseconds parts.fraction, offset⟩)

/-- The value that a text has under a tag; under a tag of collections it has none. -/
def scalarValue (tag : Tag) (text : String) : Except Failure Value :=
  match tag with
  | .null => .ok .null
  | .bool => (booleanOf text).map .bool
  | .int => (integerOf text).map .int
  | .float => (numberOf text).map .float
  | .binary => (bytesOf text).map .bytes
  | .timestamp => timestampOf text
  | .text => .ok (.text text)
  | .merge | .value | .unknown => .error .malformed
  | .orderedMap | .pairs | .set | .sequence | .mapping => .error .malformed

end Yaml
end TypedRpc
