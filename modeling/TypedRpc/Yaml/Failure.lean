import TypedRpc.Number.Decimal
import TypedRpc.Value.Shown

/-!
# Failures of YAML texts

Where a text is malformed, only that it is so is reported.  Some scalars are well formed and still
stand for nothing, such as the thirtieth of February, and collections may stand inside too many
others; those failures say what is wrong.
-/

namespace TypedRpc
namespace Yaml

/-- Why a YAML text has no value. -/
inductive Failure where
  | malformed
  /-- A collection that stands inside too many others. -/
  | tooDeep
  | yearOutOfRange (year : Nat)
  | monthOutOfRange
  | dayOutOfRange
  | hourOutOfRange
  | minuteOutOfRange
  | secondOutOfRange
  | zoneOutOfRange (offset : Int)
  | notAnInteger (base : Nat) (text : String)
  | integerTooLong (digits : Nat)
  | notANumber (text : String)
  | notABoolean (text : String)
  | notATimestamp
  /-- A mapping where a timestamp is to be read. -/
  | timestampInEntries
  /-- A mapping that stands for a text and refers to itself for it. -/
  | endlessText
  | emptyNumber
  | codeOutOfRange
  | codeTooLarge
  deriving DecidableEq, Repr

/-- The wording where a reader runs out of frames. -/
def recursionMessage : String :=
  "maximum recursion depth exceeded"

/-- The wording of a failure; that of a malformed text is left to the reader of the text. -/
def Failure.message : Failure → String
  | .malformed => ""
  | .tooDeep => recursionMessage
  | .yearOutOfRange year => "year " ++ toString year ++ " is out of range"
  | .monthOutOfRange => "month must be in 1..12"
  | .dayOutOfRange => "day is out of range for month"
  | .hourOutOfRange => "hour must be in 0..23"
  | .minuteOutOfRange => "minute must be in 0..59"
  | .secondOutOfRange => "second must be in 0..59"
  | .zoneOutOfRange offset =>
    "offset must be a timedelta strictly between -timedelta(hours=24) and " ++
      "timedelta(hours=24), not " ++ distanceShown offset ++ "."
  | .notAnInteger base text =>
    "invalid literal for int() with base " ++ toString base ++ ": " ++ Text.quote text
  | .integerTooLong digits => Number.integerTooLongMessage digits
  | .notANumber text => "could not convert string to float: " ++ Text.quote text
  | .notABoolean text => Text.quote text
  | .notATimestamp => "'NoneType' object has no attribute 'groupdict'"
  | .timestampInEntries => "expected string or bytes-like object, got 'list'"
  | .endlessText => recursionMessage
  | .emptyNumber => "string index out of range"
  | .codeOutOfRange => "chr() arg not in range(0x110000)"
  | .codeTooLarge => "Python int too large to convert to C int"

end Yaml
end TypedRpc
