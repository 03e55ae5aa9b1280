import TypedRpc.Number.Shortest
import TypedRpc.Text.Quoted
import TypedRpc.Value.Basic

/-!
# How messages show values

Messages show a value in one of two ways.  **In full**, texts stand between quotation marks, lists
between brackets, maps between braces, and dates by the parts they are made of, so that values of
different kinds never look alike.  **Plainly**, a text is shown as itself and a date as it is
written in documents; everything else is shown in full.

A collection that stands inside itself is shown there by its brackets and three points.
-/

namespace TypedRpc

/-- A number padded with zeros to a width. -/
def padded (width n : Nat) : String :=
  String.ofList (Text.padZeros width (Nat.toDigits 10 n))

/-- A date as it is written: `2024-01-31`. -/
def Date.text (d : Date) : String :=
  padded 4 d.year ++ "-" ++ padded 2 d.month ++ "-" ++ padded 2 d.day

/-- A distance from universal time: a sign, hours, minutes, and seconds if there are any. -/
def offsetText (offset : Int) : String :=
  let seconds := offset.natAbs
  let sign := if offset < 0 then "-" else "+"
  let whole := sign ++ padded 2 (seconds / 3600) ++ ":" ++ padded 2 (seconds / 60 % 60)
  if seconds % 60 = 0 then whole else whole ++ ":" ++ padded 2 (seconds % 60)

/-- The time of day, with microseconds if there are any. -/
def Moment.timeText (t : Moment) : String :=
  let whole := padded 2 t.hour ++ ":" ++ padded 2 t.minute ++ ":" ++ padded 2 t.second
  if t.microsecond = 0 then whole else whole ++ "." ++ padded 6 t.microsecond

/-- A point in time with a separator between its day and its hour. -/
def Moment.textWith (separator : String) (t : Moment) : String :=
  t.date.text ++ separator ++ t.timeText ++ (t.offset.map offsetText).getD ""

/-- A point in time as it is written: `2024-01-31T12:00:00+01:00`. -/
def Moment.text (t : Moment) : String :=
  t.textWith "T"

/-- A distance of time shown by its parts.  A negative distance is shown as whole days back and
seconds forward. -/
def distanceShown (offset : Int) : String :=
  let days := offset.fdiv 86400
  let seconds := offset.fmod 86400
  let parts := (if days = 0 then [] else ["days=" ++ toString days]) ++
    (if seconds = 0 then [] else ["seconds=" ++ toString seconds])
  "datetime.timedelta(" ++ (if parts.isEmpty then "0" else ", ".intercalate parts) ++ ")"

/-- A distance from universal time shown by its parts. -/
def zoneShown (offset : Int) : String :=
  if offset = 0 then "datetime.timezone.utc"
  else "datetime.timezone(" ++ distanceShown offset ++ ")"

/-- A date shown by its parts. -/
def Date.shown (d : Date) : String :=
  "datetime.date(" ++ ", ".intercalate ([d.year, d.month, d.day].map toString) ++ ")"

/-- A point in time shown by its parts; seconds and microseconds of zero are left out. -/
def Moment.shown (t : Moment) : String :=
  let fine :=
    if t.microsecond ≠ 0 then [t.second, t.microsecond]
    else if t.second ≠ 0 then [t.second]
    else []
  let parts := [t.date.year, t.date.month, t.date.day, t.hour, t.minute] ++ fine
  let zone := (t.offset.map fun offset => ["tzinfo=" ++ zoneShown offset]).getD []
  "datetime.datetime(" ++ ", ".intercalate (parts.map toString ++ zone) ++ ")"

/-- Bytes between quotation marks behind a `b`; those outside the printable range by their
codes. -/
def bytesShown (bytes : List UInt8) : String :=
  let cs := bytes.map fun byte => Char.ofNat byte.toNat
  let mark := Text.quoteMark cs
  String.ofList ('b' :: mark :: cs.flatMap (Text.quoteByte mark) ++ [mark])

namespace Value

mutual

/-- A value shown in full. -/
def shown : Value → String
  | .null => "None"
  | .bool b => if b then "True" else "False"
  | .int n => toString n
  | .float x => x.text
  | .text s => Text.quote s
  | .bytes bs => bytesShown bs
  | .date d => d.shown
  | .moment t => t.shown
  | .list items => "[" ++ ", ".intercalate (shownItems items) ++ "]"
  | .tuple [item] => "(" ++ shown item ++ ",)"
  | .tuple items => "(" ++ ", ".intercalate (shownItems items) ++ ")"
  | .map entries => "\x7b" ++ ", ".intercalate (shownEntries entries) ++ "\x7d"
  | .set [] => "set()"
  | .set items => "\x7b" ++ ", ".intercalate (shownItems items) ++ "\x7d"
  | .part .list _ => "[...]"
  | .part .map _ => "\x7b...\x7d"
  | .part .set _ => "set(...)"

/-- Every value of a list shown in full. -/
def shownItems : List Value → List String
  | [] => []
  | item :: rest => shown item :: shownItems rest

/-- Every entry of a map shown in full. -/
def shownEntries : List (Value × Value) → List String
  | [] => []
  | (key, value) :: rest => (shown key ++ ": " ++ shown value) :: shownEntries rest

end

/-- A value shown plainly. -/
def plain : Value → String
  | .text s => s
  | .date d => d.text
  | .moment t => t.textWith " "
  | value => value.shown

/-- The name of the kind of a value. -/
def kindName : Value → String
  | .null => "NoneType"
  | .bool _ => "bool"
  | .int _ => "int"
  | .float _ => "float"
  | .text _ => "str"
  | .bytes _ => "bytes"
  | .date _ => "datetime.date"
  | .moment _ => "datetime.datetime"
  | .list _ | .part .list _ => "list"
  | .tuple _ => "tuple"
  | .map _ | .part .map _ => "dict"
  | .set _ | .part .set _ => "set"

end Value
end TypedRpc
