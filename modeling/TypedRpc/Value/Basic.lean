import TypedRpc.Number.Binary64

/-!
# Values of documents

What a document holds before anything is known about its meaning: nulls, booleans, integers,
binary64 numbers, texts, bytes, dates, points in time, and lists, tuples, maps and sets of them.

A map keeps its entries in the order in which their keys first appeared, and an entry that comes
later under a known key replaces the value only.  Keys may be any scalar, and keys are compared by
value: the integer `1`, the number `1.0` and the boolean `true` are one key.

A collection of a document may stand in several places and even inside itself.  Such a collection is
kept once, under a number, and the values that hold it refer to it by that number.
-/

namespace TypedRpc

/-- A day of the calendar. -/
structure Date where
  year : Nat
  month : Nat
  day : Nat
  deriving DecidableEq, Repr

/-- A point in time, with the distance from universal time in seconds when it is known. -/
structure Moment where
  date : Date
  hour : Nat
  minute : Nat
  second : Nat
  microsecond : Nat
  offset : Option Int
  deriving DecidableEq, Repr

/-- The form of a collection. -/
inductive CollectionForm where
  | list
  | map
  | set
  deriving DecidableEq, Repr

/-- A value of a document. -/
inductive Value where
  | null
  | bool (value : Bool)
  | int (value : Int)
  | float (value : Binary64)
  | text (value : String)
  | bytes (value : List UInt8)
  | date (value : Date)
  | moment (value : Moment)
  | list (items : List Value)
  | tuple (items : List Value)
  | map (entries : List (Value × Value))
  | set (items : List Value)
  /-- A collection that its document keeps under a number. -/
  | part (form : CollectionForm) (number : Nat)
  deriving Repr, Inhabited

/-- Whether the year has a leap day. -/
def isLeapYear (year : Nat) : Bool :=
  year % 4 == 0 && (year % 100 != 0 || year % 400 == 0)

/-- The number of days of a month. -/
def daysInMonth (year month : Nat) : Nat :=
  if month = 2 then (if isLeapYear year then 29 else 28)
  else if [4, 6, 9, 11].contains month then 30
  else 31

/-- The number of days before the first day of a year. -/
def daysBeforeYear (year : Nat) : Nat :=
  let past := year - 1
  365 * past + past / 4 - past / 100 + past / 400

/-- The number of days from the beginning of the calendar. -/
def Date.ordinal (d : Date) : Nat :=
  let months := (List.range d.month).drop 1
  daysBeforeYear d.year + (months.map (daysInMonth d.year)).foldl (· + ·) 0 + d.day

/-- The microseconds of a point in time from the beginning of the calendar, in its own zone. -/
def Moment.localMicroseconds (t : Moment) : Int :=
  ((((t.date.ordinal * 24 + t.hour) * 60 + t.minute) * 60 + t.second) * 1000000 +
    t.microsecond : Nat)

/-- Whether two points in time are the same.  A point whose zone is unknown is never the same as
one whose zone is known. -/
def Moment.same (s t : Moment) : Bool :=
  match s.offset, t.offset with
  | none, none => s.localMicroseconds == t.localMicroseconds
  | some here, some there =>
    s.localMicroseconds - here * 1000000 == t.localMicroseconds - there * 1000000
  | _, _ => false

namespace Value

/-- The numeric value of booleans, integers and finite numbers without a fraction. -/
def toInt? : Value → Option Int
  | .bool b => some (if b then 1 else 0)
  | .int n => some n
  | .float x => x.toInt?
  | _ => none

/-- Whether two scalars are the same as values. -/
def sameScalar : Value → Value → Bool
  | .null, .null => true
  | .text s, .text t => s == t
  | .bytes s, .bytes t => s == t
  | .date s, .date t => s == t
  | .moment s, .moment t => s.same t
  | .float x, .float y => x.same y
  | a, b => a.toInt?.isSome && a.toInt? == b.toInt?

mutual

/-- Whether two values are the same.  Numbers are compared by value across their kinds; maps and
sets without regard to order. -/
def same : Value → Value → Bool
  | .list xs, .list ys => sameItems xs ys
  | .tuple xs, .tuple ys => sameItems xs ys
  | .map xs, .map ys =>
    sameEntries xs ys && ys.all fun entry => xs.any fun other => sameScalar entry.1 other.1
  | .set xs, .set ys =>
    (xs.all fun x => ys.any (sameScalar x)) && ys.all fun y => xs.any (sameScalar y)
  | a, b => sameScalar a b

/-- Whether two lists hold the same values in the same order. -/
def sameItems : List Value → List Value → Bool
  | [], [] => true
  | x :: xs, y :: ys => same x y && sameItems xs ys
  | _, _ => false

/-- Whether every entry has an entry with the same key and value among others. -/
def sameEntries : List (Value × Value) → List (Value × Value) → Bool
  | [], _ => true
  | (k, v) :: rest, others =>
    (match others.find? fun entry => sameScalar k entry.1 with
      | some entry => same v entry.2
      | none => false) && sameEntries rest others

end

/-- The text of a value that is one. -/
def asText? : Value → Option String
  | .text s => some s
  | _ => none

/-- Adds an entry to a map.  A known key keeps its place and takes the new value. -/
def insert (entries : List (Value × Value)) (key value : Value) : List (Value × Value) :=
  match entries with
  | [] => [(key, value)]
  | (k, v) :: rest =>
    if sameScalar k key then (k, value) :: rest else (k, v) :: insert rest key value

/-- The entries of a map in the order in which their keys first appear. -/
def ofEntries (entries : List (Value × Value)) : List (Value × Value) :=
  entries.foldl (fun known entry => insert known entry.1 entry.2) []

/-- What stands under a key. -/
def find? {α : Type} (entries : List (Value × α)) (key : Value) : Option α :=
  (entries.find? fun entry => sameScalar entry.1 key).map Prod.snd

/-- What stands under a text key. -/
def field? {α : Type} (entries : List (Value × α)) (key : String) : Option α :=
  find? entries (.text key)

/-- A map with text keys. -/
def record (fields : List (String × Value)) : Value :=
  .map (fields.map fun field => (.text field.1, field.2))

/-- A list of texts. -/
def texts (items : List String) : Value :=
  .list (items.map .text)

/-- A text, or null when there is none. -/
def ofText? : Option String → Value
  | none => .null
  | some s => .text s

/-- An integer, or null when there is none. -/
def ofInt? : Option Int → Value
  | none => .null
  | some n => .int n

/-- A table from texts to texts. -/
def ofTable (entries : List (String × String)) : Value :=
  record (entries.map fun entry => (entry.1, .text entry.2))

end Value
end TypedRpc
