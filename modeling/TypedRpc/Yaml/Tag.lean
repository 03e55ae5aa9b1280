import TypedRpc.Yaml.Cursor

/-!
# Tags

A tag says what kind of value a node stands for.  Nodes without one get a tag from their form:
sequences and mappings their own, quoted scalars that of texts, and plain scalars the one whose
notation they follow.

The notations are those of version 1.1 of the language: `yes` and `off` are booleans, integers may
be written in base two, eight, sixteen and sixty and with underscores, numbers need a point and an
exponent a sign, and a date is four, two and two digits.
-/

namespace TypedRpc
namespace Yaml

/-- What kind of value a node stands for. -/
inductive Tag where
  | null
  | bool
  | int
  | float
  | binary
  | timestamp
  | orderedMap
  | pairs
  | set
  | text
  | sequence
  | mapping
  | merge
  | value
  | unknown
  deriving DecidableEq, Repr

/-- The common beginning of the known tags. -/
def coreTagPrefix : String := "tag:yaml.org,2002:"

/-- The ends of the known tags. -/
def tagSuffixes : List (String × Tag) := [
  ("null", .null), ("bool", .bool), ("int", .int), ("float", .float), ("binary", .binary),
  ("timestamp", .timestamp), ("omap", .orderedMap), ("pairs", .pairs), ("set", .set),
  ("str", .text), ("seq", .sequence), ("map", .mapping), ("merge", .merge), ("value", .value)]

/-- The tag that is written in full. -/
def Tag.ofName (name : String) : Tag :=
  ((tagSuffixes.find? fun entry => coreTagPrefix ++ entry.1 == name).map Prod.snd).getD .unknown

/-- The words for a boolean. -/
def booleanWords : List String := [
  "yes", "Yes", "YES", "no", "No", "NO", "true", "True", "TRUE", "false", "False", "FALSE",
  "on", "On", "ON", "off", "Off", "OFF"]

/-- The words for null; so is nothing at all. -/
def nullWords : List String := ["~", "null", "Null", "NULL"]

/-- A digit or an underscore. -/
def isDigitOrGap (c : Char) : Bool :=
  c.isDigit || c = '_'

/-- The characters behind a sign, if there is one. -/
def unsigned : List Char → List Char
  | '-' :: rest => rest
  | '+' :: rest => rest
  | cs => cs

/-- Whether a text is not empty and all its characters satisfy a condition. -/
def isRunOf (p : Char → Bool) (cs : List Char) : Bool :=
  !cs.isEmpty && cs.all p

/-- The pieces of a text between colons. -/
def colonPieces : List Char → List (List Char)
  | [] => [[]]
  | c :: rest =>
    if c = ':' then [] :: colonPieces rest
    else
      match colonPieces rest with
      | [] => [[c]]
      | piece :: others => (c :: piece) :: others

/-- Whether a piece is a digit of base sixty. -/
def isSixtieth : List Char → Bool
  | [d] => d.isDigit
  | [t, d] => '0' ≤ t && t ≤ '5' && d.isDigit
  | _ => false

/-- Whether a text is an integer in base sixty, with a leading digit of a given kind. -/
def isSexagesimal (isLeading : Char → Bool) (cs : List Char) : Bool :=
  match colonPieces cs with
  | (first :: rest) :: piece :: others =>
    isLeading first && rest.all isDigitOrGap && (piece :: others).all isSixtieth
  | _ => false

/-- A digit other than zero. -/
def isLeadingDigit (c : Char) : Bool :=
  c.isDigit && c ≠ '0'

/-- Whether a text is written as an integer. -/
def isIntegerForm (cs : List Char) : Bool :=
  match unsigned cs with
  | ['0'] => true
  | '0' :: 'b' :: digits => isRunOf (fun c => c = '0' || c = '1' || c = '_') digits
  | '0' :: 'x' :: digits => isRunOf (fun c => isHexDigit c || c = '_') digits
  | '0' :: digits => digits.all fun c => ('0' ≤ c && c ≤ '7') || c = '_'
  | first :: rest =>
    (isLeadingDigit first && rest.all isDigitOrGap) || isSexagesimal isLeadingDigit (first :: rest)
  | [] => false

/-- Whether a text is empty or an exponent with a sign. -/
def isExponentForm : List Char → Bool
  | [] => true
  | mark :: sign :: digits =>
    (mark = 'e' || mark = 'E') && (sign = '-' || sign = '+') && isRunOf Char.isDigit digits
  | _ => false

/-- Whether a text is a fraction behind a point, with or without an exponent. -/
def isFractionForm (cs : List Char) : Bool :=
  isExponentForm (cs.dropWhile isDigitOrGap)

/-- Whether a text is written as a number. -/
def isNumberForm (cs : List Char) : Bool :=
  let bare := unsigned cs
  let whole := bare.takeWhile (· ≠ '.')
  match bare.dropWhile (· ≠ '.') with
  | '.' :: fraction =>
    match whole with
    | [] =>
      let word := String.ofList fraction
      ["inf", "Inf", "INF"].contains word ||
        (bare == cs && (["nan", "NaN", "NAN"].contains word ||
          ((fraction.head?.map Char.isDigit).getD false && isFractionForm fraction)))
    | first :: rest =>
      (first.isDigit && rest.all isDigitOrGap && isFractionForm fraction) ||
        (isSexagesimal Char.isDigit whole && fraction.all isDigitOrGap)
  | _ => false

/-- The parts of a date or a point in time as they are written. -/
structure TimestampParts where
  year : List Char
  month : List Char
  day : List Char
  /-- Hour, minute and second. -/
  time : Option (List Char × List Char × List Char) := none
  fraction : List Char := []
  /-- The sign, hours and minutes of the distance from universal time; no sign for none. -/
  zone : Option (Option Char × List Char × List Char) := none
  deriving Repr

/-- The digits at the head of a text, given how many there may be, and the rest. -/
def digitsBetween? (least most : Nat) (cs : List Char) : Option (List Char × List Char) :=
  let digits := (cs.take most).takeWhile Char.isDigit
  if digits.length < least then none else some (digits, cs.drop digits.length)

/-- The text behind a character. -/
def behind? (c : Char) : List Char → Option (List Char)
  | d :: rest => if d = c then some rest else none
  | [] => none

/-- The zone at the end of a timestamp. -/
def zone? (cs : List Char) : Option (Option (Option Char × List Char × List Char)) :=
  match cs.dropWhile fun c => c = ' ' || c = '\t' with
  | [] => some none
  | ['Z'] => some (some (none, [], []))
  | sign :: rest => do
    if sign = '-' ∨ sign = '+' then
      let (hours, rest) ← digitsBetween? 1 2 rest
      match rest with
      | [] => some (some (some sign, hours, []))
      | ':' :: rest => do
        let (minutes, rest) ← digitsBetween? 2 2 rest
        if rest.isEmpty then some (some (some sign, hours, minutes)) else none
      | _ => none
    else none

/-- The time of day and the zone behind a date. -/
def timeParts? (parts : TimestampParts) (cs : List Char) : Option TimestampParts := do
  let (hour, rest) ← digitsBetween? 1 2 cs
  let (minute, rest) ← digitsBetween? 2 2 (← behind? ':' rest)
  let (second, rest) ← digitsBetween? 2 2 (← behind? ':' rest)
  let (fraction, rest) :=
    match rest with
    | '.' :: rest => (rest.takeWhile Char.isDigit, rest.dropWhile Char.isDigit)
    | rest => ([], rest)
  -- Blanks alone do not make a zone.
  let zone ← zone? rest
  if zone.isNone && !rest.isEmpty then none
  else pure { parts with time := some (hour, minute, second), fraction := fraction, zone := zone }

/-- The parts of a text that is written as a date or a point in time. -/
def timestampParts? (cs : List Char) : Option TimestampParts := do
  let (year, rest) ← digitsBetween? 4 4 cs
  let (month, rest) ← digitsBetween? 1 2 (← behind? '-' rest)
  let (day, rest) ← digitsBetween? 1 2 (← behind? '-' rest)
  let parts : TimestampParts := { year := year, month := month, day := day }
  match rest with
  | [] => pure parts
  | c :: rest =>
    if c = 'T' ∨ c = 't' then timeParts? parts rest
    else if c = ' ' ∨ c = '\t' then
      timeParts? parts (rest.dropWhile fun c => c = ' ' || c = '\t')
    else none

/-- Whether a plain scalar is a date or a point in time.  A date without a time has two digits for
its month and its day. -/
def isTimestampForm (cs : List Char) : Bool :=
  match timestampParts? cs with
  | some parts => parts.time.isSome || (parts.month.length = 2 && parts.day.length = 2)
  | none => false

/-- The characters before a line feed at the end, if there is one. -/
def withoutFinalFeed (cs : List Char) : List Char :=
  if cs.getLast? = some '\n' then cs.dropLast else cs

/-- The tag of a plain scalar.  One line feed at its end does not count, unless it stands alone. -/
def Tag.ofPlain (text : String) : Tag :=
  let cs := withoutFinalFeed text.toList
  let word := String.ofList cs
  if booleanWords.contains word then .bool
  else if cs.isEmpty then if text.isEmpty then .null else .text
  else if nullWords.contains word then .null
  else if word = "<<" then .merge
  else if word = "=" then .value
  else if ["!", "&", "*"].contains word then .unknown
  else if isNumberForm cs then .float
  else if isIntegerForm cs then .int
  else if isTimestampForm cs then .timestamp
  else .text

end Yaml
end TypedRpc
