import TypedRpc.Number.Decimal
import TypedRpc.Schema.Checked
import TypedRpc.Schema.Kinds
import TypedRpc.Schema.TypeRef
import TypedRpc.Text.Case
import TypedRpc.Text.Numeral

/-!
# Reading scalars of schema documents

Scalars are read with some latitude.  A boolean may be written as the number zero or one or as one
of a few words, an integer as a number without a fraction or as digits in quotes, a number as digits
in quotes too.  Bytes that are proper text count as that text.

A bound is an integer or a number, and a text is tried as an integer first.
-/

namespace TypedRpc
namespace Checked

/-- The text that bytes spell. -/
def textOfBytes? (bytes : List UInt8) : Option String :=
  String.fromUTF8? ⟨bytes.toArray⟩

/-- A text. -/
def text : Reader String
  | ⟨.text s, _⟩ => .ok s
  | ⟨.bytes bs, _⟩ =>
    match textOfBytes? bs with
    | some s => .ok s
    | none => refuse .undecodableText
  | _ => refuse .notText

/-- Words for a boolean, in lower case. -/
def booleanWords : List (String × Bool) := [
  ("0", false), ("off", false), ("f", false), ("false", false), ("n", false), ("no", false),
  ("1", true), ("on", true), ("t", true), ("true", true), ("y", true), ("yes", true)]

/-- The boolean that a word stands for, in letters of either case. -/
def booleanOfWord (word : String) : Checked Bool :=
  let lowered := String.ofList (word.toList.map Char.toLower)
  match booleanWords.lookup lowered with
  | some b => .ok b
  | none => refuse .unreadableBoolean

/-- The integers that a number without a fraction is turned into. -/
def inIntegerRange (n : Int) : Bool :=
  -(Number.twoTo 63 : Int) < n && n < (Number.twoTo 63 : Int)

/-- The boolean that an integer stands for. -/
def booleanOfInt (n : Int) : Checked Bool :=
  if n = 0 then .ok false else if n = 1 then .ok true else refuse .unreadableBoolean

/-- A boolean.  Integers of more than 64 bits are none at all. -/
def boolean : Reader Bool
  | ⟨.bool b, _⟩ => .ok b
  | ⟨.int n, _⟩ =>
    if inIntegerRange n || n = -(Number.twoTo 63 : Int) then booleanOfInt n else refuse .notBoolean
  | ⟨.float x, _⟩ =>
    match x.toInt? with
    | some n => if inIntegerRange n then booleanOfInt n else refuse .notBoolean
    | none => refuse .notBoolean
  | ⟨.text s, _⟩ => booleanOfWord s
  | ⟨.bytes bs, _⟩ =>
    match textOfBytes? bs with
    | some s => booleanOfWord s
    | none => refuse .unreadableBoolean
  | _ => refuse .notBoolean

/-- Whether an underscore stands at an end or beside another one. -/
def misplacesUnderscore : List Char → Bool
  | [] => false
  | ['_'] => true
  | '_' :: '_' :: _ => true
  | _ :: rest => misplacesUnderscore rest

/-- The characters without underscores, if they separate other characters one at a time. -/
def withoutUnderscores? (cs : List Char) : Option (List Char) :=
  if cs.head? = some '_' || misplacesUnderscore cs then none
  else some (cs.filter (· ≠ '_'))

/-- What a text is as an integer written without any latitude. -/
inductive StrictInteger where
  | readable (value : Int)
  /-- It starts with more digits than integers may have. -/
  | oversized
  | unreadable
  deriving Repr

/-- Reads an integer written without any latitude: digits without a leading zero, behind a minus
sign or not.  The sign counts as a digit. -/
def strictInteger (cs : List Char) : StrictInteger :=
  let negative := cs.head? = some '-'
  let unsigned := if negative then cs.drop 1 else cs
  let digits := unsigned.takeWhile Char.isDigit
  let ends := unsigned.length = digits.length
  if digits = ['0'] && ends then .readable 0
  else if digits.isEmpty || digits.head? = some '0' then .unreadable
  else if Number.maxIntegerDigits < (if negative then 1 else 0) + digits.length then .oversized
  else if ends then .readable (Number.signed negative (Number.ofDigits 10 digits))
  else .unreadable

/-- The rest of a number behind its leading zeros and the underscores among them.  A number that is
zero keeps its last character; behind the zeros there may be digits, a point or a minus sign. -/
def withoutLeadingZeros? (cs : List Char) : Option (List Char) :=
  match cs with
  | '0' :: _ =>
    match cs.dropWhile fun c => c = '0' || c = '_' with
    | [] => some (cs.drop (cs.length - 1))
    | c :: rest =>
      if c.isDigit || c = '-' then some (c :: rest)
      else if c = '.' then some (cs.drop (cs.length - (rest.length + 2)))
      else none
  | c :: _ => if c.isDigit then some cs else none
  | [] => none

/-- The number before a point that only zeros follow. -/
def withoutZeroFraction? (cs : List Char) : Option (List Char) :=
  match cs.dropWhile (· ≠ '.') with
  | [] => some cs
  | _ :: fraction =>
    if fraction.isEmpty || !fraction.all (· = '0') then none
    else some (cs.takeWhile (· ≠ '.'))

/-- A sign and the number behind it; a plus sign is dropped. -/
def splitSign : List Char → List Char × List Char
  | '+' :: rest => ([], rest)
  | '-' :: rest => (['-'], rest)
  | cs => ([], cs)

/-- An integer written with blanks around it, a plus sign, leading zeros, underscores between its
digits or a fraction of zeros, brought to the form without any. -/
def plainForm? (cs : List Char) : Option (List Char) := do
  let (sign, unsigned) := splitSign (Text.trimMargins cs)
  let significant ← withoutLeadingZeros? unsigned
  let whole ← withoutZeroFraction? significant
  pure (sign ++ (withoutUnderscores? whole).getD whole)

/-- The integer that a text spells. -/
def integerOfText (s : String) : Checked Int :=
  match strictInteger s.toList with
  | .readable n => .ok n
  | .oversized => refuse .oversizedInteger
  | .unreadable =>
    match (plainForm? s.toList).map strictInteger with
    | some (.readable n) => .ok n
    | _ => refuse .unreadableInteger

/-- The integer that a number without a fraction equals. -/
def integerOfNumber (x : Binary64) : Checked Int :=
  match x with
  | .finite _ _ _ =>
    match x.toInt? with
    | some n => if inIntegerRange n then .ok n else refuse .oversizedInteger
    | none => refuse .fractionalInteger
  | _ => refuse .infiniteInteger

/-- An integer. -/
def integer : Reader Int
  | ⟨.int n, _⟩ => .ok n
  | ⟨.bool b, _⟩ => .ok (if b then 1 else 0)
  | ⟨.float x, _⟩ => integerOfNumber x
  | ⟨.text s, _⟩ => integerOfText s
  | ⟨.bytes bs, _⟩ =>
    match textOfBytes? bs with
    | some s => integerOfText s
    | none => refuse .unreadableInteger
  | _ => refuse .notInteger

/-- The number that a text spells, with blanks around it or underscores between its digits. -/
def numberOfText (s : String) : Checked Binary64 :=
  let cs := s.toList
  let separated := (withoutUnderscores? cs).bind fun bare =>
    if cs.contains '_' then Number.readSigned? bare else none
  let found := Number.readSigned? (Text.trimMargins cs) <|> separated
  match found with
  | some x => .ok x
  | none => refuse .unreadableNumber

/-- The problems of a value that is neither an integer nor a number, under the two forms that were
tried. -/
def neither (asInteger : Checked Int) (asNumber : Checked Binary64) : Checked Bound :=
  (fun _ x => .float x) <$> asInteger.under (.name "int") <*> asNumber.under (.name "float")

/-- A text as a bound. -/
def boundOfText (s : String) : Checked Bound :=
  match integerOfText s, numberOfText s with
  | .ok n, _ => .ok (.int n)
  | .faulty _, .ok x => .ok (.float x)
  | asInteger, asNumber => neither asInteger asNumber

/-- A bound: an integer or a number. -/
def bound : Reader Bound
  | ⟨.int n, _⟩ => .ok (.int n)
  | ⟨.bool b, _⟩ => .ok (.int (if b then 1 else 0))
  | ⟨.float x, _⟩ => .ok (.float x)
  | ⟨.text s, _⟩ => boundOfText s
  | ⟨.bytes bs, _⟩ =>
    match textOfBytes? bs with
    | some s => boundOfText s
    | none => neither (refuse .unreadableInteger) (refuse .unreadableNumber)
  | _ => neither (refuse .notInteger) (refuse .notNumber)

/-- A word of a vocabulary. -/
def word {α : Type} [Vocabulary α] : Reader α
  | ⟨.text s, _⟩ =>
    match Vocabulary.ofWord? s with
    | some a => .ok a
    | none => refuse (.notAWord (Vocabulary.words α))
  | _ => refuse (.notAWord (Vocabulary.words α))

/-- A list of things. -/
def list {α : Type} (read : Reader α) : Reader (List α) := fun document =>
  match document.content with
  | .list values | .tuple values | .set values => items read 0 (document.items values)
  | _ => refuse .notList

/-- The step to an entry of a map. -/
def keyStep : Value → Step
  | .text s => .name s
  | .bool b => .name (if b then "1" else "0")
  | key => .name key.shown

/-- The entries of a map: each key must be a text. -/
def entries {α : Type} (read : Reader α) : Entries → Checked (List (String × α))
  | [] => .ok []
  | (key, value) :: rest =>
    let name := ((text { value := key }).under (.name "[key]")).under (keyStep key)
    let entry := Prod.mk <$> name <*> (read value).under (keyStep key)
    List.cons <$> entry <*> entries read rest

/-- A map with texts as keys. -/
def table {α : Type} (read : Reader α) : Reader (List (String × α)) := fun document =>
  match document.content with
  | .map found => entries read (document.entries found)
  | _ => refuse .notMap

/-- A record, given the name of what it describes. -/
def record {α : Type} (model : String) (read : Entries → Checked α) : Reader α := fun document =>
  match document.content with
  | .map found => read (document.entries found)
  | _ => refuse (.notRecord model)

end Checked
end TypedRpc
