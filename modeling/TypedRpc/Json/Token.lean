import TypedRpc.Json.Fault
import TypedRpc.Number.Decimal
import TypedRpc.Value.Basic

/-!
# Tokens of JSON texts

A JSON text is a row of tokens, each with the number of characters before it.  The row ends with
`finish`, or with the first token that no text may hold: a stray character, or a string or an
integer that cannot be read.  Such a token says what is wrong with itself, but the fault counts only
if the reader gets that far and finds no other reason to refuse the text there.
-/

namespace TypedRpc
namespace Json

/-- A token of a JSON text. -/
inductive Token where
  | openBrace
  | closeBrace
  | openBracket
  | closeBracket
  | colon
  | comma
  | text (value : String)
  | scalar (value : Value)
  | broken (failure : Failure) (isText : Bool)
  | stray
  | finish
  deriving Repr

/-- The characters between tokens. -/
def isSpace (c : Char) : Bool :=
  c = ' ' || c = '\t' || c = '\n' || c = '\r'

/-- The value of four hexadecimal digits at the head of a text. -/
def readCode? : List Char → Option Nat
  | a :: b :: c :: d :: _ =>
    let digits := [a, b, c, d]
    if digits.all (fun x => x.isDigit || ('a' ≤ x && x ≤ 'f') || ('A' ≤ x && x ≤ 'F')) then
      some (Number.ofDigits 16 digits)
    else none
  | _ => none

/-- The character that a letter stands for behind a backslash. -/
def simpleEscape? (c : Char) : Option Char :=
  if c = '"' then some '"'
  else if c = '\\' then some '\\'
  else if c = '/' then some '/'
  else if c = 'b' then some '\x08'
  else if c = 'f' then some '\x0c'
  else if c = 'n' then some '\n'
  else if c = 'r' then some '\r'
  else if c = 't' then some '\t'
  else none

/-- Whether a code is the first half of a pair. -/
def isHighHalf (code : Nat) : Bool := 0xD800 ≤ code && code < 0xDC00

/-- Whether a code is the second half of a pair. -/
def isLowHalf (code : Nat) : Bool := 0xDC00 ≤ code && code < 0xE000

/-- The character that two halves make up. -/
def joinHalves (high low : Nat) : Char :=
  Char.ofNat (0x10000 + (high - 0xD800) * 0x400 + (low - 0xDC00))

/-- The character with a code.  Half of a pair that stands alone is no character: it is replaced by
the one for what cannot be read. -/
def ofCode (code : Nat) : Char :=
  if isHighHalf code || isLowHalf code then '\ufffd' else Char.ofNat code

/-- What reading one unit of a string yields: its end, a character and the number of characters it
is written with, or a fault. -/
inductive StringUnit where
  | close
  | char (value : Char) (width : Nat)
  | fault (kind : FaultKind) (offset : Nat)
  deriving Repr

/-- The unit behind `\u`, where `offset` is the place of the backslash. -/
def codeUnit (offset : Nat) (rest : List Char) : StringUnit :=
  if rest.length ≤ 4 then .fault .invalidCodeEscape (offset + 1)
  else
    match readCode? rest with
    | none => .fault .invalidCodeEscape (offset + 1)
    | some high =>
      match isHighHalf high, rest.drop 4 with
      | true, '\\' :: 'u' :: more =>
        if more.length ≤ 4 then .char (ofCode high) 6
        else
          match readCode? more with
          | none => .fault .invalidCodeEscape (offset + 7)
          | some low =>
            if isLowHalf low then .char (joinHalves high low) 12 else .char (ofCode high) 6
      | _, _ => .char (ofCode high) 6

/-- The unit at the head of a string whose quote stood at `start`. -/
def stringUnit (start offset : Nat) : List Char → StringUnit
  | [] => .fault .unterminatedString start
  | '"' :: _ => .close
  | '\\' :: [] => .fault .unterminatedString start
  | '\\' :: 'u' :: rest => codeUnit offset rest
  | '\\' :: c :: _ =>
    match simpleEscape? c with
    | some value => .char value 2
    | none => .fault .invalidEscape offset
  | c :: _ => if c.toNat < 0x20 then .fault .controlCharacter offset else .char c 1

/-- A string read to its end: its characters from the last to the first and how many characters of
the text it took, or its fault.  Characters of a unit that is written with several are skipped. -/
def readString (start : Nat) : (offset skip : Nat) → List Char → (done : List Char) →
    Except Fault (List Char × Nat)
  | _, _, [], _ => .error ⟨.unterminatedString, start⟩
  | offset, skip + 1, _ :: rest, done => readString start (offset + 1) skip rest done
  | offset, 0, c :: rest, done =>
    match stringUnit start offset (c :: rest) with
    | .close => .ok (done, offset + 1)
    | .char value width => readString start (offset + 1) (width - 1) rest (value :: done)
    | .fault kind place => .error ⟨kind, place⟩

/-- The literal at the head of a text, with its length. -/
def readLiteral? (cs : List Char) : Option (Value × Nat) :=
  let literals : List (String × Value) := [
    ("null", .null), ("true", .bool true), ("false", .bool false), ("NaN", .float .nan),
    ("Infinity", .float (.infinite false)), ("-Infinity", .float (.infinite true))]
  (literals.find? fun literal => literal.1.toList.isPrefixOf cs).map fun literal =>
    (literal.2, literal.1.length)

/-- The digits at the head of a text. -/
def leadingDigits (cs : List Char) : List Char :=
  cs.takeWhile Char.isDigit

/-- The fraction at the head of a text: its digits, none if there is no point before digits. -/
def readFraction : List Char → List Char
  | '.' :: rest => leadingDigits rest
  | _ => []

/-- The exponent at the head of a text and the number of characters it takes. -/
def readExponent? : List Char → Option (Int × Nat)
  | mark :: rest =>
    if mark = 'e' ∨ mark = 'E' then
      let (negative, width, tail) :=
        match rest with
        | '-' :: tail => (true, 2, tail)
        | '+' :: tail => (false, 2, tail)
        | tail => (false, 1, tail)
      let digits := leadingDigits tail
      if digits.isEmpty then none
      else some (Number.signed negative (Number.ofDigits 10 digits), width + digits.length)
    else none
  | [] => none

/-- The number at the head of a text: a token and the number of characters it takes.  A number with
a point or an exponent is a binary64 number, any other an integer. -/
def readNumber? (cs : List Char) : Option (Token × Nat) :=
  let negative := cs.head? = some '-'
  let unsigned := if negative then cs.drop 1 else cs
  let whole :=
    match leadingDigits unsigned with
    | '0' :: _ => ['0']
    | digits => digits
  if whole.isEmpty then none
  else
    let afterWhole := unsigned.drop whole.length
    let fraction := readFraction afterWhole
    let fractionWidth := if fraction.isEmpty then 0 else fraction.length + 1
    let exponent := readExponent? (afterWhole.drop fractionWidth)
    let exponentWidth := (exponent.map Prod.snd).getD 0
    let width := (if negative then 1 else 0) + whole.length + fractionWidth + exponentWidth
    if fractionWidth = 0 ∧ exponentWidth = 0 then
      if Number.maxIntegerDigits < whole.length then
        some (.broken (.integerTooLong whole.length) false, width)
      else
        some (.scalar (.int (Number.signed negative (Number.ofDigits 10 whole))), width)
    else
      let power := (exponent.map Prod.fst).getD 0
      some (.scalar (.float (Number.ofDecimal negative whole fraction power)), width)

/-- The token at the head of a text that begins with no space, and the number of characters it
takes. -/
def readToken (offset : Nat) : List Char → Token × Nat
  | [] => (.finish, 0)
  | '{' :: _ => (.openBrace, 1)
  | '}' :: _ => (.closeBrace, 1)
  | '[' :: _ => (.openBracket, 1)
  | ']' :: _ => (.closeBracket, 1)
  | ':' :: _ => (.colon, 1)
  | ',' :: _ => (.comma, 1)
  | '"' :: rest =>
    match readString offset (offset + 1) 0 rest [] with
    | .ok (done, stop) => (.text (String.ofList done.reverse), stop - offset)
    | .error fault => (.broken (.syntaxFault fault) true, 0)
  | cs =>
    match readLiteral? cs with
    | some (value, width) => (.scalar value, width)
    | none => (readNumber? cs).getD (.stray, 0)

/-- The tokens of a text with their offsets.  The characters of a token that has been read are
skipped. -/
def tokensFrom : (offset skip : Nat) → List Char → List (Token × Nat)
  | offset, _, [] => [(.finish, offset)]
  | offset, skip + 1, _ :: rest => tokensFrom (offset + 1) skip rest
  | offset, 0, c :: rest =>
    if isSpace c then tokensFrom (offset + 1) 0 rest
    else
      match readToken offset (c :: rest) with
      | (token, 0) => [(token, offset)]
      | (token, width + 1) => (token, offset) :: tokensFrom (offset + 1) width rest

/-- The tokens of a text with their offsets. -/
def tokens (cs : List Char) : List (Token × Nat) :=
  tokensFrom 0 0 cs

end Json
end TypedRpc
