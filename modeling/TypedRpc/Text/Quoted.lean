import TypedRpc.Text.CharClass

/-!
# Quoted text in messages

Messages show a text between quotes so that blanks and controls in it can be seen.  Single quotes
are used, unless the text holds a single quote and no double one.  The quote in use and the
backslash are written behind a backslash, line feeds, carriage returns and tabs by their letters,
and every other character without a printed form by its code: two, four or eight hexadecimal
digits behind `\x`, `\u` or `\U`.
-/

namespace TypedRpc
namespace Text

/-- Digits behind as many zeros as bring them to a width. -/
def padZeros (width : Nat) (digits : List Char) : List Char :=
  List.replicate (width - digits.length) '0' ++ digits

/-- The hexadecimal digits of a number, at least `width` of them. -/
def hexDigits (width n : Nat) : List Char :=
  padZeros width (Nat.toDigits 16 n)

/-- A code point behind a backslash, in the shortest of the three forms that holds it. -/
def escapeCode (n : Nat) : List Char :=
  if n < 0x100 then '\\' :: 'x' :: hexDigits 2 n
  else if n < 0x10000 then '\\' :: 'u' :: hexDigits 4 n
  else '\\' :: 'U' :: hexDigits 8 n

/-- A character as it stands inside a quotation. -/
def quoteChar (mark c : Char) : List Char :=
  if c = mark ∨ c = '\\' then ['\\', c]
  else if c = '\n' then ['\\', 'n']
  else if c = '\r' then ['\\', 'r']
  else if c = '\t' then ['\\', 't']
  else if isPrintable c then [c]
  else escapeCode c.toNat

/-- A byte as it stands inside a quotation: like a character, but every code from 127 on is
written out. -/
def quoteByte (mark c : Char) : List Char :=
  if c.toNat < 127 then quoteChar mark c else escapeCode c.toNat

/-- The quotation mark for a text. -/
def quoteMark (cs : List Char) : Char :=
  if cs.contains '\'' && !cs.contains '"' then '"' else '\''

/-- A text between quotation marks. -/
def quote (text : String) : String :=
  let cs := text.toList
  let mark := quoteMark cs
  String.ofList (mark :: cs.flatMap (quoteChar mark) ++ [mark])

end Text
end TypedRpc
