/-!
# A place in a YAML text

Where a reader stands: what is left of the text, how many characters and lines lie before, and the
column.  Columns decide nesting, so every character moves the cursor one column on, except those
that end a line, which move it to the first column of the next, and the byte order mark, which has
no width.
-/

namespace TypedRpc
namespace Yaml

/-- A place in a text. -/
structure Cursor where
  rest : List Char
  index : Nat
  line : Nat
  column : Nat
  deriving Repr

/-- Characters that end a line. -/
def isBreak (c : Char) : Bool :=
  c = '\r' || c = '\n' || c = '\x85' || c = '\u2028' || c = '\u2029'

/-- Whether a line ends here, or the text does. -/
def endsLine : Option Char → Bool
  | none => true
  | some c => isBreak c

/-- Whether a blank, the end of a line or the end of the text is here. -/
def endsWord : Option Char → Bool
  | none => true
  | some c => isBreak c || c = ' ' || c = '\t'

/-- Like `endsWord`, for constructs after which a tab may not stand. -/
def endsMark : Option Char → Bool
  | none => true
  | some c => isBreak c || c = ' '

/-- Letters, digits, hyphens and underscores: what names of anchors and directives are made of. -/
def isNameChar (c : Char) : Bool :=
  c.isAlphanum || c = '-' || c = '_'

/-- Whether the character is a hexadecimal digit. -/
def isHexDigit (c : Char) : Bool :=
  c.isDigit || ('a' ≤ c && c ≤ 'f') || ('A' ≤ c && c ≤ 'F')

namespace Cursor

/-- The beginning of a text. -/
def start (cs : List Char) : Cursor :=
  ⟨cs, 0, 0, 0⟩

/-- The character here, if the text has not ended. -/
def peek (cursor : Cursor) : Option Char :=
  cursor.rest.head?

/-- The character some places on. -/
def peekAt (cursor : Cursor) (distance : Nat) : Option Char :=
  cursor.rest[distance]?

/-- One character on. -/
def next (cursor : Cursor) : Cursor :=
  match cursor.rest with
  | [] => cursor
  | c :: rest =>
    let breaks := isBreak c && !(c = '\r' && rest.head? = some '\n')
    if breaks then ⟨rest, cursor.index + 1, cursor.line + 1, 0⟩
    else if c = '\ufeff' then ⟨rest, cursor.index + 1, cursor.line, cursor.column⟩
    else ⟨rest, cursor.index + 1, cursor.line, cursor.column + 1⟩

/-- Some characters on. -/
def advance (cursor : Cursor) : Nat → Cursor
  | 0 => cursor
  | n + 1 => cursor.next.advance n

/-- The characters here that satisfy a condition, and the place behind them. -/
def takeWhile (cursor : Cursor) (p : Char → Bool) : List Char × Cursor :=
  let taken := cursor.rest.takeWhile p
  (taken, cursor.advance taken.length)

/-- The place behind the characters that satisfy a condition. -/
def dropWhile (cursor : Cursor) (p : Char → Bool) : Cursor :=
  (cursor.takeWhile p).2

/-- The place behind spaces. -/
def dropSpaces (cursor : Cursor) : Cursor :=
  cursor.dropWhile (· = ' ')

/-- The place behind a comment, if one begins here. -/
def dropComment (cursor : Cursor) : Cursor :=
  if cursor.peek = some '#' then cursor.dropWhile fun c => !isBreak c else cursor

/-- The place behind the end of a line, if a line ends here, and what the end contributes to a
text: a line feed, or the separator of lines or paragraphs itself. -/
def lineBreak (cursor : Cursor) : List Char × Cursor :=
  match cursor.rest with
  | '\r' :: '\n' :: _ => (['\n'], cursor.advance 2)
  | c :: _ =>
    if c = '\r' || c = '\n' || c = '\x85' then (['\n'], cursor.next)
    else if c = '\u2028' || c = '\u2029' then ([c], cursor.next)
    else ([], cursor)
  | [] => ([], cursor)

/-- Whether a row of three marks that separates documents is here. -/
def atSeparator (cursor : Cursor) (mark : Char) : Bool :=
  cursor.rest.take 3 = [mark, mark, mark] && endsWord (cursor.peekAt 3)

/-- Whether a document begins or ends here, given that a line begins here. -/
def atDocumentEdge (cursor : Cursor) : Bool :=
  cursor.atSeparator '-' || cursor.atSeparator '.'

end Cursor
end Yaml
end TypedRpc
