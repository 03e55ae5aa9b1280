import TypedRpc.Yaml.Mark

/-!
# Quoted scalars

Between single quotes a quote is written twice and nothing else is special.  Between double quotes a
backslash begins an escape: a letter for a control character, or a code of two, four or eight
hexadecimal digits.

Lines are folded in both: blanks around the end of a line vanish, one end of a line reads as a space
and more of them as one line feed less than there are.  A backslash at the end of a line joins it to
the next without a space.
-/

namespace TypedRpc
namespace Yaml

/-- The character that a letter stands for behind a backslash. -/
def escapedChar? (c : Char) : Option Char :=
  [('0', '\x00'), ('a', '\x07'), ('b', '\x08'), ('t', '\t'), ('\t', '\t'), ('n', '\n'),
    ('v', '\x0b'), ('f', '\x0c'), ('r', '\r'), ('e', '\x1b'), (' ', ' '), ('"', '"'),
    ('\\', '\\'), ('/', '/'), ('N', '\x85'), ('_', '\xa0'), ('L', '\u2028'),
    ('P', '\u2029')].lookup c

/-- The number of hexadecimal digits of a code behind a letter. -/
def codeWidth? (c : Char) : Option Nat :=
  [('x', 2), ('u', 4), ('U', 8)].lookup c

/-- The character with a code.  Half of a pair is no character: it is replaced by the one for what
cannot be read. -/
def charOfCode (code : Nat) : Except Failure Char :=
  if 0x80000000 ≤ code then .error .codeTooLarge
  else if 0x110000 ≤ code then .error .codeOutOfRange
  else if 0xD800 ≤ code ∧ code < 0xE000 then .ok '\ufffd'
  else .ok (Char.ofNat code)

/-- The ends of lines here, with the blanks around them, in `fuel` steps. -/
def readFoldedBreaks : (fuel : Nat) → Cursor → Except Failure (List Char × Cursor)
  | 0, cursor => .ok ([], cursor)
  | fuel + 1, cursor =>
    if cursor.atDocumentEdge then .error .malformed
    else
      let behind := cursor.dropWhile fun c => c = ' ' || c = '\t'
      match behind.lineBreak with
      | ([], behind) => .ok ([], behind)
      | (ends, behind) => do
        let (more, behind) ← readFoldedBreaks fuel behind
        pure (ends ++ more, behind)

/-- One step through a quoted scalar: what it contributes, or its end. -/
inductive QuotedStep where
  | finish
  | part (chars : List Char) (behind : Cursor)

/-- An escape behind a backslash. -/
def readEscape (cursor : Cursor) : Except Failure QuotedStep :=
  match cursor.peek with
  | none => .error .malformed
  | some c =>
    match escapedChar? c, codeWidth? c with
    | some value, _ => .ok (.part [value] cursor.next)
    | none, some width => do
      let digits := cursor.next.rest.take width
      if digits.length = width && digits.all isHexDigit then
        let value ← charOfCode (Number.ofDigits 16 digits)
        pure (.part [value] (cursor.advance (width + 1)))
      else .error .malformed
    | none, none => do
      if isBreak c then
        let (ends, behind) ← readFoldedBreaks cursor.rest.length cursor.lineBreak.2
        pure (.part ends behind)
      else .error .malformed

/-- Blanks and ends of lines in a quoted scalar. -/
def readQuotedBlanks (cursor : Cursor) : Except Failure QuotedStep :=
  let (blanks, behind) := cursor.takeWhile fun c => c = ' ' || c = '\t'
  match behind.lineBreak with
  | ([], behind) =>
    if behind.rest.isEmpty then .error .malformed else .ok (.part blanks behind)
  | (first, behind) => do
    let (more, behind) ← readFoldedBreaks behind.rest.length.succ behind
    let folded := if first ≠ ['\n'] then first else if more.isEmpty then [' '] else []
    pure (.part (folded ++ more) behind)

/-- One step through a scalar between single or double quotes. -/
def readQuotedStep (double : Bool) (cursor : Cursor) : Except Failure QuotedStep :=
  match cursor.rest with
  | [] => .error .malformed
  | c :: rest =>
    if c = '\'' && !double then
      if rest.head? = some '\'' then .ok (.part ['\''] (cursor.advance 2)) else .ok .finish
    else if c = '"' && double then .ok .finish
    else if c = '\\' && double then readEscape cursor.next
    else if c = ' ' || c = '\t' || isBreak c then readQuotedBlanks cursor
    else .ok (.part [c] cursor.next)

/-- A quoted scalar behind its first quote, in `fuel` steps. -/
def readQuotedFrom (double : Bool) : (fuel : Nat) → Cursor → (done : List Char) →
    Except Failure (List Char × Cursor)
  | 0, _, _ => .error .malformed
  | fuel + 1, cursor, done => do
    match ← readQuotedStep double cursor with
    | .finish => pure (done, cursor.next)
    | .part chars behind => readQuotedFrom double fuel behind (chars.reverse ++ done)

/-- A quoted scalar, from its first quote on. -/
def readQuoted (double : Bool) (cursor : Cursor) : Except Failure (String × Cursor) := do
  let (done, behind) ← readQuotedFrom double (cursor.rest.length + 1) cursor.next []
  pure (String.ofList done.reverse, behind)

end Yaml
end TypedRpc
