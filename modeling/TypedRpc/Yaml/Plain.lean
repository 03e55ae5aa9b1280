import TypedRpc.Yaml.Mark

/-!
# Plain scalars

A plain scalar is written without quotes.  It ends before a comment, before a colon that a blank
follows, and inside brackets before anything that could belong to them.  It may go on over several
lines as long as they are indented; the ends of those lines fold like those of quoted scalars.
-/

namespace TypedRpc
namespace Yaml

/-- Characters that no plain scalar begins with, whatever follows. -/
def isIndicator (c : Char) : Bool :=
  "-?:,[]\x7b\x7d#&*!|>'\"%@`".contains c

/-- Whether a plain scalar begins here. -/
def startsPlain (inFlow : Bool) (cursor : Cursor) : Bool :=
  match cursor.peek with
  | none => false
  | some c =>
    if endsWord (some c) then false
    else if !isIndicator c then true
    else !endsWord (cursor.peekAt 1) && (c = '-' || (!inFlow && (c = '?' || c = ':')))

/-- Characters that brackets claim for themselves. -/
def isFlowMark (c : Char) : Bool :=
  c = ',' || c = '[' || c = ']' || c = '{' || c = '}'

/-- The number of characters before the end of a word of a plain scalar. -/
def plainWordLength (inFlow : Bool) : List Char → Nat
  | [] => 0
  | c :: rest =>
    let following := rest.head?
    let colonEnds := c = ':' &&
      (endsWord following || (inFlow && (following.map isFlowMark).getD false))
    let ends := endsWord (some c) || colonEnds || (inFlow && (isFlowMark c || c = '?'))
    if ends then 0 else plainWordLength inFlow rest + 1

/-- What stands between two words of a plain scalar. -/
structure PlainGap where
  /-- What the gap reads as; nothing if the scalar ends here. -/
  chars : List Char
  /-- Whether the gap ends a line. -/
  endsLine : Bool
  behind : Cursor

/-- The blank lines of a gap: their ends and the place behind them, or the place where a document
begins or ends, in `fuel` steps. -/
def readPlainBreaks : (fuel : Nat) → Cursor → Option (List Char) × Cursor
  | 0, cursor => (some [], cursor)
  | fuel + 1, cursor =>
    if cursor.peek = some ' ' then readPlainBreaks fuel cursor.next
    else
      match cursor.lineBreak with
      | ([], behind) => (some [], behind)
      | (ends, behind) =>
        if behind.atDocumentEdge then (none, behind)
        else
          let (more, behind) := readPlainBreaks fuel behind
          (more.map (ends ++ ·), behind)

/-- What stands here between two words of a plain scalar. -/
def readPlainGap (cursor : Cursor) : PlainGap :=
  let (blanks, behind) := cursor.takeWhile (· = ' ')
  match behind.lineBreak with
  | ([], behind) => ⟨blanks, false, behind⟩
  | (first, behind) =>
    if behind.atDocumentEdge then ⟨[], true, behind⟩
    else
      match readPlainBreaks behind.rest.length.succ behind with
      | (none, behind) => ⟨[], true, behind⟩
      | (some more, behind) =>
        let folded := if first ≠ ['\n'] then first else if more.isEmpty then [' '] else []
        ⟨folded ++ more, true, behind⟩

/-- What a plain scalar leaves behind: its characters from the last to the first, whether a line
ended behind its last word, and the place. -/
structure PlainResult where
  done : List Char
  endsLine : Bool
  behind : Cursor

/-- The words of a plain scalar that must be indented to a column, in `fuel` steps.  `gap` is what
stands before the next word. -/
def readPlainWords (inFlow : Bool) (indent : Int) :
    (fuel : Nat) → Cursor → (gap done : List Char) → (endsLine : Bool) → PlainResult
  | 0, cursor, _, done, endsLine => ⟨done, endsLine, cursor⟩
  | fuel + 1, cursor, gap, done, endsLine =>
    let length := plainWordLength inFlow cursor.rest
    if cursor.peek = some '#' || length = 0 then ⟨done, endsLine, cursor⟩
    else
      let word := cursor.rest.take length
      let done := word.reverse ++ (gap.reverse ++ done)
      let next := readPlainGap (cursor.advance length)
      let leaves := !inFlow && (next.behind.column : Int) < indent
      if next.chars.isEmpty || next.behind.peek = some '#' || leaves then
        ⟨done, next.endsLine, next.behind⟩
      else readPlainWords inFlow indent fuel next.behind next.chars done next.endsLine

/-- A plain scalar inside a collection at `parentIndent`. -/
def readPlain (inFlow : Bool) (parentIndent : Int) (cursor : Cursor) : PlainResult :=
  readPlainWords inFlow (parentIndent + 1) (cursor.rest.length + 1) cursor [] [] false

end Yaml
end TypedRpc
