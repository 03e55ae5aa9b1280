import TypedRpc.Yaml.Mark

/-!
# Block scalars

A block scalar is a run of lines that are indented more than what they belong to.  A literal one
keeps its lines; a folded one joins lines that begin with something other than a blank.  An
indicator says what becomes of the ends of lines behind the last line: one is kept by default, none
behind a minus sign, all behind a plus sign.  The indentation is that of the first line with
something on it, unless a digit gives it.
-/

namespace TypedRpc
namespace Yaml

/-- What becomes of the ends of lines behind the last line. -/
inductive Chomping where
  | clip
  | strip
  | keep
  deriving DecidableEq, Repr

/-- The chomping that a sign asks for. -/
def chomping? : Option Char → Option Chomping
  | some '+' => some .keep
  | some '-' => some .strip
  | _ => none

/-- The digit of an indentation, if one is here. -/
def readIncrement (cursor : Cursor) : Except Failure (Option Nat × Cursor) :=
  match cursor.peek with
  | some '0' => .error .malformed
  | some c =>
    if c.isDigit then .ok (some (Number.digitValue c), cursor.next) else .ok (none, cursor)
  | none => .ok (none, cursor)

/-- The indicators of a block scalar in either order. -/
def readIndicators (cursor : Cursor) : Except Failure ((Chomping × Option Nat) × Cursor) := do
  let (chomping, increment, behind) ←
    match chomping? cursor.peek with
    | some chomping => do
      let (increment, behind) ← readIncrement cursor.next
      pure (chomping, increment, behind)
    | none => do
      let (increment, behind) ← readIncrement cursor
      match increment, chomping? behind.peek with
      | some _, some chomping => pure (chomping, increment, behind.next)
      | _, _ => pure (Chomping.clip, increment, behind)
  if endsMark behind.peek then pure ((chomping, increment), behind) else .error .malformed

/-- Blank lines before the first line: their ends, the greatest column reached by spaces, and the
place behind them, in `fuel` steps. -/
def readLeadingBreaks : (fuel : Nat) → Cursor → (widest : Nat) → List Char × Nat × Cursor
  | 0, cursor, widest => ([], widest, cursor)
  | fuel + 1, cursor, widest =>
    if cursor.peek = some ' ' then
      let behind := cursor.next
      readLeadingBreaks fuel behind (max widest behind.column)
    else
      match cursor.lineBreak with
      | ([], behind) => ([], widest, behind)
      | (ends, behind) =>
        let (more, widest, behind) := readLeadingBreaks fuel behind widest
        (ends ++ more, widest, behind)

/-- The place behind spaces, but not beyond a column. -/
def dropIndent (indent : Nat) (cursor : Cursor) : Cursor :=
  let spaces := (cursor.rest.takeWhile (· = ' ')).length
  cursor.advance (min spaces (indent - cursor.column))

/-- Blank lines within a block scalar: their ends one by one, and the place behind them, in `fuel`
steps. -/
def readInnerBreaks (indent : Nat) : (fuel : Nat) → Cursor → List Char × Cursor
  | 0, cursor => ([], cursor)
  | fuel + 1, cursor =>
    let behind := dropIndent indent cursor
    match behind.lineBreak with
    | ([], behind) => ([], behind)
    | (ends, behind) =>
      let (more, behind) := readInnerBreaks indent fuel behind
      (ends ++ more, behind)

/-- Whether a blank begins a line. -/
def startsBlank (cursor : Cursor) : Bool :=
  cursor.peek = some ' ' || cursor.peek = some '\t'

/-- The lines of a block scalar from the last character to the first, the ends of lines behind the
last one, and the place behind them, in `fuel` steps.  `breaks` are the ends of the blank lines
before the line. -/
def readBlockLines (folded : Bool) (indent : Nat) :
    (fuel : Nat) → Cursor → (breaks done : List Char) → List Char × List Char × List Char × Cursor
  | 0, cursor, breaks, done => (done, [], breaks, cursor)
  | fuel + 1, cursor, breaks, done =>
    let (line, behind) := cursor.takeWhile fun c => !isBreak c
    let done := line.reverse ++ (breaks.reverse ++ done)
    let (lineEnd, behind) := behind.lineBreak
    let (following, behind) := readInnerBreaks indent behind.rest.length.succ behind
    if behind.column = indent && !behind.rest.isEmpty then
      let joins := folded && lineEnd = ['\n'] && !startsBlank cursor && !startsBlank behind
      let joint := if joins then (if following.isEmpty then [' '] else []) else lineEnd
      readBlockLines folded indent fuel behind following (joint.reverse ++ done)
    else (done, lineEnd, following, behind)

/-- A block scalar, from its indicator on, inside a collection at `parentIndent`. -/
def readBlock (folded : Bool) (parentIndent : Int) (cursor : Cursor) :
    Except Failure (String × Cursor) := do
  let ((chomping, increment), behind) ← readIndicators cursor.next
  let (_, behind) ← readIgnoredLine behind
  let least := max 1 (parentIndent + 1).toNat
  let (breaks, indent, behind) :=
    match increment with
    | none =>
      let (breaks, widest, behind) := readLeadingBreaks behind.rest.length.succ behind 0
      (breaks, max least widest, behind)
    | some n =>
      let indent := least + n - 1
      let (breaks, behind) := readInnerBreaks indent behind.rest.length.succ behind
      (breaks, indent, behind)
  let (done, lineEnd, trailing, behind) :=
    if behind.column = indent && !behind.rest.isEmpty then
      readBlockLines folded indent behind.rest.length behind breaks []
    else ([], [], breaks, behind)
  let tail :=
    match chomping with
    | .strip => []
    | .clip => lineEnd
    | .keep => lineEnd ++ trailing
  pure (String.ofList (done.reverse ++ tail), behind)

end Yaml
end TypedRpc
