import TypedRpc.Yaml.Block
import TypedRpc.Yaml.Plain
import TypedRpc.Yaml.Quoted

/-!
# From columns to brackets

The tokens of a YAML text.  Outside brackets, collections begin and end by columns: a deeper column
opens a collection, a shallower one closes all that are deeper.

Whether a scalar is the key of a map shows only at the colon behind it.  Every token that could be
such a key is therefore remembered, at most one for each level of brackets, until the colon comes or
can no longer come: on another line, or too far away.  When it comes, the tokens that open the key
and the map are put in front of the remembered one.
-/

namespace TypedRpc
namespace Yaml

/-- A token that could be the key of a map. -/
structure KeyCandidate where
  level : Nat
  tokenIndex : Nat
  required : Bool
  index : Nat
  line : Nat
  column : Nat
  deriving Repr

/-- What is known between two tokens. -/
structure Lexer where
  cursor : Cursor
  tokens : Array Token := #[]
  /-- The number of brackets that are open. -/
  level : Nat := 0
  /-- The column of the innermost collection outside brackets. -/
  indent : Int := -1
  /-- The columns of the collections around it. -/
  outer : List Int := []
  keyAllowed : Bool := true
  candidates : List KeyCandidate := []
  deriving Repr

/-- The farthest that a key may be from its colon. -/
def maxKeyLength : Nat := 1024

namespace Lexer

/-- Whether brackets are open. -/
def inFlow (lexer : Lexer) : Bool :=
  lexer.level ≠ 0

/-- Adds a token. -/
def push (lexer : Lexer) (token : Token) : Lexer :=
  { lexer with tokens := lexer.tokens.push token }

/-- Adds a token that was read up to a place. -/
def pushAt (lexer : Lexer) (token : Token) (behind : Cursor) : Lexer :=
  { lexer with tokens := lexer.tokens.push token, cursor := behind }

/-- Whether the candidate can no longer be a key. -/
def isStale (lexer : Lexer) (candidate : KeyCandidate) : Bool :=
  candidate.line ≠ lexer.cursor.line || maxKeyLength < lexer.cursor.index - candidate.index

/-- Forgets the candidates that can no longer be keys. -/
def dropStale (lexer : Lexer) : Except Failure Lexer :=
  if lexer.candidates.any fun candidate => lexer.isStale candidate && candidate.required then
    .error .malformed
  else
    .ok { lexer with candidates := lexer.candidates.filter (!lexer.isStale ·) }

/-- The candidate of the present level. -/
def candidate? (lexer : Lexer) : Option KeyCandidate :=
  lexer.candidates.find? (·.level == lexer.level)

/-- The lexer without the candidate of the present level. -/
def withoutCandidate (lexer : Lexer) : Lexer :=
  { lexer with candidates := lexer.candidates.filter (·.level != lexer.level) }

/-- Forgets the candidate of the present level, which must not be one that has to be a key. -/
def dropCandidate (lexer : Lexer) : Except Failure Lexer :=
  match lexer.candidate? with
  | some candidate => if candidate.required then .error .malformed else .ok lexer.withoutCandidate
  | none => .ok lexer

/-- Remembers the next token as a possible key. -/
def saveCandidate (lexer : Lexer) : Except Failure Lexer :=
  if lexer.keyAllowed then do
    let cursor := lexer.cursor
    let required := !lexer.inFlow && lexer.indent = (cursor.column : Int)
    let lexer ← lexer.dropCandidate
    let candidate : KeyCandidate :=
      ⟨lexer.level, lexer.tokens.size, required, cursor.index, cursor.line, cursor.column⟩
    pure { lexer with candidates := lexer.candidates ++ [candidate] }
  else pure lexer

/-- Closes the collections that are deeper than a column, given the columns around them. -/
def closeDeeper (column : Int) (lexer : Lexer) : List Int → Lexer
  | [] => lexer
  | around :: outer =>
    if column < lexer.indent then
      closeDeeper column { lexer.push .blockEnd with indent := around, outer := outer } outer
    else lexer

/-- Closes the collections that are deeper than a column, unless brackets are open. -/
def unwind (lexer : Lexer) (column : Int) : Lexer :=
  if lexer.inFlow then lexer else closeDeeper column lexer lexer.outer

/-- Whether a column is deeper than the innermost collection. -/
def isDeeper (lexer : Lexer) (column : Nat) : Bool :=
  lexer.indent < (column : Int)

/-- Makes a column that of the innermost collection. -/
def enter (lexer : Lexer) (column : Nat) : Lexer :=
  { lexer with indent := column, outer := lexer.indent :: lexer.outer }

/-- Opens a collection here, if the column is deeper than the innermost one. -/
def openBlock (lexer : Lexer) (token : Token) : Lexer :=
  let column := lexer.cursor.column
  if lexer.isDeeper column then (lexer.push token).enter column else lexer

/-- The place of the next token: behind spaces, comments and ends of lines, in `fuel` steps.  A new
line outside brackets may begin with a key. -/
def skipToToken : (fuel : Nat) → Lexer → Lexer
  | 0, lexer => lexer
  | fuel + 1, lexer =>
    let cursor := lexer.cursor.dropSpaces.dropComment
    match cursor.lineBreak with
    | ([], cursor) => { lexer with cursor := cursor }
    | (_, cursor) =>
      let keyAllowed := lexer.keyAllowed || !lexer.inFlow
      skipToToken fuel { lexer with cursor := cursor, keyAllowed := keyAllowed }

/-- A directive. -/
def fetchDirective (lexer : Lexer) : Except Failure Lexer := do
  let lexer ← (lexer.unwind (-1)).dropCandidate
  let (directive, behind) ← readDirective lexer.cursor
  pure ({ lexer with keyAllowed := false }.pushAt (.directive directive) behind)

/-- The begin or the end of a document. -/
def fetchSeparator (lexer : Lexer) (token : Token) : Except Failure Lexer := do
  let lexer ← (lexer.unwind (-1)).dropCandidate
  pure ({ lexer with keyAllowed := false }.pushAt token (lexer.cursor.advance 3))

/-- An opening bracket. -/
def fetchOpen (lexer : Lexer) (token : Token) : Except Failure Lexer := do
  let lexer ← lexer.saveCandidate
  pure ({ lexer with level := lexer.level + 1, keyAllowed := true }.pushAt token lexer.cursor.next)

/-- A closing bracket. -/
def fetchClose (lexer : Lexer) (token : Token) : Except Failure Lexer := do
  let lexer ← lexer.dropCandidate
  pure ({ lexer with level := lexer.level - 1, keyAllowed := false }.pushAt token lexer.cursor.next)

/-- A comma. -/
def fetchFlowEntry (lexer : Lexer) : Except Failure Lexer := do
  let lexer ← lexer.dropCandidate
  pure ({ lexer with keyAllowed := true }.pushAt .flowEntry lexer.cursor.next)

/-- The mark of an item. -/
def fetchBlockEntry (lexer : Lexer) : Except Failure Lexer := do
  if !lexer.inFlow && !lexer.keyAllowed then .error .malformed
  else
    let lexer := if lexer.inFlow then lexer else lexer.openBlock .blockSequenceStart
    let lexer ← lexer.dropCandidate
    pure ({ lexer with keyAllowed := true }.pushAt .blockEntry lexer.cursor.next)

/-- The mark of a key. -/
def fetchKey (lexer : Lexer) : Except Failure Lexer := do
  if !lexer.inFlow && !lexer.keyAllowed then .error .malformed
  else
    let lexer := if lexer.inFlow then lexer else lexer.openBlock .blockMappingStart
    let lexer ← lexer.dropCandidate
    pure ({ lexer with keyAllowed := !lexer.inFlow }.pushAt .key lexer.cursor.next)

/-- Puts tokens in front of a remembered one. -/
def insertBefore (tokens : Array Token) (position : Nat) (added : List Token) : Array Token :=
  tokens.extract 0 position ++ added.toArray ++ tokens.extract position tokens.size

/-- The colon behind a remembered key. -/
def fetchValueOf (lexer : Lexer) (candidate : KeyCandidate) : Lexer :=
  let lexer := lexer.withoutCandidate
  let opens := !lexer.inFlow && lexer.isDeeper candidate.column
  let added := if opens then [.blockMappingStart, .key] else [.key]
  let tokens := insertBefore lexer.tokens candidate.tokenIndex added
  let lexer := if opens then lexer.enter candidate.column else lexer
  { lexer with tokens := tokens, keyAllowed := false }.pushAt .value lexer.cursor.next

/-- The colon behind a key. -/
def fetchValue (lexer : Lexer) : Except Failure Lexer := do
  match lexer.candidate? with
  | some candidate => pure (lexer.fetchValueOf candidate)
  | none =>
    if !lexer.inFlow && !lexer.keyAllowed then .error .malformed
    else
      let lexer := if lexer.inFlow then lexer else lexer.openBlock .blockMappingStart
      let lexer ← lexer.dropCandidate
      pure ({ lexer with keyAllowed := !lexer.inFlow }.pushAt .value lexer.cursor.next)

/-- A token that could be a key or stands before one. -/
def fetchKeyPart {α : Type} (lexer : Lexer) (read : Cursor → Except Failure (α × Cursor))
    (token : α → Token) : Except Failure Lexer := do
  let lexer ← lexer.saveCandidate
  let (value, behind) ← read lexer.cursor
  pure ({ lexer with keyAllowed := false }.pushAt (token value) behind)

/-- A block scalar. -/
def fetchBlock (lexer : Lexer) (folded : Bool) : Except Failure Lexer := do
  let lexer ← lexer.dropCandidate
  let (text, behind) ← readBlock folded lexer.indent lexer.cursor
  pure ({ lexer with keyAllowed := true }.pushAt (.scalar text false) behind)

/-- A plain scalar. -/
def fetchPlain (lexer : Lexer) : Except Failure Lexer := do
  let lexer ← lexer.saveCandidate
  let found := readPlain lexer.inFlow lexer.indent lexer.cursor
  let text := String.ofList found.done.reverse
  pure ({ lexer with keyAllowed := found.endsLine }.pushAt (.scalar text true) found.behind)

/-- The next token, at a place where the text goes on with a character. -/
def fetch (lexer : Lexer) (c : Char) : Except Failure Lexer :=
  let cursor := lexer.cursor
  let spaced := endsWord (cursor.peekAt 1)
  if c = '%' && cursor.column = 0 then lexer.fetchDirective
  else if cursor.column = 0 && cursor.atSeparator '-' then lexer.fetchSeparator .documentStart
  else if cursor.column = 0 && cursor.atSeparator '.' then lexer.fetchSeparator .documentEnd
  else if c = '[' then lexer.fetchOpen .flowSequenceStart
  else if c = '{' then lexer.fetchOpen .flowMappingStart
  else if c = ']' then lexer.fetchClose .flowSequenceEnd
  else if c = '}' then lexer.fetchClose .flowMappingEnd
  else if c = ',' then lexer.fetchFlowEntry
  else if c = '-' && spaced then lexer.fetchBlockEntry
  else if c = '?' && (lexer.inFlow || spaced) then lexer.fetchKey
  else if c = ':' && (lexer.inFlow || spaced) then lexer.fetchValue
  else if c = '*' then lexer.fetchKeyPart readAnchor .alias
  else if c = '&' then lexer.fetchKeyPart readAnchor .anchor
  else if c = '!' then lexer.fetchKeyPart readTag .tag
  else if c = '|' && !lexer.inFlow then lexer.fetchBlock false
  else if c = '>' && !lexer.inFlow then lexer.fetchBlock true
  else if c = '\'' then lexer.fetchKeyPart (readQuoted false) (.scalar · false)
  else if c = '"' then lexer.fetchKeyPart (readQuoted true) (.scalar · false)
  else if startsPlain lexer.inFlow cursor then lexer.fetchPlain
  else .error .malformed

/-- The tokens from here on, in `fuel` steps. -/
def run : (fuel : Nat) → Lexer → Except Failure (List Token)
  | 0, _ => .error .malformed
  | fuel + 1, lexer => do
    let lexer := lexer.skipToToken (lexer.cursor.rest.length + 1)
    let lexer ← lexer.dropStale
    let lexer := lexer.unwind lexer.cursor.column
    match lexer.cursor.peek with
    | none => do
      let lexer ← (lexer.unwind (-1)).dropCandidate
      pure lexer.tokens.toList
    | some c => do
      let lexer ← lexer.fetch c
      lexer.run fuel

end Lexer

/-- Characters that a text may hold. -/
def isAllowed (c : Char) : Bool :=
  let n := c.toNat
  c = '\t' || c = '\n' || c = '\r' || (0x20 ≤ n && n ≤ 0x7e) || n = 0x85 ||
    (0xa0 ≤ n && n ≤ 0xfffd) || 0x10000 ≤ n

/-- The tokens of a text.  A byte order mark at its beginning is skipped. -/
def tokens (cs : List Char) : Except Failure (List Token) :=
  if cs.all isAllowed then
    let cursor := Cursor.start cs
    let cursor := if cs.head? = some '\ufeff' then cursor.next else cursor
    Lexer.run (cs.length + 2) { cursor := cursor }
  else .error .malformed

end Yaml
end TypedRpc
