import TypedRpc.Number.Decimal
import TypedRpc.Yaml.Cursor
import TypedRpc.Yaml.Token

/-!
# Anchors, tags and directives

The marks that stand before or instead of a value.  A tag is written in one of three ways: whole
between angle brackets, as a suffix behind a handle that ends with an exclamation mark, or as a lone
exclamation mark.  In a suffix any byte may be written as two hexadecimal digits behind a percent
sign.
-/

namespace TypedRpc
namespace Yaml

/-- Characters that may stand in the suffix of a tag. -/
def isTagChar (c : Char) : Bool :=
  c.isAlphanum || "-;/?:@&=+$,_.!~*'()[]%".contains c

/-- The name of an anchor or an alias, from its mark on. -/
def readAnchor (cursor : Cursor) : Except Failure (String × Cursor) :=
  let (name, behind) := cursor.next.takeWhile isNameChar
  let closes :=
    match behind.peek with
    | some c => endsWord (some c) || "?:,]\x7d%@`".contains c
    | none => true
  if name.isEmpty || !closes then .error .malformed
  else .ok (String.ofList name, behind)

/-- The bytes that percent signs and pairs of hexadecimal digits write, in `fuel` steps. -/
def readEscapedBytes : (fuel : Nat) → Cursor → Except Failure (List UInt8 × Cursor)
  | 0, cursor => .ok ([], cursor)
  | fuel + 1, cursor =>
    match cursor.rest with
    | '%' :: a :: b :: _ =>
      if isHexDigit a && isHexDigit b then do
        let (bytes, behind) ← readEscapedBytes fuel (cursor.advance 3)
        pure ((Number.ofDigits 16 [a, b]).toUInt8 :: bytes, behind)
      else .error .malformed
    | '%' :: _ => .error .malformed
    | _ => .ok ([], cursor)

/-- The suffix of a tag, in `fuel` steps. -/
def readSuffixParts : (fuel : Nat) → Cursor → Except Failure (String × Cursor)
  | 0, cursor => .ok ("", cursor)
  | fuel + 1, cursor =>
    match cursor.peek with
    | some '%' => do
      let (bytes, behind) ← readEscapedBytes cursor.rest.length cursor
      match String.fromUTF8? ⟨bytes.toArray⟩ with
      | none => .error .malformed
      | some decoded =>
        let (rest, behind) ← readSuffixParts fuel behind
        pure (decoded ++ rest, behind)
    | some c =>
      if isTagChar c then do
        let (plain, behind) := cursor.takeWhile fun c => isTagChar c && c ≠ '%'
        let (rest, behind) ← readSuffixParts fuel behind
        pure (String.ofList plain ++ rest, behind)
      else .ok ("", cursor)
    | none => .ok ("", cursor)

/-- The suffix of a tag, which must not be empty. -/
def readSuffix (cursor : Cursor) : Except Failure (String × Cursor) := do
  let (suffix, behind) ← readSuffixParts (cursor.rest.length + 1) cursor
  if behind.index = cursor.index then .error .malformed else pure (suffix, behind)

/-- The handle of a tag: an exclamation mark, or a name between two. -/
def readHandle (cursor : Cursor) : Except Failure (String × Cursor) :=
  match cursor.rest with
  | '!' :: ' ' :: _ => .ok ("!", cursor.next)
  | '!' :: _ =>
    let (name, behind) := cursor.next.takeWhile isNameChar
    if behind.peek = some '!' then .ok ("!" ++ String.ofList name ++ "!", behind.next)
    else .error .malformed
  | _ => .error .malformed

/-- Whether an exclamation mark comes before the next blank. -/
def namesHandle (cs : List Char) : Bool :=
  (cs.takeWhile fun c => !endsMark (some c)).contains '!'

/-- A tag. -/
def readTag (cursor : Cursor) : Except Failure (TagToken × Cursor) := do
  let (tag, behind) ←
    match cursor.peekAt 1 with
    | some '<' => do
      let (suffix, behind) ← readSuffix (cursor.advance 2)
      if behind.peek = some '>' then pure (⟨none, suffix⟩, behind.next)
      else Except.error Failure.malformed
    | following => do
      if endsWord following then pure (⟨none, "!"⟩, cursor.next)
      else if namesHandle (cursor.rest.drop 1) then do
        let (handle, behind) ← readHandle cursor
        let (suffix, behind) ← readSuffix behind
        pure (⟨some handle, suffix⟩, behind)
      else do
        let (suffix, behind) ← readSuffix cursor.next
        pure (⟨some "!", suffix⟩, behind)
  if endsMark behind.peek then pure (tag, behind) else .error .malformed

/-- A number in a directive. -/
def readVersionPart (cursor : Cursor) : Except Failure (Nat × Cursor) :=
  let (digits, behind) := cursor.takeWhile Char.isDigit
  if digits.isEmpty then .error .malformed
  else .ok (Number.ofDigits 10 digits, behind)

/-- The version that a directive demands. -/
def readVersion (cursor : Cursor) : Except Failure (Directive × Cursor) := do
  let (major, behind) ← readVersionPart cursor.dropSpaces
  if behind.peek = some '.' then
    let (_, behind) ← readVersionPart behind.next
    if endsMark behind.peek then pure (.version major, behind) else .error .malformed
  else .error .malformed

/-- The handle that a directive declares. -/
def readTagDirective (cursor : Cursor) : Except Failure (Directive × Cursor) := do
  let (handle, behind) ← readHandle cursor.dropSpaces
  if behind.peek = some ' ' then
    let (tagPrefix, behind) ← readSuffix behind.dropSpaces
    if endsMark behind.peek then pure (.tag handle tagPrefix, behind) else .error .malformed
  else .error .malformed

/-- The rest of a line that may hold a comment only. -/
def readIgnoredLine (cursor : Cursor) : Except Failure (Unit × Cursor) :=
  let behind := cursor.dropSpaces.dropComment
  if endsLine behind.peek then .ok ((), behind.lineBreak.2) else .error .malformed

/-- A directive, from its percent sign on. -/
def readDirective (cursor : Cursor) : Except Failure (Directive × Cursor) := do
  let (name, behind) := cursor.next.takeWhile isNameChar
  if name.isEmpty || !endsMark behind.peek then .error .malformed
  else
    let (directive, behind) ←
      match String.ofList name with
      | "YAML" => readVersion behind
      | "TAG" => readTagDirective behind
      | _ => pure (.other, behind.dropWhile fun c => !isBreak c)
    let (_, behind) ← readIgnoredLine behind
    pure (directive, behind)

end Yaml
end TypedRpc
