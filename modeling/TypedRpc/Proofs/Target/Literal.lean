import Mathlib.Tactic.SplitIfs
import TypedRpc.Target.Literal

/-!
# Reading string literals back

A compiler reads a string literal up to the first quote that does not stand behind a backslash, and
takes a backslash together with the character behind it.  `readText` does the same.  Applied to a
literal that was written for a text it gives the text, and whatever stands behind the literal is
left as it is; so literals may be followed by more text without becoming ambiguous.

* `readLiteral_append`: a literal is read as the text that it was written for.
* `stringLiteralChars_append_inj`: no literal is the beginning of another one.
* `IsEscaped`, `isEscaped_flatMap_escapeChar`: what stands inside a literal.
* `escapeInTurn_eq_flatMap`: one kind of character may be escaped after another, the backslash
  first.
* `stringLiteral_lossless`: the statement about all texts.
-/

namespace TypedRpc
namespace Target

/-- What an escape stands for, by the character behind the backslash.  Escapes by the code of a
character are never written and are not read. -/
def escape? (c : Char) : Option Char :=
  if c = 'n' then some '\n'
  else if c = 'r' then some '\r'
  else if c = 't' then some '\t'
  else if c = 'b' then some '\x08'
  else if ['\\', '"', '$', '\''].contains c then some c
  else none

/-- Puts a character in front of a text that has been read. -/
def readBefore (c : Char) (read : List Char × List Char) : List Char × List Char :=
  (c :: read.1, read.2)

/-- The text of a string literal behind its first quote, and what stands behind the literal.  A
dollar sign, a line feed and a carriage return cannot stand in it as themselves. -/
def readText : List Char → Option (List Char × List Char)
  | [] => none
  | '"' :: rest => some ([], rest)
  | '\\' :: c :: rest =>
    match escape? c with
    | some meant => (readText rest).map (readBefore meant)
    | none => none
  | c :: rest =>
    if ['\\', '$', '\n', '\r'].contains c then none else (readText rest).map (readBefore c)

/-- The text of the string literal that some characters begin with, and what stands behind it. -/
def readLiteral : List Char → Option (List Char × List Char)
  | '"' :: rest => readText rest
  | _ => none

/-- A character is read as itself, in whichever way it is written. -/
theorem readText_escapeChar (c : Char) (rest : List Char) :
    readText (escapeChar c ++ rest) = (readText rest).map (readBefore c) := by
  by_cases backslash : c = '\\'
  · subst backslash; rfl
  by_cases quote : c = '"'
  · subst quote; rfl
  by_cases dollar : c = '$'
  · subst dollar; rfl
  by_cases feed : c = '\n'
  · subst feed; rfl
  by_cases carriage : c = '\r'
  · subst carriage; rfl
  by_cases tab : c = '\t'
  · subst tab; rfl
  simp [escapeChar, readText, backslash, quote, dollar, feed, carriage, tab]

/-- The inside of a literal is read up to the quote that ends it. -/
theorem readText_flatMap_escapeChar (cs rest : List Char) :
    readText (cs.flatMap escapeChar ++ '"' :: rest) = some (cs, rest) := by
  induction cs with
  | nil => rfl
  | cons c cs ih =>
    rw [List.flatMap_cons, List.append_assoc, readText_escapeChar, ih]
    rfl

/-- **A literal is read as the text that it was written for**, whatever stands behind it. -/
theorem readLiteral_append (cs rest : List Char) :
    readLiteral (stringLiteralChars cs ++ rest) = some (cs, rest) := by
  rw [stringLiteralChars, List.append_assoc]
  exact readText_flatMap_escapeChar cs rest

/-- **No literal is the beginning of another one.** -/
theorem stringLiteralChars_append_inj {cs ds rest others : List Char}
    (same : stringLiteralChars cs ++ rest = stringLiteralChars ds ++ others) :
    cs = ds ∧ rest = others := by
  have read := readLiteral_append cs rest
  rw [same, readLiteral_append] at read
  obtain ⟨rfl, rfl⟩ := Prod.mk.inj (Option.some.inj read)
  exact ⟨rfl, rfl⟩

theorem stringLiteral_injective : Function.Injective stringLiteral := by
  intro text other same
  have chars : stringLiteralChars text.toList = stringLiteralChars other.toList :=
    String.ofList_injective same
  exact String.toList_injective
    (stringLiteralChars_append_inj (congrArg (· ++ []) chars)).1

/-! ## The inside of a literal -/

/-- The characters that never stand for themselves inside a literal. -/
def reservedChars : List Char := ['\\', '"', '$', '\n', '\r']

/-- The characters that are written behind a backslash. -/
def escapedChars : List Char := ['\\', '"', '$', 'n', 'r', 't']

/-- Whether characters may stand between the quotes of a literal: each of them stands for itself,
or it follows a backslash that begins one of the six escapes. -/
inductive IsEscaped : List Char → Prop where
  | nil : IsEscaped []
  | plain {c : Char} {rest : List Char} (free : c ∉ reservedChars) (behind : IsEscaped rest) :
      IsEscaped (c :: rest)
  | escape {c : Char} {rest : List Char} (known : c ∈ escapedChars) (behind : IsEscaped rest) :
      IsEscaped ('\\' :: c :: rest)

/-- A character may stand there in the way in which it is written. -/
theorem IsEscaped.escapeChar_append (c : Char) {rest : List Char} (behind : IsEscaped rest) :
    IsEscaped (escapeChar c ++ rest) := by
  unfold escapeChar
  split_ifs with backslash quote dollar feed carriage tab
  · exact .escape (by decide) behind
  · exact .escape (by decide) behind
  · exact .escape (by decide) behind
  · exact .escape (by decide) behind
  · exact .escape (by decide) behind
  · exact .escape (by decide) behind
  · exact .plain (by simp [reservedChars, backslash, quote, dollar, feed, carriage]) behind

theorem isEscaped_flatMap_escapeChar (cs : List Char) : IsEscaped (cs.flatMap escapeChar) := by
  induction cs with
  | nil => exact .nil
  | cons c cs ih => exact ih.escapeChar_append c

/-- A character that neither stands for itself nor follows a backslash is not there at all. -/
theorem IsEscaped.not_mem {cs : List Char} (inside : IsEscaped cs) {mark : Char}
    (reserved : mark ∈ reservedChars) (unescaped : mark ∉ escapedChars) : mark ∉ cs := by
  induction inside with
  | nil => exact List.not_mem_nil
  | plain free _ ih =>
    exact List.not_mem_cons_of_ne_of_not_mem (fun same => free (same ▸ reserved)) ih
  | escape known _ ih =>
    have apart : mark ≠ '\\' := fun same => unescaped (by rw [same]; decide)
    exact List.not_mem_cons_of_ne_of_not_mem apart
      (List.not_mem_cons_of_ne_of_not_mem (fun same => unescaped (same ▸ known)) ih)

/-! ## One kind of character after another -/

/-- Writes something else for every occurrence of a character. -/
def replaceChar (c : Char) (written cs : List Char) : List Char :=
  cs.flatMap fun d => if d = c then written else [d]

/-- The characters that are escaped, and what is written for them.  The backslash comes first,
because what is written for the others holds one. -/
def escapes : List (Char × List Char) := [
  ('\\', ['\\', '\\']), ('"', ['\\', '"']), ('$', ['\\', '$']), ('\n', ['\\', 'n']),
  ('\r', ['\\', 'r']), ('\t', ['\\', 't'])]

/-- Characters in which one kind has been escaped after another. -/
def escapeInTurn (cs : List Char) : List Char :=
  escapes.foldl (fun cs step => replaceChar step.1 step.2 cs) cs

theorem escapeInTurn_append (cs ds : List Char) :
    escapeInTurn (cs ++ ds) = escapeInTurn cs ++ escapeInTurn ds := by
  simp [escapeInTurn, escapes, replaceChar]

/-- What is written for a character is left alone by the steps after its own. -/
theorem escapeInTurn_singleton (c : Char) : escapeInTurn [c] = escapeChar c := by
  unfold escapeChar
  split_ifs with backslash quote dollar feed carriage tab
  · rw [backslash]; rfl
  · rw [quote]; rfl
  · rw [dollar]; rfl
  · rw [feed]; rfl
  · rw [carriage]; rfl
  · rw [tab]; rfl
  · simp [escapeInTurn, escapes, replaceChar, backslash, quote, dollar, feed, carriage, tab]

/-- **Escaping one kind of character after another is escaping character by character.** -/
theorem escapeInTurn_eq_flatMap (cs : List Char) : escapeInTurn cs = cs.flatMap escapeChar := by
  induction cs with
  | nil => rfl
  | cons c cs ih =>
    rw [← List.singleton_append, escapeInTurn_append, escapeInTurn_singleton, ih,
      List.flatMap_append, List.flatMap_singleton]

/-- **A text is written as a literal without loss.**  What stands between the quotes is the text
with one kind of character escaped after another; in it every backslash begins an escape, quotes
and dollar signs stand behind one, and no line ends.  Reading the literal gives the text back and
leaves nothing over, so that different texts have different literals. -/
theorem stringLiteral_lossless (text : String) :
    (stringLiteral text).toList = '"' :: (escapeInTurn text.toList ++ ['"']) ∧
      IsEscaped (escapeInTurn text.toList) ∧
      '\n' ∉ escapeInTurn text.toList ∧ '\r' ∉ escapeInTurn text.toList ∧
      readLiteral (stringLiteral text).toList = some (text.toList, []) ∧
      ∀ other, stringLiteral other = stringLiteral text → other = text := by
  have inside : IsEscaped (escapeInTurn text.toList) := by
    rw [escapeInTurn_eq_flatMap]
    exact isEscaped_flatMap_escapeChar text.toList
  have written : (stringLiteral text).toList = stringLiteralChars text.toList :=
    String.toList_ofList
  have read := readLiteral_append text.toList []
  rw [List.append_nil, ← written] at read
  have shape : (stringLiteral text).toList = '"' :: (escapeInTurn text.toList ++ ['"']) := by
    rw [written, escapeInTurn_eq_flatMap]
    rfl
  refine ⟨shape, inside, ?_, ?_, read, fun other same => stringLiteral_injective same⟩
  · exact inside.not_mem (by decide) (by decide)
  · exact inside.not_mem (by decide) (by decide)

end Target
end TypedRpc
