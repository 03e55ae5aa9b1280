import TypedRpc.Text.CharClass

/-!
# Legal names

Serializers tell duplicate names apart by suffixes such as `_1`, so a name in which underscores
stand directly before a digit can clash with another one; and a question mark belongs to no
identifier.  Names with either are refused, and a corrected name is offered beside the refusal:
the underscores before digits go first, the question marks after them.
-/

namespace TypedRpc
namespace Naming

open Text

/-- Whether the text begins with a decimal digit. -/
def startsWithDigit : List Char → Bool
  | [] => false
  | c :: _ => isDigit c

/-- Whether no question mark and no underscore directly before a digit occurs. -/
def isLegalChars : List Char → Bool
  | [] => true
  | c :: rest => c != '?' && !(c == '_' && startsWithDigit rest) && isLegalChars rest

/-- Drops every run of underscores that ends directly before a digit. -/
def joinDigits : List Char → List Char
  | [] => []
  | c :: rest =>
    if c = '_' ∧ startsWithDigit (rest.dropWhile (· = '_')) then joinDigits rest
    else c :: joinDigits rest

/-- Drops every question mark. -/
def dropQuestionMarks (cs : List Char) : List Char :=
  cs.filter (· ≠ '?')

/-- The characters of the corrected name. -/
def suggestChars (cs : List Char) : List Char :=
  dropQuestionMarks (joinDigits cs)

/-- Whether a name may be used for a field. -/
def isLegal (name : String) : Bool :=
  isLegalChars name.toList

/-- The corrected form of a refused name: `field_1` becomes `field1`, `is_valid?` becomes
`is_valid`. -/
def suggest (name : String) : String :=
  String.ofList (suggestChars name.toList)

end Naming
end TypedRpc
