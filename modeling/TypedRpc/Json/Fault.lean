import TypedRpc.Value.Basic

/-!
# Faults of JSON texts

What can be wrong with a text that should be JSON, and where.  A fault is reported by line and
column, both counted from one, and by the number of characters before it.
-/

namespace TypedRpc
namespace Json

/-- What is wrong with a JSON text. -/
inductive FaultKind where
  | expectedValue
  | expectedKey
  | expectedColon
  | expectedComma
  | extraData
  | unterminatedString
  | invalidEscape
  | invalidCodeEscape
  | controlCharacter
  | byteOrderMark
  deriving DecidableEq, Repr

/-- The wording for a kind of fault. -/
def FaultKind.text : FaultKind → String
  | .expectedValue => "Expecting value"
  | .expectedKey => "Expecting property name enclosed in double quotes"
  | .expectedColon => "Expecting ':' delimiter"
  | .expectedComma => "Expecting ',' delimiter"
  | .extraData => "Extra data"
  | .unterminatedString => "Unterminated string starting at"
  | .invalidEscape => "Invalid \\escape"
  | .invalidCodeEscape => "Invalid \\uXXXX escape"
  | .controlCharacter => "Invalid control character at"
  | .byteOrderMark => "Unexpected UTF-8 BOM (decode using utf-8-sig)"

/-- A fault and the number of characters before it. -/
structure Fault where
  kind : FaultKind
  offset : Nat
  deriving DecidableEq, Repr

/-- The line of an offset, counted from one. -/
def lineAt (cs : List Char) (offset : Nat) : Nat :=
  (cs.take offset).count '\n' + 1

/-- The column of an offset, counted from one. -/
def columnAt (cs : List Char) (offset : Nat) : Nat :=
  ((cs.take offset).reverse.takeWhile (· ≠ '\n')).length + 1

/-- The wording of a fault in a text. -/
def Fault.message (fault : Fault) (cs : List Char) : String :=
  fault.kind.text ++ ": line " ++ toString (lineAt cs fault.offset) ++ " column " ++
    toString (columnAt cs fault.offset) ++ " (char " ++ toString fault.offset ++ ")"

/-- Why a text cannot be read: it is no JSON, an integer in it is too long to be converted, or a
collection stands inside too many others. -/
inductive Failure where
  | syntaxFault (fault : Fault)
  | integerTooLong (digits : Nat)
  | tooDeep (form : CollectionForm)
  deriving DecidableEq, Repr

end Json
end TypedRpc
