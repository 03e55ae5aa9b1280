import TypedRpc.Breakdown
import TypedRpc.Schema.Basic
import TypedRpc.Target.Literal
import TypedRpc.Target.TypeExpr
import TypedRpc.Value.Shown

/-!
# Default values of input fields

A default is written as a literal: texts between quotes, booleans and numbers as they are.  Any
other value has no literal and becomes null.  A default that cannot be a value of the declared type
is written all the same; the mismatch is only warned about.

An integer has a literal however long it is, but one that is too long cannot be written.  In a
warning every value is shown as it is.
-/

namespace TypedRpc

open Target (TypeExpr)

/-- What is odd about a default. -/
inductive DefaultWarning where
  | noLiteral (value : Value) (field : String)
  | mismatch (value : Value) (field type : String)
  deriving Repr

/-- The wording of a warning. -/
def DefaultWarning.message : DefaultWarning → String
  | .noLiteral value field =>
    "Default value " ++ value.shown ++ " of field '" ++ field ++
      "' has no Kotlin literal form; using null"
  | .mismatch value field type =>
    "Default value " ++ value.shown ++ " of field '" ++ field ++
      "' does not match its declared type " ++ type

/-- The literal of a value, and the types that it is a literal of. -/
def Value.literal? : Value → Option (String × List String)
  | .bool b => some (if b then "true" else "false", ["Boolean"])
  | .int n => some (toString n, ["Int", "Double", "String"])
  | .float x => some (x.text, ["Int", "Double", "String"])
  | .text s => some (Target.stringLiteral s, ["String"])
  | _ => none

/-- The initializer for the default of a field, if it has one. -/
def Field.defaultLiteral? (field : FieldSpec) : Option String :=
  match field.default with
  | .null => none
  | value => some ((value.literal?.map Prod.fst).getD "null")

/-- Fails where the default of a field cannot be written. -/
def Field.checkDefault (field : FieldSpec) : Except Breakdown Unit :=
  match field.default with
  | .int n => if Number.isWritable n then .ok () else .error .unwritableInteger
  | _ => .ok ()

/-- What is odd about the default of a field that is declared with some type. -/
def Field.defaultWarning? (field : FieldSpec) (type : TypeExpr) : Option DefaultWarning :=
  match field.default with
  | .null => none
  | value =>
    match value.literal? with
    | none => some (.noLiteral value field.name)
    | some (_, expected) =>
      if expected.contains type.baseText then none
      else some (.mismatch value field.name type.baseText)

end TypedRpc
