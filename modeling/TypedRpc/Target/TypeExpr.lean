import TypedRpc.Text.Blocks

/-!
# Types of the generated language

The types that the generated code mentions: a name, a list of some type, or a type that admits null.
A name may stand for more than an identifier, because the options may give any text as a type; such
a text may end with the question mark that admits null.
-/

namespace TypedRpc
namespace Target

/-- A type of the generated language. -/
inductive TypeExpr where
  | named (name : String)
  | list (item : TypeExpr)
  | nullable (type : TypeExpr)
  deriving DecidableEq, Repr

namespace TypeExpr

/-- The type as it is written. -/
def text : TypeExpr → String
  | .named name => name
  | .list item => "List<" ++ item.text ++ ">"
  | .nullable type => type.text ++ "?"

/-- Whether the type is written with a question mark at its end. -/
def admitsNull (type : TypeExpr) : Bool :=
  type.text.toList.getLast? == some '?'

/-- The type with null among its values. -/
def orNull (type : TypeExpr) : TypeExpr :=
  if type.admitsNull then type else .nullable type

/-- The type without the question marks at its end, as it is written. -/
def baseText (type : TypeExpr) : String :=
  String.ofList (type.text.toList.reverse.dropWhile (· = '?')).reverse

/-- The type inside any number of lists. -/
def innermost : TypeExpr → TypeExpr
  | .list item => item.innermost
  | type => type

end TypeExpr

/-- The type that holds any value. -/
def anyType : TypeExpr := .named "Any"

/-- The type of maps whose fields are not known. -/
def openMap : TypeExpr := .named "Map<String, Any?>"

end Target
end TypedRpc
