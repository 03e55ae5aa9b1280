import TypedRpc.Text.CharClass

/-!
# Names and literals of the generated language

How a text becomes a string literal, a property name or an enum entry.  In a string literal the
quote, the dollar sign and the backslash are written behind a backslash, and so are the letters
that stand for a line feed, a carriage return and a tab; every other character stands for itself.
A property whose name is a hard keyword is written between backticks.  An enum entry is written in
capitals, digits and underscores, and never begins with a digit.
-/

namespace TypedRpc
namespace Target

/-- The hard keywords: words that cannot name anything without backticks. -/
def keywords : List String := [
  "as", "break", "class", "continue", "do", "else", "false", "for", "fun", "if", "in",
  "interface", "is", "null", "object", "package", "return", "super", "this", "throw", "true",
  "try", "typealias", "typeof", "val", "var", "when", "while"]

/-- A name as it is written in a declaration. -/
def identifier (name : String) : String :=
  if keywords.contains name then "`" ++ name ++ "`" else name

/-- A character as it stands inside a string literal. -/
def escapeChar (c : Char) : List Char :=
  if c = '\\' then ['\\', '\\']
  else if c = '"' then ['\\', '"']
  else if c = '$' then ['\\', '$']
  else if c = '\n' then ['\\', 'n']
  else if c = '\r' then ['\\', 'r']
  else if c = '\t' then ['\\', 't']
  else [c]

/-- The characters of a string literal, quotes included. -/
def stringLiteralChars (cs : List Char) : List Char :=
  '"' :: cs.flatMap escapeChar ++ ['"']

/-- A text as a string literal. -/
def stringLiteral (text : String) : String :=
  String.ofList (stringLiteralChars text.toList)

/-- A character of an enum entry: a letter of the first 128 characters in upper case, a digit, or
an underscore for anything else. -/
def entryChar (c : Char) : Char :=
  if c.isAlphanum then c.toUpper else '_'

/-- Puts an underscore before a name that is empty or begins with a digit. -/
def guardEntry : List Char → List Char
  | [] => ['_']
  | c :: rest => if c.isDigit then '_' :: c :: rest else c :: rest

/-- The characters of the enum entry for a wire value. -/
def enumEntryChars (cs : List Char) : List Char :=
  guardEntry (cs.map entryChar)

/-- The enum entry for a wire value: `in_progress` becomes `IN_PROGRESS`. -/
def enumEntry (value : String) : String :=
  String.ofList (enumEntryChars value.toList)

end Target
end TypedRpc
