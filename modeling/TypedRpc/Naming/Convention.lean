import TypedRpc.Text.Case

/-!
# Naming conventions

A name in a schema document is a row of words.  How the words are told apart depends on the
convention that the name is brought to:

* **camelCase** cuts at underscores and hyphens only, and touches nothing but the first letter of
  each word;
* **PascalCase** cuts at underscores, hyphens, dots, blanks and where a lower-case letter or digit
  meets a capital, and lowers everything after the first letter of each word;
* **snake_case** cuts like PascalCase at the meeting of cases, and turns hyphens into underscores.

A name without any word is left alone by camelCase and vanishes under PascalCase.  Everything is
defined on lists of characters; the functions on `String` only convert.
-/

namespace TypedRpc
namespace Naming

open Text

/-- The pieces between separators, empty ones included. -/
def pieces (isSeparator : Char → Bool) : List Char → List (List Char)
  | [] => [[]]
  | c :: rest =>
    if isSeparator c then [] :: pieces isSeparator rest
    else
      match pieces isSeparator rest with
      | [] => [[c]]
      | piece :: others => (c :: piece) :: others

/-- The words of a name: the pieces that hold something. -/
def words (isSeparator : Char → Bool) (cs : List Char) : List (List Char) :=
  (pieces isSeparator cs).filter (!·.isEmpty)

/-- A lower-case letter or digit of the first 128 characters: what a capital may follow. -/
def endsLowerWord (c : Char) : Bool :=
  c.isLower || c.isDigit

/-- Puts an underscore wherever a capital follows a lower-case letter or digit. -/
def markCapitals : List Char → List Char
  | [] => []
  | [c] => [c]
  | c :: d :: rest =>
    if endsLowerWord c && d.isUpper then c :: '_' :: markCapitals (d :: rest)
    else c :: markCapitals (d :: rest)

/-- A word with its first letter in lower case. -/
def decapitalize : List Char → List Char
  | [] => []
  | c :: rest => lowerChar c ++ rest

/-- A word with its first letter in upper case. -/
def capitalize : List Char → List Char
  | [] => []
  | c :: rest => upperChar c ++ rest

/-- A word with its first letter in upper case and all others in lower case. -/
def capitalizeOnly : List Char → List Char
  | [] => []
  | c :: rest => upperChar c ++ lower rest

/-- The separators that camelCase removes. -/
def isJoiner (c : Char) : Bool :=
  c = '_' || c = '-'

/-- The separators that PascalCase removes. -/
def isWordBreak (c : Char) : Bool :=
  isJoiner c || c = '.' || isBlank c

/-- The characters of a name in camelCase. -/
def camelCaseChars (cs : List Char) : List Char :=
  match words isJoiner cs with
  | [] => cs
  | first :: others => decapitalize first ++ (others.map capitalize).flatten

/-- The characters of a name in PascalCase. -/
def pascalCaseChars (cs : List Char) : List Char :=
  ((words isWordBreak (markCapitals cs)).map capitalizeOnly).flatten

/-- Leaves one underscore of every run of them. -/
def squeezeUnderscores : List Char → List Char
  | [] => []
  | [c] => [c]
  | c :: d :: rest =>
    if c = '_' && d = '_' then squeezeUnderscores (d :: rest)
    else c :: squeezeUnderscores (d :: rest)

/-- Removes the underscores at both ends. -/
def stripUnderscores (cs : List Char) : List Char :=
  ((cs.dropWhile (· = '_')).reverse.dropWhile (· = '_')).reverse

/-- Hyphens read as underscores. -/
def underscored (cs : List Char) : List Char :=
  cs.map fun c => if c = '-' then '_' else c

/-- The characters of a name in snake_case. -/
def snakeCaseChars (cs : List Char) : List Char :=
  stripUnderscores (lower (squeezeUnderscores (underscored (markCapitals cs))))

/-- `due_date` becomes `dueDate`. -/
def camelCase (name : String) : String :=
  String.ofList (camelCaseChars name.toList)

/-- `in_progress` becomes `InProgress`, `listTodos` becomes `ListTodos`. -/
def pascalCase (name : String) : String :=
  String.ofList (pascalCaseChars name.toList)

/-- `dueDate` becomes `due_date`. -/
def snakeCase (name : String) : String :=
  String.ofList (snakeCaseChars name.toList)

/-- The convention that names on the wire follow. -/
inductive WireFormat where
  | camelCase
  | snakeCase
  deriving DecidableEq, Repr

/-- The name of a source field on the wire.  Source names are written in snake case already, so
only the other convention changes them. -/
def WireFormat.apply : WireFormat → String → String
  | .camelCase, name => Naming.camelCase name
  | .snakeCase, name => name

/-- The declared name of an enumeration that a field owns. -/
def enumTypeName (owner : String) : String :=
  pascalCase owner

/-- The declared name of a union that a field owns. -/
def unionTypeName (owner : String) : String :=
  pascalCase owner ++ "Union"

end Naming
end TypedRpc
