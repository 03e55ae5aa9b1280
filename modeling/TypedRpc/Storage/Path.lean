import TypedRpc.Text.Blocks

/-!
# Paths

A path is a list of names behind a root.  Slashes in a row count as one and a name that is a single
dot says nothing, so that a path has one normal form; two dots stay, since where they lead is for
the tree of files to say.  Two slashes at the very start, and no more, are a root of their own.
-/

namespace TypedRpc
namespace Storage

/-- Where a path starts. -/
inductive Root where
  /-- The working directory. -/
  | working
  /-- The root of all files. -/
  | top
  /-- The root that is written with two slashes. -/
  | doubled
  deriving DecidableEq, Repr

/-- A root as it is written. -/
def Root.text : Root → String
  | .working => ""
  | .top => "/"
  | .doubled => "//"

/-- A path in its normal form. -/
structure Path where
  root : Root
  names : List String
  deriving DecidableEq, Repr

/-- The pieces of a text between slashes. -/
def pieces (text : List Char) : List (List Char) :=
  text.splitOn '/'

namespace Path

/-- The root that a text starts with. -/
def rootOf : List Char → Root
  | '/' :: '/' :: '/' :: _ => .top
  | '/' :: '/' :: _ => .doubled
  | '/' :: _ => .top
  | _ => .working

/-- Whether a piece names anything. -/
def isName (piece : List Char) : Bool :=
  piece != [] && piece != ['.']

/-- The path that a text writes. -/
def ofText (text : String) : Path :=
  ⟨rootOf text.toList, ((pieces text.toList).filter isName).map String.ofList⟩

/-- A path as it is written. -/
def text (path : Path) : String :=
  if path.root = .working ∧ path.names = [] then "."
  else path.root.text ++ "/".intercalate path.names

/-- The last name; empty for a path without names. -/
def name (path : Path) : String :=
  path.names.getLast?.getD ""

/-- The path without its last name. -/
def parent (path : Path) : Path :=
  ⟨path.root, path.names.dropLast⟩

/-- The last name from its last dot on, unless nothing stands before or behind that dot. -/
def suffix (path : Path) : String :=
  let reversed := path.name.toList.reverse
  let extension := reversed.takeWhile (· != '.')
  let stem := (reversed.dropWhile (· != '.')).drop 1
  if extension.isEmpty || stem.isEmpty then "" else String.ofList ('.' :: extension.reverse)

/-- Whether the path holds the character that no path may hold. -/
def hasNull (path : Path) : Bool :=
  path.names.any fun name => name.toList.contains '\x00'

end Path
end Storage
end TypedRpc
