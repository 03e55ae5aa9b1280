import TypedRpc.Storage.Fault

/-!
# Trees of files

A tree says what stands at each place, a place being the list of names that leads to it from the
root.  A path leads to a place by a walk from where it starts: every place on the way must be a
directory, and two dots lead back to the directory around.
-/

namespace TypedRpc
namespace Storage

/-- What stands at a place. -/
inductive Entry where
  | file (bytes : List UInt8)
  | directory
  deriving DecidableEq, Repr

/-- The names that lead to a place from the root. -/
abbrev Place := List String

/-- A tree of files, with the directory that paths start from and the text it is shown by. -/
structure Tree where
  entries : List (Place × Entry)
  working : Place
  workingText : String
  deriving Repr

/-- How many bytes a name may have. -/
def maxNameBytes : Nat := 255

/-- How many bytes a path may have. -/
def maxPathBytes : Nat := 4095

namespace Tree

variable (tree : Tree)

/-- What stands at a place; the root is a directory. -/
def entry? (place : Place) : Option Entry :=
  if place = [] then some .directory
  else (tree.entries.find? fun entry => entry.1 == place).map Prod.snd

/-- The tree without what stands at a place. -/
def remove (place : Place) : Tree :=
  { tree with entries := tree.entries.filter fun entry => entry.1 != place }

/-- The tree with something put at a place. -/
def put (place : Place) (entry : Entry) : Tree :=
  { tree with entries := (place, entry) :: (tree.remove place).entries }

/-- Walks from a place along some names. -/
def walk (place : Place) : List String → Except StepCause Place
  | [] => .ok place
  | name :: rest =>
    match tree.entry? place with
    | none => .error .missing
    | some (.file _) => .error .notDirectory
    | some .directory =>
      if name = ".." then walk place.dropLast rest
      else if maxNameBytes < name.utf8ByteSize then .error .nameTooLong
      else walk (place ++ [name]) rest

/-- The place that a path leads to. -/
def resolve (path : Path) : Except StepCause Place :=
  if maxPathBytes < path.text.utf8ByteSize then .error .nameTooLong
  else tree.walk (if path.root = .working then tree.working else []) path.names

/-- Whether a path leads to a directory. -/
def isDirectory (path : Path) : Bool :=
  match tree.resolve path with
  | .ok place => tree.entry? place = some .directory
  | .error _ => false

/-- The bytes of the file at a path. -/
def read (path : Path) : Except StepFault (List UInt8) :=
  let failed (cause : StepCause) : StepFault := ⟨cause, [path.text]⟩
  match tree.resolve path with
  | .error cause => .error (failed cause)
  | .ok place =>
    match tree.entry? place with
    | none => .error (failed .missing)
    | some .directory => .error (failed .isDirectory)
    | some (.file bytes) => .ok bytes

/-- A place as it is shown: below the working directory, or from the root. -/
def shownPlace (place : Place) : String :=
  if tree.working.isPrefixOf place then
    tree.workingText ++ "/" ++ "/".intercalate (place.drop tree.working.length)
  else "/" ++ "/".intercalate place

end Tree
end Storage
end TypedRpc
