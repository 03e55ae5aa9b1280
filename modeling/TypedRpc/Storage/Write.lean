import TypedRpc.Storage.Steps
import TypedRpc.Storage.Tree
import TypedRpc.Text.Utf8

/-!
# Writing in a tree of files

What the steps of a write do in a tree.  A step may fail because of what stands there; besides, each
may meet a mishap from outside, such as a full disk.
-/

namespace TypedRpc
namespace Storage

/-- Causes from outside that make steps fail; a text may fail to be written after some bytes. -/
structure Mishaps where
  directories : Option StepCause := none
  creation : Option StepCause := none
  content : Option (Nat × StepCause) := none
  replacement : Option StepCause := none
  deriving Repr

namespace Tree

/-- Makes one directory. -/
def makeDirectory (tree : Tree) (path : Path) : Except StepCause Tree :=
  match tree.resolve path with
  | .error cause => .error cause
  | .ok place =>
    if path.name = "" ∨ path.name = ".." ∨ (tree.entry? place).isSome then .error .exists
    else .ok (tree.put place .directory)

/-- The steps that make directories in a tree. -/
def directorySteps : DirectorySteps (StateM Tree) where
  make path := fun tree =>
    match tree.makeDirectory path with
    | .ok made => (none, made)
    | .error cause => (some cause, tree)
  isThere path := fun tree => (tree.isDirectory path, tree)

/-- The name of the temporary file for a file, told apart by a token. -/
def temporaryName (name token : String) : String :=
  "." ++ name ++ "." ++ token ++ ".tmp"

/-- The place of a temporary file beside a file: the first that is free among those that the tokens
offer. -/
def temporaryPlace (tree : Tree) (path : Path) (tokens : List String) : Except StepFault Place :=
  match tree.resolve path.parent with
  | .error cause => .error ⟨cause, [path.parent.text]⟩
  | .ok directory =>
    let places := tokens.map fun token => directory ++ [temporaryName path.name token]
    match places.find? fun place => (tree.entry? place).isNone with
    | none => .error ⟨.other 17 "No usable temporary file name found", []⟩
    | some place =>
      if maxNameBytes < (place.getLast?.getD "").utf8ByteSize then
        .error ⟨.nameTooLong, [tree.shownPlace place]⟩
      else .ok place

/-- Creates a temporary file beside a file. -/
def createTemporary (mishaps : Mishaps) (tokens : List String) (path : Path) :
    StateM Tree (Except StepFault Place) := fun tree =>
  match tree.temporaryPlace path tokens with
  | .error fault => (.error fault, tree)
  | .ok temporary =>
    match mishaps.creation with
    | some cause => (.error ⟨cause, [tree.shownPlace temporary]⟩, tree)
    | none => (.ok temporary, tree.put temporary (.file []))

/-- Writes a text into a temporary file; a mishap leaves a part of it there. -/
def fillTemporary (mishaps : Mishaps) (temporary : Place) (text : String) :
    StateM Tree (Option StepFault) := fun tree =>
  match mishaps.content with
  | some (count, cause) =>
    (some ⟨cause, []⟩, tree.put temporary (.file ((Text.encode text).take count)))
  | none => (none, tree.put temporary (.file (Text.encode text)))

/-- The tree where what stands at a place has gone to a path. -/
def rename (tree : Tree) (temporary : Place) (path : Path) : Except StepCause Tree :=
  match tree.resolve path, tree.entry? temporary with
  | .error cause, _ => .error cause
  | .ok _, none => .error .missing
  | .ok place, some entry =>
    if path.name = "" ∨ path.name = ".." then .error .busy
    else if tree.entry? place = some .directory then .error .isDirectory
    else .ok ((tree.remove temporary).put place entry)

/-- Lets a temporary file take the place at a path. -/
def replace (mishaps : Mishaps) (temporary : Place) (path : Path) :
    StateM Tree (Option StepFault) := fun tree =>
  let renamed : Except StepCause Tree :=
    match mishaps.replacement with
    | some cause => .error cause
    | none => tree.rename temporary path
  match renamed with
  | .ok after => (none, after)
  | .error cause => (some ⟨cause, [tree.shownPlace temporary, path.text]⟩, tree)

/-- The steps of a write in a tree, which some mishaps meet.  The tokens tell temporary files
apart. -/
def writeSteps (mishaps : Mishaps) (tokens : List String) : WriteSteps (StateM Tree) Place where
  ensureDirectories path :=
    match mishaps.directories with
    | some cause => pure (some ⟨cause, [path.text]⟩)
    | none => directorySteps.ensureAll path
  create := createTemporary mishaps tokens
  fill := fillTemporary mishaps
  replace := replace mishaps
  remove temporary := modify (·.remove temporary)

/-- Writes a text at a path, whole or not at all. -/
def write (tree : Tree) (mishaps : Mishaps) (tokens : List String) (path : Path) (text : String) :
    Tree × Option StepFault :=
  let (fault, after) := ((writeSteps mishaps tokens).write path text).run tree
  (after, fault)

end Tree
end Storage
end TypedRpc
