import TypedRpc.Storage.Fault

/-!
# Writing a file whole or not at all

A file is written in four steps: the directories around it are made, a temporary file is created
beside it, the text is written there, and the temporary file takes the place of the file.  Whichever
step fails, the file keeps what it held and the temporary file is removed.

Here stands the order of the steps.  What a step does is for those to say who carry the steps out,
on a tree of files or on the files of a machine.
-/

namespace TypedRpc
namespace Storage

variable {m : Type → Type} [Monad m]

/-- Carries out the next step unless one has failed. -/
def unlessFailed (fault : Option StepFault) (next : m (Option StepFault)) : m (Option StepFault) :=
  match fault with
  | some fault => pure (some fault)
  | none => next

/-- The steps by which directories are made. -/
structure DirectorySteps (m : Type → Type) where
  /-- Makes one directory, or tells why it cannot. -/
  make : Path → m (Option StepCause)
  /-- Whether a path leads to a directory. -/
  isThere : Path → m Bool

namespace DirectorySteps

variable (steps : DirectorySteps m)

/-- Makes one directory unless it is there; the directory around it must be there. -/
def ensure (path : Path) : m (Option StepFault) := do
  match ← steps.make path with
  | none => pure none
  | some cause =>
    let fault : StepFault := ⟨cause, [path.text]⟩
    if cause = .missing then pure (some fault)
    else if ← steps.isThere path then pure none
    else pure (some fault)

/-- Makes a directory and those around it, given its names from the last to the first. -/
def ensureNames (root : Root) : List String → m (Option StepFault)
  | [] => steps.ensure ⟨root, []⟩
  | name :: around => do
    let path : Path := ⟨root, (name :: around).reverse⟩
    match ← steps.ensure path with
    | some ⟨.missing, _⟩ => unlessFailed (← ensureNames root around) (steps.ensure path)
    | made => pure made

/-- Makes a directory and those around it, unless they are there. -/
def ensureAll (path : Path) : m (Option StepFault) :=
  steps.ensureNames path.root path.names.reverse

end DirectorySteps

/-- The steps by which a file is written; `τ` says which temporary file is meant. -/
structure WriteSteps (m : Type → Type) (τ : Type) where
  /-- Makes a directory and those around it, unless they are there. -/
  ensureDirectories : Path → m (Option StepFault)
  /-- Creates a temporary file beside a file. -/
  create : Path → m (Except StepFault τ)
  /-- Writes a text into a temporary file. -/
  fill : τ → String → m (Option StepFault)
  /-- Lets a temporary file take the place at a path. -/
  replace : τ → Path → m (Option StepFault)
  /-- Removes a temporary file. -/
  remove : τ → m Unit

namespace WriteSteps

variable {τ : Type} (steps : WriteSteps m τ)

/-- Fills a temporary file and lets it take the place at a path; when that fails, it is removed. -/
def finish (temporary : τ) (path : Path) (text : String) : m (Option StepFault) := do
  let fault ← unlessFailed (← steps.fill temporary text) (steps.replace temporary path)
  if fault.isSome then steps.remove temporary
  pure fault

/-- Writes a text at a path, whole or not at all. -/
def write (path : Path) (text : String) : m (Option StepFault) := do
  unlessFailed (← steps.ensureDirectories path.parent) do
    match ← steps.create path with
    | .error fault => pure (some fault)
    | .ok temporary => steps.finish temporary path text

end WriteSteps
end Storage
end TypedRpc
