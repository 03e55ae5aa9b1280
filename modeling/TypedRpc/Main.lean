import TypedRpc.Command.Run

/-!
# The program

The command line on real files and streams.  What a run comes to is decided elsewhere; here its
documents are read beforehand, its outcome is printed, and the steps of a write are carried out on
the files of the machine.
-/

namespace TypedRpc
namespace Command

open Storage (StepCause StepFault Path DirectorySteps WriteSteps)

/-- The number of an error, which some steps report below zero. -/
def errorNumber (number : UInt32) : Nat :=
  if number < 0x80000000 then number.toNat else (0 - number).toNat

/-- The cause of an error of the system. -/
def causeOf : IO.Error → StepCause
  | .noFileOrDirectory _ number text | .interrupted _ number text
  | .alreadyExists _ number text | .invalidArgument _ number text
  | .permissionDenied _ number text | .resourceExhausted _ number text
  | .inappropriateType _ number text | .noSuchThing _ number text
  | .otherError number text | .resourceBusy number text | .resourceVanished number text
  | .unsupportedOperation number text | .hardwareFault number text
  | .unsatisfiedConstraints number text | .illegalOperation number text
  | .protocolError number text | .timeExpired number text => .ofNumber (errorNumber number) text
  | .unexpectedEof => .other 5 "Input/output error"
  | .userError text => .other 5 text

/-- Runs a step on files; when it fails, the paths that it is about are named. -/
def attempt (paths : List String) (step : IO Unit) : IO (Option StepFault) := do
  try
    step
    return none
  catch error => return some ⟨causeOf error, paths⟩

/-- Whether a path leads to a directory. -/
def leadsToDirectory (path : Path) : IO Bool := do
  try
    let metadata ← (System.mkFilePath [path.text]).metadata
    return metadata.type == .dir
  catch _ => return false

/-- The steps that make directories of the machine. -/
def directorySteps : DirectorySteps IO where
  make path := return (← attempt [path.text] (IO.FS.createDir path.text)).map (·.cause)
  isThere := leadsToDirectory

/-- The characters that tell temporary files apart. -/
def tokenCharacters : List Char :=
  "abcdefghijklmnopqrstuvwxyz0123456789_".toList

/-- A token for a temporary file. -/
def freshToken : IO String := do
  let characters ← (List.range 8).mapM fun _ => do
    let index ← IO.rand 0 (tokenCharacters.length - 1)
    return tokenCharacters.getD index '_'
  return String.ofList characters

/-- The temporary file beside a file, told apart by a token. -/
def temporaryFor (path : Path) (token : String) : IO String := do
  let parent := path.parent
  let around ←
    if parent.root = .working then pure (toString (← IO.currentDir) ++ "/") else pure ""
  let name := Storage.Tree.temporaryName path.name token
  return around ++ Path.text ⟨parent.root, parent.names ++ [name]⟩

/-- Creates a temporary file beside a file. -/
def createTemporary (path : Path) : IO (Except StepFault String) := do
  let temporary ← temporaryFor path (← freshToken)
  match ← attempt [temporary] (do let _ ← IO.FS.Handle.mk temporary .writeNew) with
  | some fault => return .error fault
  | none => return .ok temporary

/-- The steps of a write to the files of the machine. -/
def writeSteps : WriteSteps IO String where
  ensureDirectories := directorySteps.ensureAll
  create := createTemporary
  fill temporary text := attempt [] (IO.FS.writeFile temporary text)
  replace temporary path :=
    attempt [temporary, path.text] (IO.FS.rename temporary path.text)
  remove temporary := do
    let _ ← attempt [temporary] (IO.FS.removeFile temporary)

/-- Reads a file. -/
def readFile (path : Path) : IO (Except StepFault (List UInt8)) := do
  try
    return .ok (← IO.FS.readBinFile path.text).toList
  catch error => return .error ⟨causeOf error, [path.text]⟩

/-- Reads the documents of a command line. -/
def readDocuments (words : List String) : IO FileReader := do
  match Request.ofWords words with
  | .error _ => return fun path => .error ⟨.missing, [path.text]⟩
  | .ok request =>
    let documents ← request.documents.mapM fun path => return (path, ← readFile path)
    return fun path =>
      match documents.find? fun document => document.1 == path with
      | some document => document.2
      | none => .error ⟨.missing, [path.text]⟩

/-- Prints how a run ends. -/
def report (outcome : Outcome) : IO UInt32 := do
  (← IO.getStdout).putStr outcome.output
  (← IO.getStderr).putStr outcome.errors
  return UInt32.ofNat outcome.code

/-- Prints a breakdown. -/
def reportBreakdown (breakdown : Breakdown) : IO UInt32 := do
  IO.eprintln breakdown.message
  return 1

/-- Runs a command line. -/
def runWords (words : List String) : IO UInt32 := do
  match ending words (← readDocuments words) with
  | .error breakdown => reportBreakdown breakdown
  | .ok (.done outcome) => report outcome
  | .ok (.writes path text errors) =>
    if path.hasNull then reportBreakdown .nullInPath
    else
      match ← writeSteps.write path text with
      | none => report (written path errors)
      | some fault => report (notWritten path errors fault)

end Command
end TypedRpc

/-- The entry of the program. -/
def main (words : List String) : IO UInt32 :=
  TypedRpc.Command.runWords words
