import TypedRpc.Client.Generation
import TypedRpc.Command.Inputs
import TypedRpc.Storage.Write

/-!
# Runs

A run reads its inputs, plans, and then either ends or has a client to write.  Only writing changes
files, and only a client that is complete is written: `check`, and `generate` when it prints the
client, end before any file is touched, and so does every run that a fault stops.

The two streams take every text that is written to them.  A machine may refuse some, such as a path
with half of a pair of codes in it, which it could not print after the client has been written; no
text here holds such a half, and what else a stream may refuse is not part of a run.
-/

namespace TypedRpc
namespace Command

open Storage (Path Tree Mishaps)

/-- What a run comes to before any file is changed. -/
inductive Ending where
  | done (outcome : Outcome)
  /-- A client to be written, behind what was written to the stream of errors before. -/
  | writes (path : Path) (text errors : String)
  deriving Repr

/-- The lines of a log that are shown: all of them, or the warnings only. -/
def shownLog (verbose : Bool) (log : List LogLine) : String :=
  String.join ((log.filter fun line => verbose || line.level == .warning).map
    fun line => asLine line.shown)

/-- The warnings of a verification as they are shown. -/
def shownWarnings (verification : Verification) : String :=
  String.join (verification.warnings.map fun warning => asLine ("Warning: " ++ warning.message))

/-- How `check` ends. -/
def checked (verbose : Bool) (plan : Plan) : Outcome :=
  let warnings := shownWarnings plan.verification
  let log := shownLog verbose plan.logLines
  if plan.verification.hasFaults then
    { failed log ("verification failed.\n\n" ++ plan.verification.report) with output := warnings }
  else
    { code := 0, output := warnings ++ asLine "No issues found.", errors := log }

/-- What `generate` comes to. -/
def generated (request : Request) (options : Options) (schema : Schema) (plan : Plan) :
    Except Breakdown Ending :=
  let client := plan.render schema options
  let errors := shownLog request.verbose plan.logLines ++ shownWarnings plan.verification ++
    shownLog request.verbose client.log
  match client.result with
  | .error breakdown => .error breakdown
  | .ok (.error verification) => .ok (.done (failed errors verification.refusal))
  | .ok (.ok text) =>
    if request.toOutput then .ok (.done { code := 0, output := text, errors })
    else if request.output = some none then .error .pathWithoutText
    else .ok (.writes (Path.ofText options.outputFile) text errors)

/-- What a request comes to. -/
def Request.ending (request : Request) (read : FileReader) : Except Breakdown Ending :=
  match request.inputs read with
  | .error (.broken breakdown) => .error breakdown
  | .error (.refused fault) => .ok (.done (failed "" fault.message))
  | .ok (options, schema) => do
    let plan ← Plan.make schema options
    match request.verb with
    | .check => .ok (.done (checked request.verbose plan))
    | .generate => generated request options schema plan

/-- What a command line comes to. -/
def ending (words : List String) (read : FileReader) : Except Breakdown Ending :=
  match Request.ofWords words with
  | .error outcome => .ok (.done outcome)
  | .ok request => request.ending read

/-- How a run ends that has written its client. -/
def written (path : Path) (errors : String) : Outcome :=
  { code := 0, output := asLine ("Generated Kotlin client: " ++ path.text), errors }

/-- How a run ends that could not write its client. -/
def notWritten (path : Path) (errors : String) (fault : Storage.StepFault) : Outcome :=
  failed errors ("cannot write '" ++ path.text ++ "': " ++ fault.message)

/-- Brings a run to its end on a tree of files. -/
def Ending.perform (tree : Tree) (mishaps : Mishaps) (tokens : List String) :
    Ending → Tree × Except Breakdown Outcome
  | .done outcome => (tree, .ok outcome)
  | .writes path text errors =>
    if path.hasNull then (tree, .error .nullInPath)
    else
      match tree.write mishaps tokens path text with
      | (after, none) => (after, .ok (written path errors))
      | (after, some fault) => (after, .ok (notWritten path errors fault))

/-- A run on a tree of files: the tree that it leaves, and how it ends. -/
def run (tree : Tree) (mishaps : Mishaps) (tokens words : List String) :
    Tree × Except Breakdown Outcome :=
  match ending words tree.read with
  | .error breakdown => (tree, .error breakdown)
  | .ok result => result.perform tree mishaps tokens

end Command
end TypedRpc
