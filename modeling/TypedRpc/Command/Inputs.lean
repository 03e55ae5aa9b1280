import TypedRpc.Command.Request
import TypedRpc.Options.Document
import TypedRpc.Schema.Document
import TypedRpc.Storage.Fault
import TypedRpc.Text.Lines

/-!
# Inputs of a run

A run reads its options first and its schema then.  The options that the command line gives go
before those of the document.  A schema is read as JSON when its file name ends in `.json`, and as
YAML otherwise.

Nothing that is read holds half of a pair of codes: the readers of documents replace those that
escapes write.
-/

namespace TypedRpc
namespace Command

open Storage (Path)

/-- How the files of a run are read. -/
abbrev FileReader := Path → Except Storage.StepFault (List UInt8)

/-- What a document is for. -/
inductive DocumentRole where
  | options
  | schema
  deriving DecidableEq, Repr

/-- The word for a role at the start of a sentence. -/
def DocumentRole.title : DocumentRole → String
  | .options => "Config"
  | .schema => "Schema"

/-- The word for a role inside a sentence. -/
def DocumentRole.noun : DocumentRole → String
  | .options => "config"
  | .schema => "schema"

/-- Why an input is refused. -/
inductive InputFault where
  | unreadable (role : DocumentRole) (path : Path) (fault : Storage.StepFault)
  | options (path : Path) (fault : OptionsFault)
  | schema (path : Path) (fault : SchemaFault)
  deriving Repr

/-- The wording of a fault. -/
def InputFault.message : InputFault → String
  | .unreadable role path fault =>
    if fault.cause = .missing then role.title ++ " file not found: " ++ path.text
    else "Cannot read " ++ role.noun ++ " file: " ++ fault.message
  | .options path fault => fault.message path.text
  | .schema path fault => fault.message path.text

/-- The format of the schema document at a path. -/
def formatAt (path : Path) : DocumentFormat :=
  if path.suffix = ".json" then .json else .yaml

/-- The text of a document. -/
def documentText (read : FileReader) (role : DocumentRole) (path : Path) :
    Except (Failure InputFault) (List Char) :=
  if path.hasNull then .error (.broken .nullInPath)
  else
    match read path with
    | .error fault => .error (.refused (.unreadable role path fault))
    | .ok bytes =>
      match Text.decode bytes with
      | .error fault => .error (.broken (.undecodable fault))
      | .ok text => .ok (Text.unifyLineEnds text)

/-- What a document holds, where a fault is named with the path of the document. -/
def located {φ α : Type} (name : φ → InputFault) :
    Except (Failure φ) α → Except (Failure InputFault) α
  | .ok result => .ok result
  | .error (.refused fault) => .error (.refused (name fault))
  | .error (.broken breakdown) => .error (.broken breakdown)

/-- The options that a document gives; without a document, the defaults. -/
def documentOptions (read : FileReader) : Option FlagValue → Except (Failure InputFault) Options
  | none => .ok {}
  | some none => .error (.broken .pathWithoutText)
  | some (some name) => do
    let path := Path.ofText name
    let text ← documentText read .options path
    located (.options path) (Options.read text)

/-- Options with what the command line gives in their place.  A package that is no text leaves the
package to the schema. -/
def Request.override (request : Request) (options : Options) : Options :=
  { options with
    packageName := request.package.getD options.packageName
    outputFile := request.output.join.getD options.outputFile }

/-- The schema of a document. -/
def documentSchema (read : FileReader) (name : String) : Except (Failure InputFault) Schema := do
  let path := Path.ofText name
  let text ← documentText read .schema path
  located (.schema path) (Schema.read (formatAt path) text)

/-- The paths of the documents of a run. -/
def Request.documents (request : Request) : List Path :=
  (request.config.join.toList ++ [request.schema]).map Path.ofText

/-- The options and the schema of a run. -/
def Request.inputs (request : Request) (read : FileReader) :
    Except (Failure InputFault) (Options × Schema) := do
  let options ← documentOptions read request.config
  let schema ← documentSchema read request.schema
  .ok (request.override options, schema)

end Command
end TypedRpc
