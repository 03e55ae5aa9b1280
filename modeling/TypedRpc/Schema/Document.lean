import TypedRpc.Breakdown
import TypedRpc.Json.Reader
import TypedRpc.Schema.Decode
import TypedRpc.Yaml.Reader

/-!
# Schema documents

A schema document is a text in one of two formats.  What it holds must be a map with the fields of a
schema.
-/

namespace TypedRpc

/-- The format of a document. -/
inductive DocumentFormat where
  | json
  | yaml
  deriving DecidableEq, Repr

/-- Why a document is refused as a schema. -/
inductive SchemaFault where
  /-- The text is no JSON. -/
  | json (fault : Json.Fault) (text : List Char)
  /-- The text is no YAML. -/
  | yaml
  /-- The document is not a map. -/
  | notMap
  /-- The map does not describe a schema. -/
  | invalid (problems : List Problem)
  deriving Repr

/-- The wording of a fault, given the name of the document. -/
def SchemaFault.message (label : String) : SchemaFault → String
  | .json fault text => "Invalid JSON in " ++ label ++ ": " ++ fault.message text
  | .yaml => "Invalid YAML in " ++ label
  | .notMap => label ++ ": schema document must be a mapping"
  | .invalid problems => label ++ ": invalid schema: " ++ problemsMessage problems

namespace Schema

/-- The schema that a document describes. -/
def ofDocument (document : Document) : Except SchemaFault Schema :=
  match document.content with
  | .map _ =>
    match Checked.schema document with
    | .ok schema => .ok schema
    | .faulty problems => .error (.invalid problems)
  | _ => .error .notMap

/-- The document that a text holds. -/
def documentOf (format : DocumentFormat) (text : List Char) :
    Except (Failure SchemaFault) Document :=
  match format with
  | .json =>
    match Json.read text with
    | .ok value => .ok { value := value }
    | .error (.syntaxFault fault) => .error (.refused (.json fault text))
    | .error (.integerTooLong digits) => .error (.broken (.longInteger digits))
    | .error (.tooDeep form) => .error (.broken (.deepNesting (some form)))
  | .yaml =>
    match Yaml.read text with
    | .ok document => .ok document
    | .error .malformed => .error (.refused .yaml)
    | .error .tooDeep => .error (.broken (.deepNesting none))
    | .error failure => .error (.broken (.scalar failure))

/-- The schema that a text describes. -/
def read (format : DocumentFormat) (text : List Char) : Except (Failure SchemaFault) Schema := do
  let document ← documentOf format text
  (ofDocument document).mapError .refused

end Schema
end TypedRpc
