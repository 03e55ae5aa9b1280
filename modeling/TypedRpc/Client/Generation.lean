import TypedRpc.Client.Call
import TypedRpc.Client.Channel
import TypedRpc.Client.Core
import TypedRpc.Client.Input
import TypedRpc.Client.Plan
import TypedRpc.Client.TypedQuery

/-!
# Generation

A client is one text: a banner, the imports, and sections in a fixed order, each under its title.
Sections with nothing in them are left out.  No text is written when the verification has found any
fault.
-/

namespace TypedRpc

open Text (joinBlocks joinPresent)

/-- A part of a client under a title. -/
structure Section where
  title : String
  body : Logged String

/-- A section whose text depends on nothing that could go wrong. -/
def Section.plain (title body : String) : Section :=
  ⟨title, pure body⟩

namespace Plan

variable (plan : Plan) (schema : Schema) (typing : Typing)

/-- The records of some resources. -/
def recordsText (ids : List String) : String :=
  joinBlocks ((ids.filterMap schema.resource?).map fun resource => (typing.record resource).text)

/-- The enumerations. -/
def enumsText : String :=
  joinBlocks (plan.discovered.enums.map fun found => found.declaration.text)

/-- The unions. -/
def unionsText : String :=
  joinBlocks (plan.discovered.unions.map fun found => (typing.union found).text)

/-- The types that ask for pages. -/
def pageConfigsText (shapes : List ActionShape) : String :=
  joinBlocks ((pageClasses shapes).map Target.DataClass.text)

/-- The types that ask for pages and the pages of results. -/
def paginationText : String :=
  joinPresent [
    pageConfigsText plan.shapes,
    joinPresent (plan.shapes.map typing.pageResultText)]

/-- The inputs. -/
def inputsText : Logged String := do
  let texts ← plan.shapes.mapM typing.inputText
  pure (joinPresent texts)

/-- The validation functions. -/
def validationsText : String :=
  joinBlocks ((plan.exposed.filter fun exposed => exposed.shape.supportsValidation).map
    fun exposed => typing.validationText exposed.shape exposed.resource)

/-- The exposed actions of each resource, in the order in which resources first appear. -/
def byResource : List (String × List ExposedAction) :=
  groupBy (fun exposed : ExposedAction => exposed.resource.id) plan.exposed

/-- The objects that group functions. -/
def wrappersText (options : Options) : String :=
  joinBlocks (plan.byResource.filterMap fun (_, group) =>
    group.head?.map fun first =>
      wrapperText options first.resource (group.map ExposedAction.shape))

/-- The declarations for channels and the functions that use them. -/
def channelText (shapes : List ActionShape) : String :=
  joinBlocks (Client.channelRuntime :: shapes.map ActionShape.channelText)

/-- The sections of a client in order. -/
def sections : List Section :=
  let options := typing.options
  let shapes := plan.shapes
  let when (shown : Bool) (text : String) : String := if shown then text else ""
  [ .plain "Type Aliases" Client.typeAliases,
    .plain "Error Types" Client.errorTypes,
    .plain "HTTP Client" Client.httpClient,
    .plain "Resource Types" (recordsText schema typing plan.discovered.resources),
    .plain "Embedded Resource Types" (recordsText schema typing plan.discovered.embedded),
    .plain "Enums" plan.enumsText,
    .plain "Unions" (plan.unionsText typing),
    .plain "Result Wrapper" Client.resultWrapper,
    .plain "Validation Types" (when options.validationFunctions Client.validationTypes),
    .plain "Pagination Types" (plan.paginationText typing),
    .plain "Metadata Types" (joinPresent (shapes.map typing.metadataText)),
    .plain "Result Types" (joinBlocks (shapes.map (typing.resultText schema))),
    ⟨"Input Types", plan.inputsText typing⟩,
    .plain "Filter Types"
      (when options.filterTypes (typing.filterTypesText schema plan.discovered.resources)),
    ⟨"Typed Queries", .ofExcept (typing.typedQueriesText schema)⟩,
    .plain "RPC Functions" (joinBlocks (plan.exposed.map fun exposed =>
      typing.actionText schema exposed.shape exposed.resource)),
    .plain "Validation Functions" (when options.validationFunctions (plan.validationsText typing)),
    .plain "Object API" (plan.wrappersText options),
    .plain "Channel Client" (when options.channelClient (channelText shapes))]

end Plan

/-- A section as it is written; nothing for an empty one. -/
def Section.render (part : Section) : Logged (Option String) := do
  let body ← part.body
  if body.isEmpty then
    Logged.line .debug .generation ("Skipping empty section " ++ part.title)
    pure none
  else
    Logged.line .debug .generation ("Rendered section " ++ part.title)
    pure (some ("// " ++ part.title ++ "\n\n" ++ body))

/-- The whole text of a client. -/
def Plan.clientText (plan : Plan) (schema : Schema) (options : Options) : Logged String := do
  let parts ← (plan.sections schema (.ofSchema schema options)).mapM Section.render
  pure (joinBlocks (Client.header (options.package schema.app) :: Client.importsText options ::
    parts.filterMap id) ++ "\n")

/-- The wording for a generation that is stopped. -/
def Verification.refusal (verification : Verification) : String :=
  "Kotlin client generation failed:\n\n" ++ verification.report

/-- The client for a planned run, or what stops it. -/
def Plan.render (plan : Plan) (schema : Schema) (options : Options) :
    Logged (Except Verification String) :=
  if plan.verification.hasFaults then pure (.error plan.verification)
  else do
    let text ← plan.clientText schema options
    pure (.ok text)

/-- The log of the warnings of a verification. -/
def Verification.logLines (verification : Verification) : List LogLine :=
  verification.warnings.map fun warning => ⟨.warning, .generation, warning.message⟩

/-- Generates the client for a schema. -/
def generate (schema : Schema) (options : Options) : Logged (Except Verification String) := do
  let plan ← Logged.ofExcept (Plan.make schema options)
  Logged.andThen ⟨plan.logLines ++ plan.verification.logLines, .ok ()⟩ fun _ =>
    plan.render schema options

end TypedRpc
