import TypedRpc.Breakdown
import TypedRpc.Number.Arithmetic
import TypedRpc.Options.Basic
import TypedRpc.Yaml.Reader

/-!
# Option documents

Options are written as a map whose keys are words joined by hyphens.  Every key may be left out; an
unknown key is refused, and so is a value of the wrong kind.  The first fault in the order of the
options is reported, whatever the order of the keys: texts, switches, words of a vocabulary, and at
last the type overrides.
-/

namespace TypedRpc

/-- What is wrong with a type override. -/
inductive OverrideFault where
  | notMap
  | missing (key : String)
  | notText (key : String)
  deriving DecidableEq, Repr

/-- Why a document is refused as options. -/
inductive OptionsFault where
  /-- The text is no YAML. -/
  | yaml
  | notMap
  | unknownKeys (keys : List String)
  | notText (key : String)
  | notSwitch (key : String)
  | notAWord (key : String) (known : List String)
  | overridesNotList
  | overrideAt (index : Nat) (fault : OverrideFault)
  deriving DecidableEq, Repr

/-- The wording for a value that is not a text. -/
def notTextMessage (place key : String) : String :=
  place ++ ": '" ++ key ++ "' must be a string"

/-- The wording of a fault of an override, given its place. -/
def OverrideFault.message (place : String) : OverrideFault → String
  | .notMap => place ++ " must be a YAML mapping"
  | .missing key => place ++ ": missing required field '" ++ key ++ "'"
  | .notText key => notTextMessage place key

/-- The wording of a fault, given the name of the document. -/
def OptionsFault.message (label : String) : OptionsFault → String
  | .yaml => "Invalid YAML in " ++ label
  | .notMap => label ++ ": generator config must be a YAML mapping"
  | .unknownKeys keys => label ++ ": unknown config key(s): " ++ ", ".intercalate keys
  | .notText key => notTextMessage label key
  | .notSwitch key => label ++ ": '" ++ key ++ "' must be true or false"
  | .notAWord key known => label ++ ": '" ++ key ++ "' must be one of " ++ ", ".intercalate known
  | .overridesNotList => label ++ ": 'type-mapping-overrides' must be a list"
  | .overrideAt index fault =>
    fault.message (label ++ ": type-mapping-overrides[" ++ toString index ++ "]")

/-- An override as a document. -/
def TypeOverride.toValue (override : TypeOverride) : Value :=
  .record [("source", .text override.source), ("target", .text override.target)]

namespace Options

/-- The keys of options. -/
def knownKeys : List String := [
  "output-file", "package-name", "run-endpoint", "validate-endpoint", "untyped-map-type",
  "generate-filter-types", "generate-validation-annotations", "generate-validation-functions",
  "generate-channel-client", "warn-on-missing-rpc-config", "warn-on-non-rpc-references",
  "input-field-formatter", "output-field-formatter", "datetime-library", "nullable-strategy",
  "type-mapping-overrides"]

/-! ## Unknown keys -/

/-- Whether a value is a known key. -/
def isKnownKey : Value → Bool
  | .text key => knownKeys.contains key
  | _ => false

/-- A number for the order of keys. -/
def keyNumber? : Value → Option Binary64
  | .bool b => some (.ofInt (if b then 1 else 0))
  | .int n => some (.ofInt n)
  | .float x => some x
  | _ => none

/-- Whether two keys can be put in order. -/
def haveOrder : Value → Value → Bool
  | .text _, .text _ => true
  | .bytes _, .bytes _ => true
  | .date _, .date _ => true
  | .moment s, .moment t => s.offset.isSome == t.offset.isSome
  | a, b => (keyNumber? a).isSome && (keyNumber? b).isSome

/-- The first two neighbours among some keys that cannot be put in order, the later first. -/
def firstUnordered? : List Value → Option (Value × Value)
  | a :: b :: rest => if haveOrder b a then firstUnordered? (b :: rest) else some (b, a)
  | _ => none

/-- Whether a number is below another one. -/
def isBelow (x y : Binary64) : Bool :=
  match x, y with
  | .nan, _ | _, .nan => false
  | .infinite negative, .infinite other => negative && !other
  | .infinite negative, _ => negative
  | _, .infinite negative => !negative
  | x, y => ((x.toRat?).getD 0) < ((y.toRat?).getD 0)

/-- The least of some keys that are numbers. -/
def leastKey (first : Value) (others : List Value) : Value :=
  others.foldl
    (fun least key =>
      match keyNumber? key, keyNumber? least with
      | some x, some y => if isBelow x y then key else least
      | _, _ => least)
    first

/-- The texts among some keys. -/
def textKeys (keys : List Value) : List String :=
  keys.filterMap fun
    | .text key => some key
    | _ => none

/-- Refuses keys that are not known.  They are listed in the order of their characters, and keys of
which one is not a text cannot be listed. -/
def checkKeys (keys : List Value) : Except (TypedRpc.Failure OptionsFault) Unit :=
  match keys.filter (!isKnownKey ·) with
  | [] => .ok ()
  | first :: others =>
    match firstUnordered? (first :: others) with
    | some (a, b) => .error (.broken (.unorderedKeys a.kindName b.kindName))
    | none =>
      match first with
      | .text _ =>
        let unknown := (textKeys (first :: others)).mergeSort fun a b => a ≤ b
        .error (.refused (.unknownKeys unknown))
      | _ => .error (.broken (.keyNotText (leastKey first others).kindName))

/-! ## Single options -/

/-- An option that is a text. -/
def textOption (entries : Entries) (key : String) :
    Except OptionsFault (Option String) :=
  match Value.field? entries key with
  | none => .ok none
  | some ⟨.text s, _⟩ => .ok (some s)
  | some _ => .error (.notText key)

/-- An option that is a switch. -/
def switchOption (entries : Entries) (key : String) :
    Except OptionsFault (Option Bool) :=
  match Value.field? entries key with
  | none => .ok none
  | some ⟨.bool b, _⟩ => .ok (some b)
  | some _ => .error (.notSwitch key)

/-- An option that is a word of a vocabulary. -/
def wordOption (α : Type) [Vocabulary α] (entries : Entries) (key : String) :
    Except OptionsFault (Option α) :=
  match Value.field? entries key with
  | none => .ok none
  | some ⟨.text s, _⟩ =>
    match Vocabulary.ofWord? s with
    | some a => .ok (some a)
    | none => .error (.notAWord key (Vocabulary.words α))
  | some _ => .error (.notAWord key (Vocabulary.words α))

/-- A text of an override. -/
def overrideText (entries : Entries) (key : String) : Except OverrideFault String :=
  match Value.field? entries key with
  | some ⟨.text s, _⟩ => .ok s
  | _ => .error (.notText key)

/-- A type override.  Missing keys are reported before values that are not texts. -/
def overrideOf (document : Document) : Except OverrideFault TypeOverride :=
  match document.content with
  | .map found =>
    let entries := document.entries found
    if (Value.field? entries "source").isNone then .error (.missing "source")
    else if (Value.field? entries "target").isNone then .error (.missing "target")
    else do
      let source ← overrideText entries "source"
      let target ← overrideText entries "target"
      pure ⟨source, target⟩
  | _ => .error .notMap

/-- Type overrides, the first of which has an index. -/
def overridesFrom (index : Nat) : List Document → Except OptionsFault (List TypeOverride)
  | [] => .ok []
  | document :: rest => do
    let first ← (overrideOf document).mapError (.overrideAt index)
    let others ← overridesFrom (index + 1) rest
    pure (first :: others)

/-- The option for type overrides. -/
def overridesOption (entries : Entries) : Except OptionsFault (Option (List TypeOverride)) :=
  match Value.field? entries "type-mapping-overrides" with
  | none => .ok none
  | some document =>
    match document.content with
    | .list values => (overridesFrom 0 (document.items values)).map some
    | _ => .error .overridesNotList

/-! ## All options -/

/-- The options in a map with known keys. -/
def ofEntries (entries : Entries) : Except OptionsFault Options := do
  let defaults : Options := {}
  let outputFile ← textOption entries "output-file"
  let packageName ← textOption entries "package-name"
  let runEndpoint ← textOption entries "run-endpoint"
  let validateEndpoint ← textOption entries "validate-endpoint"
  let untypedMapType ← textOption entries "untyped-map-type"
  let filterTypes ← switchOption entries "generate-filter-types"
  let validationAnnotations ← switchOption entries "generate-validation-annotations"
  let validationFunctions ← switchOption entries "generate-validation-functions"
  let channelClient ← switchOption entries "generate-channel-client"
  let warnOnMissingRpc ← switchOption entries "warn-on-missing-rpc-config"
  let warnOnNonRpcReferences ← switchOption entries "warn-on-non-rpc-references"
  let inputFormat ← wordOption Naming.WireFormat entries "input-field-formatter"
  let outputFormat ← wordOption Naming.WireFormat entries "output-field-formatter"
  let datetimeLibrary ← wordOption DatetimeLibrary entries "datetime-library"
  let nullableStrategy ← wordOption NullableStrategy entries "nullable-strategy"
  let typeOverrides ← overridesOption entries
  pure {
    outputFile := outputFile.getD defaults.outputFile
    packageName := packageName
    runEndpoint := runEndpoint.getD defaults.runEndpoint
    validateEndpoint := validateEndpoint.getD defaults.validateEndpoint
    typeOverrides := typeOverrides.getD defaults.typeOverrides
    untypedMapType := untypedMapType.getD defaults.untypedMapType
    inputFormat := inputFormat.getD defaults.inputFormat
    outputFormat := outputFormat.getD defaults.outputFormat
    datetimeLibrary := datetimeLibrary.getD defaults.datetimeLibrary
    nullableStrategy := nullableStrategy.getD defaults.nullableStrategy
    filterTypes := filterTypes.getD defaults.filterTypes
    validationAnnotations := validationAnnotations.getD defaults.validationAnnotations
    validationFunctions := validationFunctions.getD defaults.validationFunctions
    channelClient := channelClient.getD defaults.channelClient
    warnOnMissingRpc := warnOnMissingRpc.getD defaults.warnOnMissingRpc
    warnOnNonRpcReferences := warnOnNonRpcReferences.getD defaults.warnOnNonRpcReferences }

/-- The options that a document describes; null leaves every option at its default. -/
def ofDocument (document : Document) : Except (TypedRpc.Failure OptionsFault) Options :=
  match document.content with
  | .null => .ok {}
  | .map found => do
    checkKeys (found.map Prod.fst)
    (ofEntries (document.entries found)).mapError .refused
  | _ => .error (.refused .notMap)

/-- The options that a text describes. -/
def read (text : List Char) : Except (TypedRpc.Failure OptionsFault) Options :=
  match Yaml.read text with
  | .ok document => ofDocument document
  | .error .malformed => .error (.refused .yaml)
  | .error .tooDeep => .error (.broken (.deepNesting none))
  | .error failure => .error (.broken (.scalar failure))

/-- The entries of options as a document: every option under its key, but no package unless one is
set. -/
def entries (options : Options) : List (String × Value) :=
  [("output-file", .text options.outputFile)] ++
    (options.packageName.map fun name => ("package-name", Value.text name)).toList ++ [
    ("run-endpoint", .text options.runEndpoint),
    ("validate-endpoint", .text options.validateEndpoint),
    ("untyped-map-type", .text options.untypedMapType),
    ("generate-filter-types", .bool options.filterTypes),
    ("generate-validation-annotations", .bool options.validationAnnotations),
    ("generate-validation-functions", .bool options.validationFunctions),
    ("generate-channel-client", .bool options.channelClient),
    ("warn-on-missing-rpc-config", .bool options.warnOnMissingRpc),
    ("warn-on-non-rpc-references", .bool options.warnOnNonRpcReferences),
    ("input-field-formatter", .text options.inputFormat.word),
    ("output-field-formatter", .text options.outputFormat.word),
    ("datetime-library", .text options.datetimeLibrary.word),
    ("nullable-strategy", .text options.nullableStrategy.word),
    ("type-mapping-overrides", .list (options.typeOverrides.map TypeOverride.toValue))]

end Options
end TypedRpc
