import TypedRpc.Naming.Convention
import TypedRpc.Schema.Kinds
import TypedRpc.Text.Case

/-!
# Options of a generation run

Everything about the generated file that the schema does not decide: where it goes, its package, how
names are written on the wire, which types stand for dates and for what the schema leaves open, and
which sections it has.
-/

namespace TypedRpc

namespace Naming

/-- The word for a convention. -/
def WireFormat.word : WireFormat → String
  | .camelCase => "camel_case"
  | .snakeCase => "snake_case"

instance : Vocabulary WireFormat where
  members := [.camelCase, .snakeCase]
  word := WireFormat.word

end Naming

/-- The library whose types stand for dates and times. -/
inductive DatetimeLibrary where
  | kotlinx
  | javaTime
  deriving DecidableEq, Repr

/-- The word for a library. -/
def DatetimeLibrary.word : DatetimeLibrary → String
  | .kotlinx => "kotlinx_datetime"
  | .javaTime => "java_time"

instance : Vocabulary DatetimeLibrary where
  members := [.kotlinx, .javaTime]
  word := DatetimeLibrary.word

/-- How nullable fields of records are declared. -/
inductive NullableStrategy where
  /-- Absent values default to null. -/
  | explicit
  /-- Every value has to be spelled out. -/
  | platform
  deriving DecidableEq, Repr

/-- The word for a strategy. -/
def NullableStrategy.word : NullableStrategy → String
  | .explicit => "explicit"
  | .platform => "platform"

instance : Vocabulary NullableStrategy where
  members := [.explicit, .platform]
  word := NullableStrategy.word

/-- Gives a type of the schema a fixed type of the generated language. -/
structure TypeOverride where
  source : String
  target : String
  deriving DecidableEq, Repr

/-- The options of a generation run. -/
structure Options where
  /-- The path of the generated file. -/
  outputFile : String := "lib/generated/Rpc.kt"
  /-- The package of the generated file; derived from the name of the application when absent. -/
  packageName : Option String := none
  runEndpoint : String := "/rpc/run"
  validateEndpoint : String := "/rpc/validate"
  /-- The first override of a type counts. -/
  typeOverrides : List TypeOverride := []
  /-- The type of maps whose fields are not known. -/
  untypedMapType : String := "Map<String, Any?>"
  inputFormat : Naming.WireFormat := .camelCase
  outputFormat : Naming.WireFormat := .camelCase
  datetimeLibrary : DatetimeLibrary := .kotlinx
  nullableStrategy : NullableStrategy := .explicit
  filterTypes : Bool := false
  validationAnnotations : Bool := false
  validationFunctions : Bool := true
  channelClient : Bool := true
  /-- Warn about resources of domains that clients cannot reach. -/
  warnOnMissingRpc : Bool := true
  /-- Warn about references to resources that clients cannot reach. -/
  warnOnNonRpcReferences : Bool := true
  deriving DecidableEq, Repr

/-- The package of the generated file for an application. -/
def Options.package (options : Options) (app : String) : String :=
  match options.packageName with
  | some name => if name.isEmpty then derived else name
  | none => derived
where
  /-- The package that is named after the application. -/
  derived : String := "com." ++ String.ofList (Text.lower app.toList) ++ ".rpc"

end TypedRpc
