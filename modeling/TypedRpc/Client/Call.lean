import TypedRpc.Client.Payload

/-!
# Functions that call actions

For each action a client has functions that call it over HTTP or over a channel, a function that
turns the raw answer into the result of the action, and for creates and updates a function that
validates an input.  An object for each resource groups the functions under short names.
-/

namespace TypedRpc

open Text (joinLines joinBlocks)

namespace ActionShape

variable (shape : ActionShape)

/-- The name of the function that builds the payload. -/
def payloadBuilder : String :=
  "build" ++ shape.typePrefix ++ "Payload"

/-- The function that calls the action over HTTP. -/
def httpText (options : Options) : String :=
  joinLines [
    "suspend fun " ++ shape.functionName ++ "(",
    "    client: HttpClient,",
    "    config: " ++ shape.configName ++ ",",
    "    endpoint: String = " ++ Target.stringLiteral options.runEndpoint,
    "): " ++ shape.resultName ++ " \x7b",
    "    val response = executeRpc(client, endpoint, " ++ shape.payloadBuilder ++
      "(config), config.headers)",
    "    return to" ++ shape.resultName ++ "(response)",
    "\x7d"]

/-- The milliseconds after which a call over a channel is given up. -/
def channelTimeout : Nat := 10000

/-- The function that calls the action over a channel. -/
def channelText : String :=
  joinLines [
    "suspend fun " ++ shape.functionName ++ "Channel(",
    "    channel: AshRpcChannel,",
    "    config: " ++ shape.configName ++ ",",
    "    timeout: Long = " ++ toString channelTimeout ++ "L",
    "): " ++ shape.resultName ++ " \x7b",
    "    val response = channel.run(" ++ shape.payloadBuilder ++ "(config), timeout)",
    "    return to" ++ shape.resultName ++ "(response)",
    "\x7d"]

end ActionShape

namespace Typing

variable (typing : Typing)

/-- The expression for the data of a successful call. -/
def convertedData (schema : Schema) (shape : ActionShape) : String :=
  let data := typing.successData schema shape
  if data.text = untypedData.text then "response.data"
  else "rpcJson.decodeFromJsonElement<" ++ data.text ++ ">(response.data ?: JsonNull)"

/-- The arguments of a successful result. -/
def successArguments (schema : Schema) (shape : ActionShape) : List String :=
  ("            data = " ++ typing.convertedData schema shape) ::
    (shape.metadataName?.map fun name =>
      "            metadata = response.metadata?.let \x7b rpcJson.decodeFromJsonElement<" ++ name ++
        ">(it) \x7d").toList

/-- The function that turns a raw answer into the result of an action.  What cannot be decoded
becomes an error. -/
def converterText (schema : Schema) (shape : ActionShape) : String :=
  let result := shape.resultName
  joinLines [
    "fun to" ++ result ++ "(response: RpcResult): " ++ result ++ " \x7b",
    "    if (!response.success) \x7b",
    "        return " ++ result ++ ".Error(response.errors ?: emptyList())",
    "    \x7d",
    "    return try \x7b",
    "        " ++ result ++ ".Success(",
    ",\n".intercalate (typing.successArguments schema shape),
    "        )",
    "    \x7d catch (e: SerializationException) \x7b",
    "        " ++ result ++ ".Error(listOf(AshRpcError.deserialization(e)))",
    "    \x7d catch (e: IllegalArgumentException) \x7b",
    "        " ++ result ++ ".Error(listOf(AshRpcError.deserialization(e)))",
    "    \x7d",
    "\x7d"]

/-- Everything needed to call an action over HTTP. -/
def actionText (schema : Schema) (shape : ActionShape) (resource : Resource) : String :=
  joinBlocks [
    (typing.configRecord shape resource).text,
    shape.payloadText typing.options,
    typing.converterText schema shape,
    shape.httpText typing.options]

/-- The function that validates the input of an action, and its parameters. -/
def validationText (shape : ActionShape) (resource : Resource) : String :=
  joinBlocks [
    (typing.validationRecord shape resource).text,
    joinLines [
      "suspend fun validate" ++ shape.typePrefix ++ "(",
      "    client: HttpClient,",
      "    config: " ++ shape.validationConfigName ++ ",",
      "    endpoint: String = " ++ Target.stringLiteral typing.options.validateEndpoint,
      "): ValidationResult \x7b",
      "    val payload = buildJsonObject \x7b",
      joinLines (shape.validationPayload.map fun entry => "        " ++ entry.text),
      "    \x7d",
      "    val response = executeRpc(client, endpoint, payload, config.headers)",
      "    return if (response.success) \x7b",
      "        ValidationResult.Valid",
      "    \x7d else \x7b",
      "        ValidationResult.Invalid(response.errors ?: emptyList())",
      "    \x7d",
      "\x7d"]]

end Typing

/-! ## Objects that group functions -/

/-- The verbs that stand for an action within its resource. -/
def shortVerbs : List String :=
  ["list", "get", "create", "update", "delete", "destroy", "read"]

/-- The characters before the first underscore. -/
def leadingVerb (rpcName : String) : String :=
  String.ofList (rpcName.toList.takeWhile (· ≠ '_'))

/-- The name of a method when no other method has it: a leading verb, or the name of the
function. -/
def ActionShape.methodName (shape : ActionShape) : String :=
  if shortVerbs.contains (leadingVerb shape.rpcName) then leadingVerb shape.rpcName
  else shape.functionName

/-- The names of the methods for some actions, given the names that are taken.  An action whose verb
is taken keeps the name of its function. -/
def methodNames (taken : List String) : List ActionShape → List String
  | [] => []
  | shape :: rest =>
    let name := if taken.contains shape.methodName then shape.functionName else shape.methodName
    name :: methodNames (name :: taken) rest

/-- A method that calls an action over HTTP. -/
def methodText (options : Options) (name : String) (shape : ActionShape) : String :=
  joinLines [
    "    suspend fun " ++ name ++ "(",
    "        client: HttpClient,",
    "        config: " ++ shape.configName ++ ",",
    "        endpoint: String = " ++ Target.stringLiteral options.runEndpoint,
    "    ): " ++ shape.resultName ++ " = " ++ shape.functionName ++ "(client, config, endpoint)"]

/-- The object that groups the functions of a resource. -/
def wrapperText (options : Options) (resource : Resource) (shapes : List ActionShape) : String :=
  let methods := (methodNames [] shapes).zipWith (methodText options) shapes
  "object " ++ resource.declaredTypeName ++ "Rpc \x7b\n" ++ joinBlocks methods ++ "\n\x7d"

end TypedRpc
