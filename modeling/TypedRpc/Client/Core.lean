import TypedRpc.Options.Basic
import TypedRpc.Text.Blocks

/-!
# Declarations that every client has

The banner and the imports at the top of a client, and the declarations that do not depend on the
schema: aliases, errors, the HTTP client, raw results and the results of validations.
-/

namespace TypedRpc
namespace Client

open Text (joinLines)

/-- The banner and the package. -/
def header (package : String) : String :=
  "// Generated by rpcgen - Do not edit manually\n\npackage " ++ package

/-- The import of the types for dates and times. -/
def dateImport : DatetimeLibrary → String
  | .kotlinx => "import kotlinx.datetime.*"
  | .javaTime => "import java.time.*"

/-- The imports for calls over channels. -/
def channelImports : List String := [
  "import io.ktor.client.plugins.websocket.*",
  "import io.ktor.websocket.*",
  "import kotlinx.coroutines.*",
  "import kotlinx.coroutines.sync.Mutex",
  "import kotlinx.coroutines.sync.withLock"]

/-- The imports that every client needs. -/
def coreImports (library : DatetimeLibrary) : List String := [
  "import kotlinx.serialization.*",
  "import kotlinx.serialization.json.*",
  dateImport library,
  "import io.ktor.client.*",
  "import io.ktor.client.call.*",
  "import io.ktor.client.request.*",
  "import io.ktor.client.statement.*",
  "import io.ktor.client.plugins.contentnegotiation.*",
  "import io.ktor.serialization.kotlinx.json.*",
  "import io.ktor.http.*",
  "import kotlinx.coroutines.CancellationException"]

/-- The imports of a client. -/
def imports (options : Options) : List String :=
  coreImports options.datetimeLibrary ++
    (if options.channelClient then channelImports else []) ++
    (if options.validationAnnotations then ["import javax.validation.constraints.*"] else [])

/-- The imports as they are written. -/
def importsText (options : Options) : String :=
  joinLines (imports options)

/-- Aliases for texts with a meaning. -/
def typeAliases : String :=
  joinLines [
    "typealias UUID = String",
    "typealias Decimal = String"]

/-- The error of a call. -/
def errorTypes : String :=
  joinLines [
    "@Serializable",
    "data class AshRpcError(",
    "    val type: String? = null,",
    "    val message: String? = null,",
    "    @SerialName(\"short_message\")",
    "    val shortMessage: String? = null,",
    "    val vars: Map<String, JsonElement> = emptyMap(),",
    "    val fields: List<String> = emptyList(),",
    "    val path: List<JsonElement> = emptyList(),",
    "    val details: JsonElement? = null",
    ") \x7b",
    "    companion object \x7b",
    "        const val NETWORK_ERROR = \"network_error\"",
    "        const val DESERIALIZATION_ERROR = \"deserialization_error\"",
    "        const val TIMEOUT = \"timeout\"",
    "        const val EMPTY_RESPONSE = \"empty_response\"",
    "        const val CONNECTION_CLOSED = \"connection_closed\"",
    "",
    "        fun network(cause: Throwable) =",
    "            AshRpcError(type = NETWORK_ERROR, message = cause.message ?: \"Network request " ++
      "failed\")",
    "",
    "        fun deserialization(cause: Throwable) =",
    "            AshRpcError(type = DESERIALIZATION_ERROR, message = cause.message ?: " ++
      "\"Malformed server response\")",
    "",
    "        fun timeout(timeoutMs: Long) =",
    "            AshRpcError(type = TIMEOUT, message = \"No reply within $\x7btimeoutMs\x7dms\")",
    "",
    "        fun emptyResponse() =",
    "            AshRpcError(type = EMPTY_RESPONSE, message = \"Server returned an empty " ++
      "response\")",
    "",
    "        fun connectionClosed(reason: String) =",
    "            AshRpcError(type = CONNECTION_CLOSED, message = reason)",
    "    \x7d",
    "\x7d"]

/-- The HTTP client and the form of its messages. -/
def httpClient : String :=
  joinLines [
    "val rpcJson = Json \x7b",
    "    ignoreUnknownKeys = true",
    "    isLenient = true",
    "    explicitNulls = false",
    "\x7d",
    "",
    "fun createHttpClient(): HttpClient \x7b",
    "    return HttpClient \x7b",
    "        install(ContentNegotiation) \x7b",
    "            json(rpcJson)",
    "        \x7d",
    "    \x7d",
    "\x7d"]

/-- The raw result of a call, and how calls are made. -/
def resultWrapper : String :=
  joinLines [
    "@Serializable",
    "data class RpcResult(",
    "    val success: Boolean,",
    "    val data: JsonElement? = null,",
    "    val errors: List<AshRpcError>? = null,",
    "    val metadata: JsonElement? = null",
    ") \x7b",
    "    fun isSuccess(): Boolean = success",
    "    fun isError(): Boolean = !success",
    "",
    "    companion object \x7b",
    "        fun failure(error: AshRpcError) = RpcResult(success = false, errors = listOf(error))",
    "    \x7d",
    "\x7d",
    "",
    "fun anyToJsonElement(value: Any?): JsonElement = when (value) \x7b",
    "    null -> JsonNull",
    "    is JsonElement -> value",
    "    is String -> JsonPrimitive(value)",
    "    is Number -> JsonPrimitive(value)",
    "    is Boolean -> JsonPrimitive(value)",
    "    is Enum<*> -> JsonPrimitive(value.name)",
    "    is Map<*, *> -> JsonObject(value.entries.associate \x7b (key, item) -> key.toString() " ++
      "to anyToJsonElement(item) \x7d)",
    "    is Iterable<*> -> JsonArray(value.map \x7b anyToJsonElement(it) \x7d)",
    "    is Array<*> -> JsonArray(value.map \x7b anyToJsonElement(it) \x7d)",
    "    else -> JsonPrimitive(value.toString())",
    "\x7d",
    "",
    "suspend fun executeRpc(",
    "    client: HttpClient,",
    "    endpoint: String,",
    "    payload: JsonObject,",
    "    headers: Map<String, String> = emptyMap()",
    "): RpcResult \x7b",
    "    val text = try \x7b",
    "        client.post(endpoint) \x7b",
    "            contentType(ContentType.Application.Json)",
    "            headers.forEach \x7b (key, value) -> header(key, value) \x7d",
    "            setBody(payload.toString())",
    "        \x7d.bodyAsText()",
    "    \x7d catch (e: CancellationException) \x7b",
    "        throw e",
    "    \x7d catch (e: Exception) \x7b",
    "        return RpcResult.failure(AshRpcError.network(e))",
    "    \x7d",
    "    if (text.isBlank()) \x7b",
    "        return RpcResult.failure(AshRpcError.emptyResponse())",
    "    \x7d",
    "    return try \x7b",
    "        rpcJson.decodeFromString<RpcResult>(text)",
    "    \x7d catch (e: SerializationException) \x7b",
    "        RpcResult.failure(AshRpcError.deserialization(e))",
    "    \x7d catch (e: IllegalArgumentException) \x7b",
    "        RpcResult.failure(AshRpcError.deserialization(e))",
    "    \x7d",
    "\x7d"]

/-- The result of a validation. -/
def validationTypes : String :=
  joinLines [
    "sealed class ValidationResult \x7b",
    "    abstract val valid: Boolean",
    "",
    "    object Valid : ValidationResult() \x7b",
    "        override val valid: Boolean = true",
    "    \x7d",
    "",
    "    data class Invalid(",
    "        val errors: List<AshRpcError>",
    "    ) : ValidationResult() \x7b",
    "        override val valid: Boolean = false",
    "    \x7d",
    "\x7d"]

end Client
end TypedRpc
