import TypedRpc.Text.Blocks

/-!
# Channels

The declarations that calls over a channel need: messages, pushes that are resolved once, a socket
that connects again when the connection is lost, and channels that are joined on it.
-/

namespace TypedRpc
namespace Client

open Text (joinLines)

/-- A message of the channel protocol. -/
def phoenixMessage : String :=
  joinLines [
    "@Serializable",
    "data class PhoenixMessage(",
    "    val joinRef: String? = null,",
    "    val ref: String? = null,",
    "    val topic: String,",
    "    val event: String,",
    "    val payload: JsonElement = JsonObject(emptyMap())",
    ") \x7b",
    "    fun toWire(): String = buildJsonArray \x7b",
    "        add(joinRef?.let \x7b JsonPrimitive(it) \x7d ?: JsonNull)",
    "        add(ref?.let \x7b JsonPrimitive(it) \x7d ?: JsonNull)",
    "        add(JsonPrimitive(topic))",
    "        add(JsonPrimitive(event))",
    "        add(payload)",
    "    \x7d.toString()",
    "",
    "    companion object \x7b",
    "        fun fromWire(text: String): PhoenixMessage \x7b",
    "            val frame = rpcJson.parseToJsonElement(text).jsonArray",
    "            return PhoenixMessage(",
    "                joinRef = frame[0].jsonPrimitive.contentOrNull,",
    "                ref = frame[1].jsonPrimitive.contentOrNull,",
    "                topic = frame[2].jsonPrimitive.content,",
    "                event = frame[3].jsonPrimitive.content,",
    "                payload = frame[4]",
    "            )",
    "        \x7d",
    "    \x7d",
    "\x7d"]

/-- The states of a socket. -/
def socketState : String :=
  joinLines [
    "enum class SocketState \x7b CLOSED, CONNECTING, OPEN \x7d"]

/-- The states of a channel. -/
def channelState : String :=
  joinLines [
    "enum class ChannelState \x7b CLOSED, JOINING, JOINED, ERRORED, LEAVING \x7d"]

/-- How a push ends. -/
def pushStatus : String :=
  joinLines [
    "enum class PushStatus \x7b OK, ERROR, TIMEOUT, CLOSED \x7d"]

/-- The reply to a push. -/
def pushReply : String :=
  joinLines [
    "data class PushReply(val status: PushStatus, val response: JsonElement?)"]

/-- A push, which is resolved once. -/
def push : String :=
  joinLines [
    "class Push(val ref: String) \x7b",
    "    private val reply = CompletableDeferred<PushReply>()",
    "",
    "    // First resolution wins: later replies, timeouts and teardowns are ignored.",
    "    fun resolve(status: PushStatus, response: JsonElement?): Boolean =",
    "        reply.complete(PushReply(status, response))",
    "",
    "    suspend fun await(timeoutMs: Long): PushReply \x7b",
    "        val result = withTimeoutOrNull(timeoutMs) \x7b reply.await() \x7d",
    "        if (result != null) \x7b",
    "            return result",
    "        \x7d",
    "        resolve(PushStatus.TIMEOUT, null)",
    "        return reply.await()",
    "    \x7d",
    "\x7d"]

/-- The socket. -/
def phoenixSocket : String :=
  joinLines [
    "class PhoenixSocket(",
    "    private val client: HttpClient,",
    "    private val url: String,",
    "    private val params: Map<String, String> = emptyMap(),",
    "    private val heartbeatIntervalMs: Long = 30000L,",
    "    private val reconnectBackoffMs: List<Long> = listOf(1000L, 2000L, 5000L, 10000L),",
    "    private val scope: CoroutineScope = CoroutineScope(SupervisorJob() + Dispatchers.Default)",
    ") \x7b",
    "    var state: SocketState = SocketState.CLOSED",
    "        private set",
    "",
    "    private var session: DefaultClientWebSocketSession? = null",
    "    private var refCounter = 0L",
    "    private val refMutex = Mutex()",
    "    private val pending = mutableMapOf<String, Push>()",
    "    private val pendingMutex = Mutex()",
    "    private val channels = mutableListOf<PhoenixChannel>()",
    "    private var heartbeatJob: Job? = null",
    "    private var receiveJob: Job? = null",
    "    private var reconnectAttempt = 0",
    "    private var closedByUser = false",
    "",
    "    suspend fun nextRef(): String = refMutex.withLock \x7b (++refCounter).toString() \x7d",
    "",
    "    fun isConnected(): Boolean = state == SocketState.OPEN",
    "",
    "    suspend fun connect() \x7b",
    "        if (state != SocketState.CLOSED) \x7b",
    "            return",
    "        \x7d",
    "        closedByUser = false",
    "        state = SocketState.CONNECTING",
    "        try \x7b",
    "            val newSession = client.webSocketSession(buildUrl())",
    "            session = newSession",
    "            state = SocketState.OPEN",
    "            reconnectAttempt = 0",
    "            startHeartbeat()",
    "            startReceiving(newSession)",
    "            channels.filter \x7b it.state == ChannelState.ERRORED \x7d.forEach \x7b " ++
      "scope.launch \x7b it.rejoin() \x7d \x7d",
    "        \x7d catch (e: CancellationException) \x7b",
    "            throw e",
    "        \x7d catch (e: Exception) \x7b",
    "            state = SocketState.CLOSED",
    "            scheduleReconnect()",
    "        \x7d",
    "    \x7d",
    "",
    "    suspend fun disconnect() \x7b",
    "        closedByUser = true",
    "        heartbeatJob?.cancel()",
    "        receiveJob?.cancel()",
    "        session?.close(CloseReason(CloseReason.Codes.NORMAL, \"Client disconnect\"))",
    "        session = null",
    "        state = SocketState.CLOSED",
    "        failPending(\"Socket disconnected\")",
    "        channels.forEach \x7b it.onSocketClosed() \x7d",
    "    \x7d",
    "",
    "    fun channel(topic: String, params: JsonObject = JsonObject(emptyMap())): " ++
      "PhoenixChannel \x7b",
    "        val channel = PhoenixChannel(this, topic, params)",
    "        channels.add(channel)",
    "        return channel",
    "    \x7d",
    "",
    "    internal suspend fun send(message: PhoenixMessage, push: Push?) \x7b",
    "        val current = session",
    "        if (state != SocketState.OPEN || current == null) \x7b",
    "            push?.resolve(PushStatus.CLOSED, JsonPrimitive(\"Socket is not connected\"))",
    "            return",
    "        \x7d",
    "        if (push != null) \x7b",
    "            pendingMutex.withLock \x7b pending[push.ref] = push \x7d",
    "        \x7d",
    "        try \x7b",
    "            current.send(Frame.Text(message.toWire()))",
    "        \x7d catch (e: CancellationException) \x7b",
    "            throw e",
    "        \x7d catch (e: Exception) \x7b",
    "            push?.let \x7b removePending(it.ref)?.resolve(PushStatus.CLOSED, " ++
      "JsonPrimitive(\"Send failed\")) \x7d",
    "        \x7d",
    "    \x7d",
    "",
    "    internal suspend fun removePending(ref: String): Push? = pendingMutex.withLock \x7b " ++
      "pending.remove(ref) \x7d",
    "",
    "    private fun buildUrl(): String \x7b",
    "        val query = (params + (\"vsn\" to \"2.0.0\")).entries.joinToString(\"&\") \x7b " ++
      "(key, value) -> \"$key=$value\" \x7d",
    "        val separator = if (url.contains(\"?\")) \"&\" else \"?\"",
    "        return \"$url$separator$query\"",
    "    \x7d",
    "",
    "    private fun startHeartbeat() \x7b",
    "        heartbeatJob?.cancel()",
    "        heartbeatJob = scope.launch \x7b",
    "            while (isActive) \x7b",
    "                delay(heartbeatIntervalMs)",
    "                send(PhoenixMessage(ref = nextRef(), topic = \"phoenix\", event = " ++
      "\"heartbeat\"), null)",
    "            \x7d",
    "        \x7d",
    "    \x7d",
    "",
    "    private fun startReceiving(current: DefaultClientWebSocketSession) \x7b",
    "        receiveJob?.cancel()",
    "        receiveJob = scope.launch \x7b",
    "            try \x7b",
    "                for (frame in current.incoming) \x7b",
    "                    if (frame is Frame.Text) \x7b",
    "                        handle(PhoenixMessage.fromWire(frame.readText()))",
    "                    \x7d",
    "                \x7d",
    "            \x7d catch (e: CancellationException) \x7b",
    "                throw e",
    "            \x7d catch (e: Exception) \x7b",
    "                // A malformed frame ends the session like a dropped connection.",
    "            \x7d",
    "            onConnectionLost()",
    "        \x7d",
    "    \x7d",
    "",
    "    private suspend fun handle(message: PhoenixMessage) \x7b",
    "        val ref = message.ref",
    "        if (message.event == \"phx_reply\" && ref != null) \x7b",
    "            val push = removePending(ref) ?: return",
    "            val reply = message.payload as? JsonObject",
    "            val status = (reply?.get(\"status\") as? JsonPrimitive)?.contentOrNull",
    "            push.resolve(if (status == \"ok\") PushStatus.OK else PushStatus.ERROR, " ++
      "reply?.get(\"response\"))",
    "            return",
    "        \x7d",
    "        channels.filter \x7b it.topic == message.topic \x7d.forEach \x7b " ++
      "it.handle(message) \x7d",
    "    \x7d",
    "",
    "    private suspend fun onConnectionLost() \x7b",
    "        heartbeatJob?.cancel()",
    "        session = null",
    "        state = SocketState.CLOSED",
    "        failPending(\"Connection lost\")",
    "        channels.forEach \x7b it.onSocketClosed() \x7d",
    "        scheduleReconnect()",
    "    \x7d",
    "",
    "    private suspend fun failPending(reason: String) \x7b",
    "        val dropped = pendingMutex.withLock \x7b pending.values.toList().also \x7b " ++
      "pending.clear() \x7d \x7d",
    "        dropped.forEach \x7b it.resolve(PushStatus.CLOSED, JsonPrimitive(reason)) \x7d",
    "    \x7d",
    "",
    "    private fun scheduleReconnect() \x7b",
    "        if (closedByUser) \x7b",
    "            return",
    "        \x7d",
    "        val wait = reconnectBackoffMs[minOf(reconnectAttempt, reconnectBackoffMs.lastIndex)]",
    "        reconnectAttempt += 1",
    "        scope.launch \x7b",
    "            delay(wait)",
    "            connect()",
    "        \x7d",
    "    \x7d",
    "\x7d"]

/-- A channel on a socket. -/
def phoenixChannel : String :=
  joinLines [
    "class PhoenixChannel internal constructor(",
    "    private val socket: PhoenixSocket,",
    "    val topic: String,",
    "    private val params: JsonObject",
    ") \x7b",
    "    var state: ChannelState = ChannelState.CLOSED",
    "        private set",
    "",
    "    private var joinRef: String? = null",
    "    private val handlers = mutableMapOf<String, MutableList<(JsonElement) -> Unit>>()",
    "",
    "    fun isJoined(): Boolean = state == ChannelState.JOINED",
    "",
    "    fun on(event: String, callback: (JsonElement) -> Unit): PhoenixChannel \x7b",
    "        handlers.getOrPut(event) \x7b mutableListOf() \x7d.add(callback)",
    "        return this",
    "    \x7d",
    "",
    "    fun off(event: String): PhoenixChannel \x7b",
    "        handlers.remove(event)",
    "        return this",
    "    \x7d",
    "",
    "    suspend fun join(timeout: Long = 10000L): PushReply \x7b",
    "        state = ChannelState.JOINING",
    "        val ref = socket.nextRef()",
    "        joinRef = ref",
    "        val message = PhoenixMessage(joinRef = ref, ref = ref, topic = topic, event = " ++
      "\"phx_join\", payload = params)",
    "        val reply = request(message, timeout)",
    "        state = if (reply.status == PushStatus.OK) ChannelState.JOINED else " ++
      "ChannelState.ERRORED",
    "        return reply",
    "    \x7d",
    "",
    "    suspend fun leave(timeout: Long = 10000L): PushReply \x7b",
    "        state = ChannelState.LEAVING",
    "        val message = PhoenixMessage(joinRef = joinRef, ref = socket.nextRef(), topic = " ++
      "topic, event = \"phx_leave\")",
    "        val reply = request(message, timeout)",
    "        state = ChannelState.CLOSED",
    "        return reply",
    "    \x7d",
    "",
    "    suspend fun push(event: String, payload: JsonElement, timeout: Long = 10000L): " ++
      "PushReply \x7b",
    "        if (state != ChannelState.JOINED) \x7b",
    "            return PushReply(PushStatus.CLOSED, JsonPrimitive(\"Channel $topic is not " ++
      "joined\"))",
    "        \x7d",
    "        val ref = socket.nextRef()",
    "        val message = PhoenixMessage(joinRef = joinRef, ref = ref, topic = topic, event = " ++
      "event, payload = payload)",
    "        return request(message, timeout)",
    "    \x7d",
    "",
    "    internal suspend fun rejoin() \x7b",
    "        if (state == ChannelState.ERRORED) \x7b",
    "            join()",
    "        \x7d",
    "    \x7d",
    "",
    "    internal fun onSocketClosed() \x7b",
    "        if (state == ChannelState.JOINED || state == ChannelState.JOINING) \x7b",
    "            state = ChannelState.ERRORED",
    "        \x7d",
    "    \x7d",
    "",
    "    internal fun handle(message: PhoenixMessage) \x7b",
    "        when (message.event) \x7b",
    "            \"phx_error\" -> state = ChannelState.ERRORED",
    "            \"phx_close\" -> state = ChannelState.CLOSED",
    "        \x7d",
    "        handlers[message.event]?.forEach \x7b it(message.payload) \x7d",
    "    \x7d",
    "",
    "    private suspend fun request(message: PhoenixMessage, timeout: Long): PushReply \x7b",
    "        val push = Push(message.ref!!)",
    "        socket.send(message, push)",
    "        val reply = push.await(timeout)",
    "        if (reply.status == PushStatus.TIMEOUT) \x7b",
    "            socket.removePending(push.ref)",
    "        \x7d",
    "        return reply",
    "    \x7d",
    "\x7d"]

/-- A channel over which actions are called. -/
def rpcChannel : String :=
  joinLines [
    "class AshRpcChannel(val channel: PhoenixChannel, private val event: String = \"run\") \x7b",
    "    val state: ChannelState",
    "        get() = channel.state",
    "",
    "    suspend fun join(timeout: Long = 10000L): PushReply = channel.join(timeout)",
    "",
    "    suspend fun leave(timeout: Long = 10000L): PushReply = channel.leave(timeout)",
    "",
    "    suspend fun run(payload: JsonObject, timeout: Long = 10000L): RpcResult \x7b",
    "        val reply = channel.push(event, payload, timeout)",
    "        return when (reply.status) \x7b",
    "            PushStatus.TIMEOUT -> RpcResult.failure(AshRpcError.timeout(timeout))",
    "            PushStatus.CLOSED -> RpcResult.failure(",
    "                AshRpcError.connectionClosed((reply.response as? " ++
      "JsonPrimitive)?.contentOrNull ?: \"Channel closed\")",
    "            )",
    "            PushStatus.OK, PushStatus.ERROR -> decodeReply(reply.response)",
    "        \x7d",
    "    \x7d",
    "",
    "    private fun decodeReply(response: JsonElement?): RpcResult \x7b",
    "        if (response == null || response is JsonNull) \x7b",
    "            return RpcResult.failure(AshRpcError.emptyResponse())",
    "        \x7d",
    "        return try \x7b",
    "            rpcJson.decodeFromJsonElement<RpcResult>(response)",
    "        \x7d catch (e: SerializationException) \x7b",
    "            RpcResult.failure(AshRpcError.deserialization(e))",
    "        \x7d catch (e: IllegalArgumentException) \x7b",
    "            RpcResult.failure(AshRpcError.deserialization(e))",
    "        \x7d",
    "    \x7d",
    "\x7d"]

/-- Everything that calls over a channel need. -/
def channelRuntime : String :=
  Text.joinBlocks [
    phoenixMessage, socketState, channelState, pushStatus, pushReply, push,
    phoenixSocket, phoenixChannel, rpcChannel]

end Client
end TypedRpc
