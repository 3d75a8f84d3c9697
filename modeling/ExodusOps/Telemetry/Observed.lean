/-
**The server with its tracing.**

The runs of `observe` are the runs of the server together with the spans its threads open and close
on the way and with the exporter. `ConnectionWorker::handleConnection` keeps one span per connection
from the first frame to the end; every handler, the end of the connection and every OFFLINE
transition of the heartbeat monitor have a span of their own. The text of the exception `parse`
throws (`e.what()`) is a parameter, like the JSON library.

The first part translates what each function sets on its span, the second what the steps of the
server do to the spans and stacks. `server_run`: without its tracing, a run is a run of the server.
-/

import ExodusOps.Server.Texts
import ExodusOps.Telemetry.BatchExporter

namespace ExodusOps

/-! ### What the handlers set -/

/-- What a refused request sets on its span. -/
def OtelScope.refuse (span : OtelScope) (errorCode : String) (description : Bytes) : OtelScope :=
  ((span.setAttribute (text "result") (text "ERROR")).setAttribute (text "error.code")
    (text errorCode)).recordError description

/-- The span of `RegisterHandler::handle`. -/
def RegisterHandler.annotate (codec : JsonCodec) (registry : NodeRegistry)
    (jsonPayload sessionId : Bytes) (durationMs : Int64) (span : OtelScope) : OtelScope :=
  let span := (span.setAttribute (text "operation.name") (text "REGISTER")).setAttribute
    (text "session.id") sessionId
  match codec.parse jsonPayload with
  | none => span.refuse "ERR_MALFORMED" (text "Invalid JSON payload")
  | some json =>
      match validate json with
      | none => span.refuse "ERR_MALFORMED" (text "Missing or invalid required fields")
      | some entry =>
          let span := (span.setAttribute (text "node.id") entry.nodeId).setIntAttribute
            (text "duration_ms") durationMs
          match (registry.registerNode entry).1 with
          | .ok => span.setAttribute (text "result") (text "OK")
          | .errDuplicate =>
              span.refuse "ERR_DUPLICATE"
                (text "Node " ++ entry.nodeId ++ text " already registered")

/-- The span of `handleQueryNode`. -/
def QueryHandler.annotateQueryNode (codec : JsonCodec) (registry : NodeRegistry)
    (jsonPayload sessionId : Bytes) (durationMs : Int64) (span : OtelScope) : OtelScope :=
  let setDuration (span : OtelScope) := span.setIntAttribute (text "duration_ms") durationMs
  let span := (span.setAttribute (text "operation.name") (text "QUERY_NODE")).setAttribute
    (text "session.id") sessionId
  match codec.parse jsonPayload with
  | none => setDuration (span.refuse "ERR_MALFORMED" (text "Invalid JSON payload"))
  | some json =>
      match json.get? (text "node_id") with
      | some (.string nodeId) =>
          let span := span.setAttribute (text "node.id") nodeId
          match registry.queryNode nodeId with
          | none =>
              setDuration
                (span.refuse "ERR_NOT_FOUND" (text "Node " ++ nodeId ++ text " not found"))
          | some _ => setDuration (span.setAttribute (text "result") (text "OK"))
      | _ => setDuration (span.refuse "ERR_MALFORMED" (text "Missing or invalid field: node_id"))

/-- The span of `handleListNodes`. -/
def QueryHandler.annotateListNodes (listing : List NodeEntry) (sessionId : Bytes)
    (durationMs : Int64) (span : OtelScope) : OtelScope :=
  let span := (span.setAttribute (text "operation.name") (text "LIST_NODES")).setAttribute
    (text "session.id") sessionId
  let span := (span.setIntAttribute (text "node_count") (.ofNat listing.length)).setIntAttribute
    (text "duration_ms") durationMs
  span.setAttribute (text "result") (text "OK")

/-- The span of `HeartbeatHandler::handle`, whose key for the session is misspelt. -/
def HeartbeatHandler.annotate (registry : NodeRegistry) (nodeId sessionId : Bytes) (now : Time)
    (span : OtelScope) : OtelScope :=
  let span := ((span.setAttribute (text "node.id") nodeId).setAttribute (text "sesion.id")
    sessionId).setAttribute (text "operation.name") (text "HEARTBEAT")
  if (registry.updateLastSeen nodeId now).1 then span.setAttribute (text "result") (text "OK")
  else span.setAttribute (text "result") (text "UNKNOWN_OR_OFFLINE")

/-- The span of the handler a frame is given to: its name, and what is set on it. A frame of another
type has none. -/
def operationSpan (codec : JsonCodec) (registry : NodeRegistry) (activeNodeId sessionId : Bytes)
    (frame : Frame) (now : Time) (listing : List NodeEntry) (durationMs : Int64) :
    Option (Bytes × (OtelScope → OtelScope)) :=
  if frame.messageType = .register then
    some (text "register_node",
      RegisterHandler.annotate codec registry frame.payload sessionId durationMs)
  else if frame.messageType = .queryNode then
    some (text "query_node",
      QueryHandler.annotateQueryNode codec registry frame.payload sessionId durationMs)
  else if frame.messageType = .listNodes then
    some (text "list_nodes", QueryHandler.annotateListNodes listing sessionId durationMs)
  else if frame.messageType = .heartbeat then
    some (text "heartbeat", HeartbeatHandler.annotate registry activeNodeId sessionId now)
  else none

/-! ### The span of a connection -/

/-- What a step draws and reads; each step uses the part it needs. -/
structure Readings where
  /-- The worker that takes a connection off the queue. -/
  worker : Nat
  /-- The peer's IPv4 address. -/
  peer : UInt8 × UInt8 × UInt8 × UInt8
  /-- For the span of the connection, if this step opens it. -/
  connection : Opening
  /-- For the other span a step opens. -/
  operation : Opening
  durationMs : Int64
  /-- When that span ends. -/
  operationEnd : Time
  /-- When the span of the connection ends. -/
  connectionEnd : Time
  /-- `errno` is `ECONNRESET`. -/
  connectionReset : Bool

/-- `inet_ntop`. -/
def dottedQuad (peer : UInt8 × UInt8 × UInt8 × UInt8) : Bytes :=
  text (toString peer.1.toNat ++ "." ++ toString peer.2.1.toNat ++ "." ++
    toString peer.2.2.1.toNat ++ "." ++ toString peer.2.2.2.toNat)

inductive DisconnectReason where
  | idleTimeout | cleanDisconnect | abruptDisconnect | recvError | socketConfigError
  deriving DecidableEq, Repr

def disconnectReasonToString : DisconnectReason → Bytes
  | .idleTimeout => text "idle_timeout"
  | .cleanDisconnect => text "clean_disconnect"
  | .abruptDisconnect => text "abrupt_disconnect"
  | .recvError => text "recv_error"
  | .socketConfigError => text "socket_config_error"

/-- Why the receive loop ends. -/
def disconnectReason (status : MessageSerializer.FrameReadStatus) (connectionReset : Bool) :
    DisconnectReason :=
  match status with
  | .peerClosed => .cleanDisconnect
  | .timeout => .idleTimeout
  | .ioError => if connectionReset then .abruptDisconnect else .recvError

/-- What tracing does to a connection: the spans it hands to the exporter, its span and the stack
of its thread afterwards. -/
structure Traced where
  spans : List FinishedSpan
  connectionSpan : Option OtelScope
  stack : ScopeStack

/-- `ensureConnectionSpan`. -/
def ensureConnectionSpan (connectionSpan : Option OtelScope) (stack : ScopeStack)
    (opening : Opening) (sessionId clientIp : Bytes) : OtelScope × ScopeStack :=
  match connectionSpan with
  | some span => (span, stack)
  | none =>
      let (span, stack) := OtelScope.connection stack opening sessionId clientIp
      (((span.setAttribute (text "operation.name") (text "CLIENT_CONNECTION")).setAttribute
        (text "session.id") sessionId).setAttribute (text "result") (text "OK"), stack)

/-- The payload of a REGISTER that does not parse. -/
def rejectedPayload (codec : JsonCodec) (frame : Frame) : Option Bytes :=
  if frame.messageType = .register ∧ (codec.parse frame.payload).isNone then some frame.payload
  else none

/-- The message put on the span of the connection for it. -/
def extractionError (what : Bytes → Bytes) (jsonPayload : Bytes) : Bytes :=
  text "JSON parse failed during node_id extraction: " ++ what jsonPayload

/-- The `catch` around the extraction of the `node_id`. -/
def noteExtraction (codec : JsonCodec) (what : Bytes → Bytes) (frame : Frame) (span : OtelScope) :
    OtelScope :=
  match rejectedPayload codec frame with
  | some jsonPayload => span.recordError (extractionError what jsonPayload)
  | none => span

/-- One round of the receive loop, behind `readFrame`. -/
def serveFrame (codec : JsonCodec) (what : Bytes → Bytes) (registry : NodeRegistry)
    (activeNodeId sessionId clientIp : Bytes) (connectionSpan : Option OtelScope)
    (stack : ScopeStack) (frame : Frame) (now : Time) (listing : List NodeEntry)
    (readings : Readings) : Traced :=
  let (span, stack) :=
    ensureConnectionSpan connectionSpan stack readings.connection sessionId clientIp
  -- the handler's span is a child of the connection's: it opens on top of it and closes first
  let span := noteExtraction codec what frame span
  match operationSpan codec registry activeNodeId sessionId frame now listing
      readings.durationMs with
  | none => ⟨[], some span, stack⟩
  | some (name, annotate) =>
      let (operation, stack) := OtelScope.operation stack readings.operation name
      let (finished, stack) := (annotate operation).finish stack readings.operationEnd
      ⟨[finished], some span, stack⟩

/-- What `emitDisconnection` sets on its span. -/
def annotateDisconnection (activeNodeId sessionId : Bytes) (durationMs : Int64)
    (reason : DisconnectReason) (span : OtelScope) : OtelScope :=
  let span := (span.setAttribute (text "operation.name") (text "CLIENT_DISCONNECTION")).setAttribute
    (text "session.id") sessionId
  let span := ((span.setAttribute (text "node.id") activeNodeId).setIntAttribute
    (text "duration_ms") durationMs).setAttribute (text "disconnect.reason")
      (disconnectReasonToString reason)
  if reason = .cleanDisconnect then span.setAttribute (text "result") (text "OK")
  else (span.setAttribute (text "result") (text "ERROR")).recordError
    (disconnectReasonToString reason)

/-- What the end of a connection sets on its span. -/
def closeConnectionSpan (reason : DisconnectReason) (description : Bytes) (span : OtelScope) :
    OtelScope :=
  if reason = .cleanDisconnect then span
  else (span.setAttribute (text "result") (text "ERROR")).recordError description

/-- The end of `handleConnection`. Without a span of the connection there is nothing to report; the
span of the connection ends last, when the function returns. -/
def hangUpSpans (activeNodeId sessionId : Bytes) (connectionSpan : Option OtelScope)
    (stack : ScopeStack) (reason : DisconnectReason) (description : Bytes)
    (readings : Readings) : Traced :=
  match connectionSpan with
  -- a probe that connected and went away
  | none => ⟨[], none, stack⟩
  | some span =>
      let span := closeConnectionSpan reason description span
      let (operation, stack) :=
        OtelScope.operation stack readings.operation (text "client_disconnection")
      let operation :=
        annotateDisconnection activeNodeId sessionId readings.durationMs reason operation
      let (disconnection, stack) := operation.finish stack readings.operationEnd
      let (connection, stack) := span.finish stack readings.connectionEnd
      ⟨[disconnection, connection], none, stack⟩

/-! ### The machine -/

/-- The threads that open spans. -/
inductive ThreadId where
  | worker (index : Nat)
  | monitor
  deriving DecidableEq

/-- What tracing knows of a connection. -/
structure Session where
  clientIp : Bytes
  worker : Nat
  connectionSpan : Option OtelScope

/-- The server, its connections' spans, the scope stacks of its threads and the exporter. -/
structure Observed where
  world : World
  sessions : Nat → Session
  scopeStacks : ThreadId → ScopeStack
  exporter : BatchExporter

/-- The server as it starts. -/
def Observed.boot : Observed := ⟨.boot .empty, fun _ => ⟨[], 0, none⟩, fun _ => [], .initial⟩

/-- A step of the server with what tracing reads, or a step of the exporter. -/
inductive Observation where
  | server (event : Event) (readings : Readings)
  | exporter (event : ExporterEvent)

abbrev ObservedTurn := Transition Observed Observation (Option (Nat × Reply) × List FinishedSpan)

namespace Observed

/-- What a connection's step does to it and its thread. -/
def settle (state : Observed) (conn : Nat) (traced : Traced) : List FinishedSpan × Observed :=
  let session := state.sessions conn
  (traced.spans, { state with
    sessions := Function.update state.sessions conn
      { session with connectionSpan := traced.connectionSpan }
    scopeStacks := Function.update state.scopeStacks (.worker session.worker) traced.stack })

/-- The stack of the thread that serves a connection. -/
def stackOf (state : Observed) (conn : Nat) : ScopeStack :=
  state.scopeStacks (.worker (state.sessions conn).worker)

/-- The spans a connection ends with. -/
def hangUp (state : Observed) (conn : Nat) (reason : DisconnectReason) (description : Bytes)
    (readings : Readings) : List FinishedSpan × Observed :=
  state.settle conn (hangUpSpans (state.world.active conn) (state.world.sessionId conn)
    (state.sessions conn).connectionSpan (state.stackOf conn) reason description readings)

/-- What tracing does in a step of the server: the spans that end in it. -/
def trace (codec : JsonCodec) (what : Bytes → Bytes) (state : Observed) (event : Event)
    (readings : Readings) : List FinishedSpan × Observed :=
  match event.action with
  | .accept =>
      let session := ⟨dottedQuad readings.peer, readings.worker, none⟩
      let newest := state.world.connections.length
      ([], { state with sessions := Function.update state.sessions newest session })
  | .frame conn frame listing =>
      let session := state.sessions conn
      state.settle conn (serveFrame codec what state.world.registry (state.world.active conn)
        (state.world.sessionId conn) session.clientIp session.connectionSpan (state.stackOf conn)
        frame event.now listing readings)
  | .teardown conn status =>
      let reason := disconnectReason status readings.connectionReset
      state.hangUp conn reason (disconnectReasonToString reason) readings
  | .configure conn false =>
      state.hangUp conn .socketConfigError (text "SO_RCVTIMEO failed") readings
  | .tickOffline =>
      match state.world.stale with
      | [] => ([], state)
      | nodeId :: _ =>
          let (span, stack) := OtelScope.operation (state.scopeStacks .monitor) readings.operation
            (text "heartbeat_monitor_offline")
          let (finished, stack) := (span.setAttribute (text "node.id") nodeId).finish stack
            readings.operationEnd
          let scopeStacks := Function.update state.scopeStacks .monitor stack
          ([finished], { state with scopeStacks := scopeStacks })
  | _ => ([], state)

/-- A worker takes a connection only when it has returned from the ones before. -/
def Admits (state : Observed) (event : Event) (readings : Readings) : Prop :=
  event.action = .accept → ∀ conn < state.world.connections.length,
    (state.sessions conn).worker = readings.worker → state.world.phase conn = some .returned

instance (state : Observed) (event : Event) (readings : Readings) :
    Decidable (state.Admits event readings) :=
  inferInstanceAs (Decidable (_ → _))

end Observed

/-- **One step of the server and its exporter**: the answer it sends and the spans it hands to the
exporter. Once `dump` has thrown on the exporter's thread there is no process any more. -/
def observe (codec : JsonCodec) (what : Bytes → Bytes) (config : ServerConfig) (state : Observed) :
    Observation → Option ((Option (Nat × Reply) × List FinishedSpan) × Observed)
  | .server event readings => do
      guard (state.exporter.stage ≠ .terminated ∧ state.Admits event readings)
      let (output, world) ← step codec config state.world event
      let (spans, traced) := state.trace codec what event readings
      some ((output, spans),
        { traced with world := world, exporter := state.exporter.enqueue spans })
  | .exporter event => do
      let exporter ← state.exporter.step codec event
      some ((none, []), { state with exporter := exporter })

/-! ### Inversion -/

section Inversion

variable {codec : JsonCodec} {what : Bytes → Bytes} {config : ServerConfig}
  {state next : Observed} {output : Option (Nat × Reply) × List FinishedSpan}

/-- **A step of the server**, with the tracing it does. -/
theorem observe_server_iff {event : Event} {readings : Readings} :
    observe codec what config state (.server event readings) = some (output, next) ↔
      (state.exporter.stage ≠ .terminated ∧ state.Admits event readings) ∧
        ∃ world, step codec config state.world event = some (output.1, world) ∧
          output.2 = (state.trace codec what event readings).1 ∧
          next = { (state.trace codec what event readings).2 with
            world := world, exporter := state.exporter.enqueue output.2 } := by
  simp only [observe, Option.bind_eq_bind, Option.bind_eq_some_iff, Option.guard_eq_some',
    exists_const, Prod.exists, Option.some.injEq, Prod.mk.injEq]
  constructor
  · rintro ⟨possible, reply, world, taken, rfl, rfl⟩
    exact ⟨possible, world, taken, rfl, rfl⟩
  · rintro ⟨possible, world, taken, spans, rfl⟩
    exact ⟨possible, output.1, world, taken, Prod.ext rfl spans.symm, by rw [← spans]⟩

theorem observe_exporter_iff {event : ExporterEvent} :
    observe codec what config state (.exporter event) = some (output, next) ↔
      ∃ exporter, state.exporter.step codec event = some exporter ∧ output = (none, []) ∧
        next = { state with exporter := exporter } := by
  simp only [observe, Option.bind_eq_bind, Option.bind_eq_some_iff, Option.some.injEq,
    Prod.mk.injEq]
  exact exists_congr fun exporter => and_congr_right fun _ =>
    and_congr eq_comm eq_comm

theorem step_of_observe {event : Event} {readings : Readings}
    (taken : observe codec what config state (.server event readings) = some (output, next)) :
    step codec config state.world event = some (output.1, next.world) := by
  obtain ⟨_, world, stepped, _, rfl⟩ := observe_server_iff.mp taken
  exact stepped

theorem world_of_exporter {event : ExporterEvent}
    (taken : observe codec what config state (.exporter event) = some (output, next)) :
    next.world = state.world := by
  obtain ⟨exporter, _, _, rfl⟩ := observe_exporter_iff.mp taken
  rfl

/-- The step of the server in a step of both. -/
def serverMove (turn : ObservedTurn) : Option Step :=
  match turn.event with
  | .server event _ => some ⟨turn.before.world, event, turn.output.1, turn.after.world⟩
  | .exporter _ => none

/-- **Tracing does not change what the server does.** -/
theorem server_run {trace : List ObservedTurn}
    (run : Run (observe codec what config) .boot trace state) :
    Run (step codec config) (.boot .empty) (trace.filterMap serverMove) state.world := by
  refine Run.project Observed.world serverMove ?_ ?_ run
  · rintro ⟨state, observation, output, next⟩ taken idle
    cases observation with
    | server event readings => cases idle
    | exporter event => exact world_of_exporter taken
  · rintro ⟨state, observation, output, next⟩ other taken moved
    cases observation with
    | exporter event => cases moved
    | server event readings =>
        cases moved
        exact ⟨rfl, rfl, step_of_observe taken⟩

end Inversion

end ExodusOps
