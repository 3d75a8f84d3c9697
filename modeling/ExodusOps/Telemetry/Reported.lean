/-
**The server with its tracing and its log.**

The runs of `report` are the runs of `observe` with the calls of the logger, which `main` leaves at
its default level INFO. A connection is logged when its first frame has been read and when it ends,
every handler logs what came of its request, after the answer has been sent, and the heartbeat
monitor every OFFLINE transition. Each line carries the ids of the span that is open. When the JSON
library cannot write a line, nothing catches its exception: the process ends (`alive`).

`observed_run`: without its log, a run is a run of the server with its tracing.
-/

import ExodusOps.Telemetry.Logger
import ExodusOps.Telemetry.Observed
import Mathlib.Data.List.TakeWhile

namespace ExodusOps

open Logger

/-! ### What the handlers log -/

/-- The line of `RegisterHandler::handle`. -/
def RegisterHandler.entry (minLevel : Level) (codec : JsonCodec) (registry : NodeRegistry)
    (jsonPayload sessionId : Bytes) : Option Entry :=
  match codec.parse jsonPayload with
  | none => logNodeRegisterError [] sessionId "ERR_MALFORMED"
  | some json =>
      match validate json with
      | none => logNodeRegisterError [] sessionId "ERR_MALFORMED"
      | some entry =>
          match (registry.registerNode entry).1 with
          | .ok => logNodeRegistered minLevel entry.nodeId sessionId
          | .errDuplicate => logNodeRegisterError entry.nodeId sessionId "ERR_DUPLICATE"

/-- The line of `handleQueryNode`. -/
def QueryHandler.queryNodeEntry (minLevel : Level) (codec : JsonCodec) (registry : NodeRegistry)
    (jsonPayload sessionId : Bytes) : Option Entry :=
  match codec.parse jsonPayload with
  | none => logNodeQueried minLevel [] sessionId "ERR_MALFORMED"
  | some json =>
      match json.get? (text "node_id") with
      | some (.string nodeId) =>
          match registry.queryNode nodeId with
          | none => logNodeQueried minLevel nodeId sessionId "ERR_NOT_FOUND"
          | some _ => logNodeQueried minLevel nodeId sessionId "OK"
      | _ => logNodeQueried minLevel [] sessionId "ERR_MALFORMED"

/-- The line of `HeartbeatHandler::handle`. -/
def HeartbeatHandler.entry (minLevel : Level) (registry : NodeRegistry) (nodeId sessionId : Bytes)
    (now : Time) : Option Entry :=
  if (registry.updateLastSeen nodeId now).1 then logHeartbeatReceived minLevel nodeId sessionId
  else logHeartbeatUnknownNode minLevel nodeId sessionId

/-- The line of the handler a frame is given to. -/
def operationEntry (minLevel : Level) (codec : JsonCodec) (registry : NodeRegistry)
    (activeNodeId sessionId : Bytes) (frame : Frame) (now : Time) (listing : List NodeEntry) :
    Option Entry :=
  if frame.messageType = .register then
    RegisterHandler.entry minLevel codec registry frame.payload sessionId
  else if frame.messageType = .queryNode then
    QueryHandler.queryNodeEntry minLevel codec registry frame.payload sessionId
  else if frame.messageType = .listNodes then logNodesListed minLevel sessionId listing.length
  else if frame.messageType = .heartbeat then
    HeartbeatHandler.entry minLevel registry activeNodeId sessionId now
  else none

/-! ### The calls of a step -/

/-- What the log reads in a step besides what tracing reads. -/
structure LogReadings where
  /-- The clock, for the line of a new connection. -/
  connectedAt : Time
  /-- The clock, for the other line of a step. -/
  loggedAt : Time
  /-- `m_activeConnections`. -/
  activeNow : UInt32

/-- A call of the logger. -/
structure LogCall where
  now : Time
  base : BaseFields
  entry : Entry

def LogCall.line (call : LogCall) : Json := call.entry.line call.now call.base

/-- The ids a span gives to its lines. -/
def OtelScope.base (scope : OtelScope) : BaseFields := ⟨scope.traceId, scope.spanId⟩

/-- A call, unless the level keeps it back. -/
def callsOf (now : Time) (span : OtelScope) (entry : Option Entry) : List LogCall :=
  (entry.map fun entry => ⟨now, span.base, entry⟩).toList

/-- The calls in one round of the receive loop. -/
def serveCalls (minLevel : Level) (codec : JsonCodec) (registry : NodeRegistry)
    (activeNodeId sessionId clientIp : Bytes) (connectionSpan : Option OtelScope)
    (stack : ScopeStack) (frame : Frame) (now : Time) (listing : List NodeEntry)
    (readings : Readings) (clock : LogReadings) : List LogCall :=
  let (span, above) :=
    ensureConnectionSpan connectionSpan stack readings.connection sessionId clientIp
  let connected :=
    if connectionSpan.isSome then []
    else callsOf clock.connectedAt span (logConnected minLevel clientIp sessionId clock.activeNow)
  let handled :=
    match operationSpan codec registry activeNodeId sessionId frame now listing
        readings.durationMs with
    | none => []
    | some (name, _) =>
        callsOf clock.loggedAt (OtelScope.operation above readings.operation name).1
          (operationEntry minLevel codec registry activeNodeId sessionId frame now listing)
  connected ++ handled

/-- The call of `emitDisconnection`. -/
def hangUpCalls (minLevel : Level) (activeNodeId sessionId : Bytes)
    (connectionSpan : Option OtelScope) (stack : ScopeStack) (reason : DisconnectReason)
    (readings : Readings) (clock : LogReadings) : List LogCall :=
  if connectionSpan.isSome then
    callsOf clock.loggedAt
      (OtelScope.operation stack readings.operation (text "client_disconnection")).1
      (logDisconnected minLevel activeNodeId sessionId readings.durationMs
        (disconnectReasonToString reason))
  else []

namespace Observed

/-- The calls when a connection ends. -/
def hangUpCalls (state : Observed) (minLevel : Level) (conn : Nat) (reason : DisconnectReason)
    (readings : Readings) (clock : LogReadings) : List LogCall :=
  ExodusOps.hangUpCalls minLevel (state.world.active conn) (state.world.sessionId conn)
    (state.sessions conn).connectionSpan (state.stackOf conn) reason readings clock

/-- The calls of the logger in a step of the server. -/
def calls (minLevel : Level) (codec : JsonCodec) (state : Observed) (event : Event)
    (readings : Readings) (clock : LogReadings) : List LogCall :=
  match event.action with
  | .frame conn frame listing =>
      let session := state.sessions conn
      serveCalls minLevel codec state.world.registry (state.world.active conn)
        (state.world.sessionId conn) session.clientIp session.connectionSpan (state.stackOf conn)
        frame event.now listing readings clock
  | .teardown conn status =>
      state.hangUpCalls minLevel conn (disconnectReason status readings.connectionReset) readings
        clock
  | .configure conn false => state.hangUpCalls minLevel conn .socketConfigError readings clock
  | .tickOffline =>
      match state.world.stale with
      | [] => []
      | nodeId :: _ =>
          callsOf clock.loggedAt (OtelScope.operation (state.scopeStacks .monitor)
            readings.operation (text "heartbeat_monitor_offline")).1
            (logNodeOffline minLevel nodeId)
  | _ => []

end Observed

/-! ### The machine -/

/-- The server, and whether it is still running. -/
structure Reported where
  observed : Observed
  alive : Bool

def Reported.boot : Reported := ⟨.boot, true⟩

/-- A step of the server or the exporter, and what the log reads in it. -/
structure Report where
  observation : Observation
  clock : LogReadings

/-- What a step sends, hands to the exporter and writes to the log. -/
structure Emitted where
  reply : Option (Nat × Reply)
  spans : List FinishedSpan
  lines : List Json

abbrev ReportedTurn := Transition Reported Report Emitted

/-- The lines a step tries to write. -/
def Report.lines (codec : JsonCodec) (state : Observed) (report : Report) : List Json :=
  match report.observation with
  | .server event readings =>
      (state.calls .info codec event readings report.clock).map LogCall.line
  | .exporter _ => []

/-- The library can write the line. -/
def written (codec : JsonCodec) (line : Json) : Bool := (codec.dump line).isSome

/-- **One step of the server, its exporter and its log.** The lines are written until one cannot
be. -/
def report (codec : JsonCodec) (what : Bytes → Bytes) (config : ServerConfig) (state : Reported)
    (event : Report) : Option (Emitted × Reported) := do
  guard (state.alive = true)
  let (output, next) ← observe codec what config state.observed event.observation
  let lines := event.lines codec state.observed
  some (⟨output.1, output.2, lines.takeWhile (written codec)⟩, ⟨next, lines.all (written codec)⟩)

section Inversion

variable {codec : JsonCodec} {what : Bytes → Bytes} {config : ServerConfig}
  {state next : Reported} {event : Report} {emitted : Emitted}

theorem report_iff :
    report codec what config state event = some (emitted, next) ↔
      state.alive = true ∧
        observe codec what config state.observed event.observation =
          some ((emitted.reply, emitted.spans), next.observed) ∧
        emitted.lines = (event.lines codec state.observed).takeWhile (written codec) ∧
        next.alive = (event.lines codec state.observed).all (written codec) := by
  simp only [report, Option.bind_eq_bind, Option.bind_eq_some_iff, Option.guard_eq_some',
    exists_const, Prod.exists, Option.some.injEq, Prod.mk.injEq]
  constructor
  · rintro ⟨alive, reply, spans, observed, taken, rfl, rfl⟩
    exact ⟨alive, taken, rfl, rfl⟩
  · rintro ⟨alive, observed, lines, lives⟩
    refine ⟨alive, _, _, next.observed, observed, ?_, ?_⟩
    · rw [← lines]
    · rw [← lives]

/-- **A step after which the server runs on** has written all its lines. -/
theorem lines_of_alive (taken : report codec what config state event = some (emitted, next))
    (alive : next.alive = true) : emitted.lines = event.lines codec state.observed := by
  obtain ⟨_, _, lines, lives⟩ := report_iff.mp taken
  rw [lives, List.all_eq_true] at alive
  rw [lines]
  exact List.takeWhile_eq_self_iff.mpr alive

/-- The step of the server and its tracing. -/
def observedMove (turn : ReportedTurn) : Option ObservedTurn :=
  some ⟨turn.before.observed, turn.event.observation, (turn.output.reply, turn.output.spans),
    turn.after.observed⟩

/-- **Logging does not change what the server does**, while it runs. -/
theorem observed_run {trace : List ReportedTurn}
    (run : Run (report codec what config) .boot trace state) :
    Run (observe codec what config) .boot (trace.filterMap observedMove) state.observed := by
  refine Run.project Reported.observed observedMove ?_ ?_ run
  · intro turn _ idle
    cases idle
  · intro turn other taken moved
    cases moved
    exact ⟨rfl, rfl, (report_iff.mp taken).2.1⟩

end Inversion

end ExodusOps
