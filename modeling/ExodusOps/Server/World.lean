/-
**The running server: connections, registry and heartbeat monitor.**

A `World` is the shared registry, every connection a worker has taken off the queue and the state
of the heartbeat monitor's sweep. Its steps are the actions of `ThreadPool::workerLoop`,
`ConnectionWorker::handleConnection` and `HeartbeatMonitor::tick`, one registry operation each, so
the runs of `step` are the interleavings of all threads. What a step sends is its output. Clock
readings and the order in which the hash map lists its entries are part of the event. An answer the
JSON library cannot write ends the process, so there is no such step.

Each action has an inversion lemma (`step_frame_iff`, `step_teardown_iff`, …). What later modules
use are the effects they add up to:

* `step_registry` — at most one registry call (`registryCall`) per step.
* `step_active`, `step_phase`, `phase_cases` — what becomes of each connection;
  `connection_of_not_concerned`: a step concerns at most one.
* `step_sweep` — what becomes of the monitor's sweep.
-/

import ExodusOps.Registry.History
import ExodusOps.Server.Handlers
import Mathlib.Data.Option.Basic

namespace ExodusOps

open NodeRegistry (Call perform)

/-! ### Configuration and counters -/

/-- The configuration the monitor reads, with the range `fromEnv` enforces. -/
structure ServerConfig where
  heartbeatIntervalSecs : UInt32
  in_range : 1 ≤ heartbeatIntervalSecs ∧ heartbeatIntervalSecs ≤ 300

/-- The configuration of an empty environment: `DEFAULT_HEARTBEAT_INTERVAL`. -/
def ServerConfig.default : ServerConfig := ⟨5, by decide⟩

/-- Twice the interval, in nanoseconds; the product is of `uint32_t`. -/
def ServerConfig.grace (config : ServerConfig) : Time :=
  (config.heartbeatIntervalSecs * 2).toNat * 1000000000

/-- A session id as text: sixteen hexadecimal digits. -/
def sessionIdText (id : UInt64) : Bytes :=
  ((List.range 16).reverse.map fun place => Nat.digitChar (id.toNat / 16 ^ place % 16)).flatMap
    String.utf8EncodeChar

/-! ### One connection -/

/-- How far a worker has got with a connection. -/
inductive Phase where
  /-- Taken off the queue, with a session id. -/
  | dequeued
  /-- Welcomed, `handleConnection` entered. -/
  | welcomed
  /-- In the receive loop. -/
  | serving
  /-- Closed. -/
  | returned
  deriving DecidableEq, Repr

/-- A connection, with the local variable of `handleConnection` that outlives a frame. -/
structure Connection where
  sessionId : Bytes
  phase : Phase
  activeNodeId : Bytes
  deriving DecidableEq, Repr

/-- The `node_id` that `handleConnection` takes from a REGISTER payload, if it is a string. -/
def extractNodeId (codec : JsonCodec) (jsonPayload : Bytes) : Option Bytes :=
  match codec.parse jsonPayload with
  | none => none
  | some json =>
      match json.get? (text "node_id") with
      | some (.string nodeId) => some nodeId
      | _ => none

theorem extractNodeId_eq_some_iff {codec : JsonCodec} {jsonPayload nodeId : Bytes} :
    extractNodeId codec jsonPayload = some nodeId ↔
      ∃ json, codec.parse jsonPayload = some json ∧
        json.get? (text "node_id") = some (.string nodeId) := by
  unfold extractNodeId
  cases codec.parse jsonPayload with
  | none => simp
  | some json =>
      simp only [Option.some.injEq, exists_eq_left']
      split
      · rename_i named
        rw [named]
        simp
      · rename_i other
        exact ⟨nofun, fun named => absurd named (other nodeId)⟩

/-- What serving one frame leaves behind. -/
structure Served where
  reply : Option Reply
  activeNodeId : Bytes
  registry : NodeRegistry

/-- The `switch` of `handleConnection`. On a REGISTER the id is taken over before the handler
decides. -/
def dispatch (codec : JsonCodec) (registry : NodeRegistry) (activeNodeId : Bytes) (frame : Frame)
    (now : Time) (listing : List NodeEntry) : Served :=
  if frame.messageType = .register then
    let handled := RegisterHandler.handle codec registry frame.messageId frame.payload
    ⟨some handled.1, (extractNodeId codec frame.payload).getD activeNodeId, handled.2⟩
  else if frame.messageType = .queryNode ∨ frame.messageType = .listNodes then
    ⟨some (QueryHandler.handle codec registry frame.messageType frame.messageId frame.payload
      listing), activeNodeId, registry⟩
  else if frame.messageType = .heartbeat then
    ⟨none, activeNodeId, (HeartbeatHandler.handle registry activeNodeId now).2⟩
  else
    ⟨some (errorReply frame.messageId .errMalformed (text "Unknown message type")), activeNodeId,
      registry⟩

def markOfflineIfKnown (registry : NodeRegistry) (nodeId : Bytes) (now : Time) : NodeRegistry :=
  if nodeId = [] then registry else registry.setOffline nodeId now

/-- The welcome of `workerLoop`. -/
def welcomeReply (messageId : UInt32) (now : Time) (sessionId : Bytes) : Reply :=
  ackReply messageId
    (MessageSerializer.buildWelcomePayload (text "0.1.0") (toIso8601 now) sessionId)

/-- The first phase of `tick`: the ids of the entries that are ONLINE and too old. -/
def staleIds (deadline : Time) (snapshot : List NodeEntry) : List Bytes :=
  (snapshot.filter fun entry => entry.status = .online ∧ entry.lastSeenAt < deadline).map
    NodeEntry.nodeId

/-! ### The machine -/

/-- The state of the server. `stale` are the ids the sweep under way has still to turn OFFLINE. -/
structure World where
  registry : NodeRegistry
  connections : List Connection
  deadline : Time
  stale : List Bytes
  sessionCounter : UInt64
  messageCounter : UInt32

/-- The server as it starts, with a registry. -/
def World.boot (registry : NodeRegistry) : World := ⟨registry, [], epoch, [], 0, 0⟩

inductive Action where
  /-- A worker takes a socket off the queue and draws a session id. -/
  | accept
  /-- It draws a message id and sends the welcome; `sent` is what `sendAll` returned. -/
  | welcome (conn : Nat) (sent : Bool)
  /-- `applyReceiveTimeout`. -/
  | configure (conn : Nat) (applied : Bool)
  /-- `readFrame` returned a frame; `listing` is what `listNodes` gives a LIST_NODES. -/
  | frame (conn : Nat) (frame : Frame) (listing : List NodeEntry)
  /-- `readFrame` returned another status, which ends the loop. -/
  | teardown (conn : Nat) (status : MessageSerializer.FrameReadStatus)
  /-- A tick reads the clock and takes its snapshot. -/
  | tickStart (snapshot : List NodeEntry)
  /-- The tick turns the next stale id OFFLINE. -/
  | tickOffline
  deriving DecidableEq

/-- An action and the reading of the clock it takes, if it takes one. -/
structure Event where
  now : Time
  action : Action

namespace World

/-- A connection in a given phase. -/
def inPhase (world : World) (conn : Nat) (phase : Phase) : Option Connection :=
  (world.connections[conn]?).filter fun connection => connection.phase = phase

def put (world : World) (conn : Nat) (connection : Connection) : World :=
  { world with connections := world.connections.set conn connection }

/-- The end of `handleConnection`. -/
def hangUp (world : World) (conn : Nat) (connection : Connection) (now : Time) : World :=
  { world with registry := markOfflineIfKnown world.registry connection.activeNodeId now }.put
    conn { connection with phase := .returned }

end World

/-- **One step of the server**: whom it writes what, and the next state. -/
def step (codec : JsonCodec) (config : ServerConfig) (world : World) (event : Event) :
    Option (Option (Nat × Reply) × World) :=
  match event.action with
  | .accept =>
      let sessionId := world.sessionCounter + 1
      some (none, { world with
        sessionCounter := sessionId
        connections := world.connections ++ [⟨sessionIdText sessionId, .dequeued, []⟩] })
  | .welcome conn sent => do
      let connection ← world.inPhase conn .dequeued
      let messageId := world.messageCounter + 1
      let reply := welcomeReply messageId event.now connection.sessionId
      guard (reply.frame codec).isSome
      let world := { world with messageCounter := messageId }
      if sent then some (some (conn, reply), world.put conn { connection with phase := .welcomed })
      else some (none, world.put conn { connection with phase := .returned })
  | .configure conn applied => do
      let connection ← world.inPhase conn .welcomed
      if applied then some (none, world.put conn { connection with phase := .serving })
      else some (none, world.hangUp conn connection event.now)
  | .frame conn frame listing => do
      let connection ← world.inPhase conn .serving
      guard (frame.messageType = .listNodes → world.registry.IsSnapshot listing)
      let served :=
        dispatch codec world.registry connection.activeNodeId frame event.now listing
      guard (∀ reply ∈ served.reply, (reply.frame codec).isSome)
      some (served.reply.map (conn, ·), { world with registry := served.registry }.put conn
        { connection with activeNodeId := served.activeNodeId })
  | .teardown conn _ => do
      let connection ← world.inPhase conn .serving
      some (none, world.hangUp conn connection event.now)
  | .tickStart snapshot => do
      guard (world.stale = [] ∧ world.registry.IsSnapshot snapshot)
      let deadline := event.now - config.grace
      some (none, { world with deadline := deadline, stale := staleIds deadline snapshot })
  | .tickOffline =>
      match world.stale with
      | [] => none
      | nodeId :: rest =>
          some (none, { world with
            registry := world.registry.setOffline nodeId event.now, stale := rest })

/-! ### Inversion, action by action -/

namespace World

theorem inPhase_eq_some_iff {world : World} {conn : Nat} {phase : Phase}
    {connection : Connection} : world.inPhase conn phase = some connection ↔
      world.connections[conn]? = some connection ∧ connection.phase = phase := by
  simp [inPhase, Option.filter_eq_some_iff]

end World

section Inversion

variable {codec : JsonCodec} {config : ServerConfig} {world next : World} {now : Time}
  {output : Option (Nat × Reply)} {conn : Nat}

theorem step_welcome_iff {sent : Bool} :
    step codec config world ⟨now, .welcome conn sent⟩ = some (output, next) ↔
      ∃ connection, world.connections[conn]? = some connection ∧ connection.phase = .dequeued ∧
        ((welcomeReply (world.messageCounter + 1) now connection.sessionId).frame codec).isSome ∧
        output = (if sent then
          some (conn, welcomeReply (world.messageCounter + 1) now connection.sessionId) else none) ∧
        next = { world with messageCounter := world.messageCounter + 1 }.put conn
          { connection with phase := if sent then .welcomed else .returned } := by
  simp only [step, Option.bind_eq_bind, Option.bind_eq_some_iff, World.inPhase_eq_some_iff,
    Option.guard_eq_some', exists_const, and_assoc]
  cases sent <;> simp [@eq_comm _ output, @eq_comm _ next]

theorem step_configure_iff {applied : Bool} :
    step codec config world ⟨now, .configure conn applied⟩ = some (output, next) ↔
      ∃ connection, world.connections[conn]? = some connection ∧ connection.phase = .welcomed ∧
        output = none ∧
        next = if applied then world.put conn { connection with phase := .serving }
          else world.hangUp conn connection now := by
  simp only [step, Option.bind_eq_bind, Option.bind_eq_some_iff, World.inPhase_eq_some_iff,
    and_assoc]
  cases applied <;> simp [@eq_comm _ output, @eq_comm _ next]

theorem step_frame_iff {frame : Frame} {listing : List NodeEntry} :
    step codec config world ⟨now, .frame conn frame listing⟩ = some (output, next) ↔
      ∃ connection served, world.connections[conn]? = some connection ∧
        connection.phase = .serving ∧
        (frame.messageType = .listNodes → world.registry.IsSnapshot listing) ∧
        served = dispatch codec world.registry connection.activeNodeId frame now listing ∧
        (∀ reply ∈ served.reply, (reply.frame codec).isSome) ∧
        output = served.reply.map (conn, ·) ∧
        next = { world with registry := served.registry }.put conn
          { connection with activeNodeId := served.activeNodeId } := by
  simp only [step, Option.bind_eq_bind, Option.bind_eq_some_iff, World.inPhase_eq_some_iff,
    Option.guard_eq_some', exists_const, and_assoc, Option.some.injEq, Prod.mk.injEq]
  simp [@eq_comm _ output, @eq_comm _ next]

/-- A frame that can be served is served. -/
theorem step_frame_of {frame : Frame} {listing : List NodeEntry} {connection : Connection}
    {served : Served} (found : world.connections[conn]? = some connection)
    (serving : connection.phase = .serving)
    (listed : frame.messageType = .listNodes → world.registry.IsSnapshot listing)
    (dispatched :
      dispatch codec world.registry connection.activeNodeId frame now listing = served)
    (written : ∀ reply ∈ served.reply, (reply.frame codec).isSome) :
    step codec config world ⟨now, .frame conn frame listing⟩ =
      some (served.reply.map (conn, ·), { world with registry := served.registry }.put conn
        { connection with activeNodeId := served.activeNodeId }) :=
  step_frame_iff.mpr
    ⟨connection, served, found, serving, listed, dispatched.symm, written, rfl, rfl⟩

theorem step_teardown_iff {status : MessageSerializer.FrameReadStatus} :
    step codec config world ⟨now, .teardown conn status⟩ = some (output, next) ↔
      ∃ connection, world.connections[conn]? = some connection ∧ connection.phase = .serving ∧
        output = none ∧ next = world.hangUp conn connection now := by
  simp only [step, Option.bind_eq_bind, Option.bind_eq_some_iff, World.inPhase_eq_some_iff,
    and_assoc, Option.some.injEq, Prod.mk.injEq]
  simp [@eq_comm _ output, @eq_comm _ next]

theorem step_tickStart_iff {snapshot : List NodeEntry} :
    step codec config world ⟨now, .tickStart snapshot⟩ = some (output, next) ↔
      world.stale = [] ∧ world.registry.IsSnapshot snapshot ∧ output = none ∧
        next = { world with
          deadline := now - config.grace, stale := staleIds (now - config.grace) snapshot } := by
  simp only [step, Option.bind_eq_bind, Option.bind_eq_some_iff, Option.guard_eq_some',
    exists_const, and_assoc, Option.some.injEq, Prod.mk.injEq]
  simp [@eq_comm _ output, @eq_comm _ next]

theorem step_tickOffline_iff :
    step codec config world ⟨now, .tickOffline⟩ = some (output, next) ↔
      ∃ nodeId rest, world.stale = nodeId :: rest ∧ output = none ∧
        next = { world with registry := world.registry.setOffline nodeId now, stale := rest } := by
  simp only [step]
  cases world.stale <;> simp [@eq_comm _ output, @eq_comm _ next, and_assoc]

end Inversion

/-! ### The effects of a step -/

namespace World

/-- The id a connection would mark OFFLINE; empty when there is none. -/
def active (world : World) (conn : Nat) : Bytes :=
  ((world.connections[conn]?).map Connection.activeNodeId).getD []

def phase (world : World) (conn : Nat) : Option Phase :=
  (world.connections[conn]?).map Connection.phase

theorem active_eq {world : World} {conn : Nat} {connection : Connection}
    (found : world.connections[conn]? = some connection) :
    world.active conn = connection.activeNodeId := by
  rw [active, found]
  rfl

theorem phase_eq {world : World} {conn : Nat} {connection : Connection}
    (found : world.connections[conn]? = some connection) :
    world.phase conn = some connection.phase := by
  rw [phase, found]
  rfl

/-- A step that replaces one connection: the others are as they were. -/
theorem getElem?_replaced {world next : World} {conn : Nat} {old new : Connection}
    (found : world.connections[conn]? = some old)
    (replaced : next.connections = world.connections.set conn new) (other : Nat) :
    next.connections[other]? = if other = conn then some new else world.connections[other]? := by
  have inside : conn < world.connections.length := (List.getElem?_eq_some_iff.mp found).1
  rw [replaced, List.getElem?_set, if_pos inside]
  by_cases same : conn = other
  · rw [if_pos same, if_pos same.symm]
  · rw [if_neg same, if_neg (Ne.symm same)]

theorem active_replaced {world next : World} {conn : Nat} {old new : Connection}
    (found : world.connections[conn]? = some old)
    (replaced : next.connections = world.connections.set conn new) (other : Nat) :
    next.active other = if other = conn then new.activeNodeId else world.active other := by
  rw [active, getElem?_replaced found replaced]
  split <;> rfl

theorem phase_replaced {world next : World} {conn : Nat} {old new : Connection}
    (found : world.connections[conn]? = some old)
    (replaced : next.connections = world.connections.set conn new) (other : Nat) :
    next.phase other = if other = conn then some new.phase else world.phase other := by
  rw [phase, getElem?_replaced found replaced]
  split <;> rfl

/-- A step that keeps the id the connection remembers. -/
theorem active_kept {world next : World} {conn : Nat} {old new : Connection}
    (found : world.connections[conn]? = some old)
    (replaced : next.connections = world.connections.set conn new)
    (same : new.activeNodeId = old.activeNodeId) (other : Nat) :
    next.active other = world.active other := by
  rw [active_replaced found replaced, same]
  split
  · rename_i equal
    rw [equal, active_eq found]
  · rfl

theorem getElem?_accepted {world next : World} {new : Connection}
    (accepted : next.connections = world.connections ++ [new]) (other : Nat) :
    next.connections[other]? =
      if other = world.connections.length then some new else world.connections[other]? := by
  rw [accepted]
  rcases Nat.lt_trichotomy other world.connections.length with below | rfl | above
  · rw [List.getElem?_append_left below, if_neg below.ne]
  · simp
  · rw [List.getElem?_eq_none (by simp; omega), List.getElem?_eq_none (by omega),
      if_neg above.ne']

end World

/-- The call a step makes on the registry. -/
def registryCall (codec : JsonCodec) (world : World) (event : Event) : Option Call :=
  let markOffline (conn : Nat) : Option Call :=
    if world.active conn = [] then none else some (.setOffline (world.active conn) event.now)
  match event.action with
  | .frame conn frame _ =>
      if frame.messageType = .register then
        (RegisterHandler.request codec frame.payload).map .registerNode
      else if frame.messageType = .heartbeat then
        some (.updateLastSeen (world.active conn) event.now)
      else none
  | .teardown conn _ => markOffline conn
  | .configure conn applied => if applied then none else markOffline conn
  | .tickOffline => world.stale.head?.map fun nodeId => .setOffline nodeId event.now
  | _ => none

/-- Apart from the frames, the only call there is is `setOffline`. -/
theorem registryCall_of_not_frame {codec : JsonCodec} {world : World} {event : Event} {call : Call}
    (other : ¬ ∃ conn frame listing, event.action = .frame conn frame listing)
    (called : registryCall codec world event = some call) :
    ∃ nodeId, call = .setOffline nodeId event.now := by
  obtain ⟨now, action⟩ := event
  cases action with
  | frame conn frame listing => exact absurd ⟨conn, frame, listing, rfl⟩ other
  | teardown conn status =>
      obtain ⟨_, same⟩ := Option.ite_none_left_eq_some.mp called
      exact ⟨_, (Option.some.inj same).symm⟩
  | configure conn applied =>
      obtain ⟨_, marked⟩ := Option.ite_none_left_eq_some.mp called
      obtain ⟨_, same⟩ := Option.ite_none_left_eq_some.mp marked
      exact ⟨_, (Option.some.inj same).symm⟩
  | tickOffline =>
      obtain ⟨nodeId, _, same⟩ := Option.map_eq_some_iff.mp called
      exact ⟨nodeId, same.symm⟩
  | accept => cases called
  | welcome conn sent => cases called
  | tickStart snapshot => cases called

/-- The id a REGISTER frame on `conn` names. -/
def namedBy (codec : JsonCodec) (conn : Nat) (event : Event) : Option Bytes :=
  match event.action with
  | .frame sender frame _ =>
      if sender = conn ∧ frame.messageType = .register then extractNodeId codec frame.payload
      else none
  | _ => none

theorem namedBy_eq_some_iff {codec : JsonCodec} {conn : Nat} {event : Event} {named : Bytes} :
    namedBy codec conn event = some named ↔
      ∃ frame listing, event.action = .frame conn frame listing ∧
        frame.messageType = .register ∧ extractNodeId codec frame.payload = some named := by
  obtain ⟨now, action⟩ := event
  cases action with
  | frame sender frame listing =>
      simp only [namedBy, Action.frame.injEq, Option.ite_none_right_eq_some]
      constructor
      · rintro ⟨⟨rfl, register⟩, found⟩
        exact ⟨frame, listing, ⟨rfl, rfl, rfl⟩, register, found⟩
      · rintro ⟨_, _, ⟨rfl, rfl, rfl⟩, register, found⟩
        exact ⟨⟨rfl, register⟩, found⟩
  | _ => simp [namedBy]

/-- The connection an action of the server is about. -/
def concerns (world : World) : Action → Option Nat
  | .accept => some world.connections.length
  | .welcome conn _ => some conn
  | .configure conn _ => some conn
  | .frame conn _ _ => some conn
  | .teardown conn _ => some conn
  | .tickStart _ => none
  | .tickOffline => none

section Effects

variable {codec : JsonCodec} {config : ServerConfig} {world next : World} {event : Event}
  {output : Option (Nat × Reply)}

theorem dispatch_registry (registry : NodeRegistry) (activeNodeId : Bytes) (frame : Frame)
    (now : Time) (listing : List NodeEntry) :
    (dispatch codec registry activeNodeId frame now listing).registry =
      if frame.messageType = .register then
        match RegisterHandler.request codec frame.payload with
        | some entry => (registry.registerNode entry).2
        | none => registry
      else if frame.messageType = .heartbeat then (registry.updateLastSeen activeNodeId now).2
      else registry := by
  unfold dispatch
  split_ifs with register query heartbeat heartbeat
  · exact RegisterHandler.handle_registry codec registry frame.messageId frame.payload
  · rcases query with type | type <;> rw [type] at heartbeat <;> exact absurd heartbeat (by decide)
  · rfl
  · rfl
  · rfl

theorem dispatch_activeNodeId (registry : NodeRegistry) (activeNodeId : Bytes) (frame : Frame)
    (now : Time) (listing : List NodeEntry) :
    (dispatch codec registry activeNodeId frame now listing).activeNodeId =
      if frame.messageType = .register then
        (extractNodeId codec frame.payload).getD activeNodeId
      else activeNodeId := by
  unfold dispatch
  split_ifs <;> rfl

/-- **At most one registry call per step.** -/
theorem step_registry (taken : step codec config world event = some (output, next)) :
    next.registry = ((registryCall codec world event).map fun call =>
      (world.registry.perform call).2).getD world.registry := by
  obtain ⟨now, action⟩ := event
  have hangUp (conn : Nat) (connection : Connection)
      (found : world.connections[conn]? = some connection) :
      (world.hangUp conn connection now).registry =
        ((if world.active conn = [] then none else
          some (Call.setOffline (world.active conn) now)).map fun call =>
            (world.registry.perform call).2).getD world.registry := by
    rw [World.active_eq found, World.hangUp, World.put, markOfflineIfKnown]
    split <;> rfl
  cases action with
  | accept => cases taken; rfl
  | welcome conn sent =>
      obtain ⟨connection, _, _, _, _, rfl⟩ := step_welcome_iff.mp taken
      rfl
  | configure conn applied =>
      obtain ⟨connection, found, _, _, rfl⟩ := step_configure_iff.mp taken
      cases applied with
      | true => rfl
      | false => exact hangUp conn connection found
  | frame conn frame listing =>
      obtain ⟨connection, served, found, _, _, rfl, _, _, rfl⟩ := step_frame_iff.mp taken
      simp only [World.put, dispatch_registry, registryCall, World.active_eq found]
      split_ifs
      · cases RegisterHandler.request codec frame.payload <;> rfl
      · rfl
      · rfl
  | teardown conn status =>
      obtain ⟨connection, found, _, _, rfl⟩ := step_teardown_iff.mp taken
      exact hangUp conn connection found
  | tickStart snapshot =>
      obtain ⟨_, _, _, rfl⟩ := step_tickStart_iff.mp taken
      rfl
  | tickOffline =>
      obtain ⟨nodeId, rest, stale, _, rfl⟩ := step_tickOffline_iff.mp taken
      simp only [registryCall, stale]
      rfl

theorem step_registry_of_none (taken : step codec config world event = some (output, next))
    (idle : registryCall codec world event = none) : next.registry = world.registry := by
  rw [step_registry taken, idle]
  rfl

theorem step_registry_of_some (taken : step codec config world event = some (output, next))
    {call : Call} (called : registryCall codec world event = some call) :
    next.registry = (world.registry.perform call).2 := by
  rw [step_registry taken, called]
  rfl

/-- **The id a connection remembers** changes only when a REGISTER on it names another. -/
theorem step_active (taken : step codec config world event = some (output, next)) (conn : Nat) :
    next.active conn = (namedBy codec conn event).getD (world.active conn) := by
  obtain ⟨now, action⟩ := event
  cases action with
  | accept =>
      cases taken
      rw [World.active, World.getElem?_accepted rfl]
      split
      · rename_i fresh
        rw [World.active, List.getElem?_eq_none fresh.ge]
        rfl
      · rfl
  | welcome target sent =>
      obtain ⟨connection, found, _, _, _, rfl⟩ := step_welcome_iff.mp taken
      exact World.active_kept found rfl (by rfl) conn
  | configure target applied =>
      obtain ⟨connection, found, _, _, rfl⟩ := step_configure_iff.mp taken
      cases applied <;> exact World.active_kept found rfl (by rfl) conn
  | frame target frame listing =>
      obtain ⟨connection, served, found, _, _, rfl, _, _, rfl⟩ := step_frame_iff.mp taken
      rw [World.active_replaced found rfl, dispatch_activeNodeId]
      simp only [namedBy]
      by_cases same : conn = target
      · subst same
        simp only [if_true, true_and, World.active_eq found]
        split_ifs <;> rfl
      · rw [if_neg same, if_neg (fun both => same both.1.symm)]
        rfl
  | teardown target status =>
      obtain ⟨connection, found, _, _, rfl⟩ := step_teardown_iff.mp taken
      exact World.active_kept found rfl (by rfl) conn
  | tickStart snapshot =>
      obtain ⟨_, _, _, rfl⟩ := step_tickStart_iff.mp taken
      rfl
  | tickOffline =>
      obtain ⟨nodeId, rest, _, _, rfl⟩ := step_tickOffline_iff.mp taken
      rfl

/-- **How far a connection is** after a step. -/
theorem step_phase (taken : step codec config world event = some (output, next)) (conn : Nat) :
    next.phase conn =
      match event.action with
      | .accept => if conn = world.connections.length then some .dequeued else world.phase conn
      | .welcome target sent =>
          if conn = target then some (if sent then .welcomed else .returned)
          else world.phase conn
      | .configure target applied =>
          if conn = target then some (if applied then .serving else .returned)
          else world.phase conn
      | .teardown target _ => if conn = target then some .returned else world.phase conn
      | _ => world.phase conn := by
  obtain ⟨now, action⟩ := event
  cases action with
  | accept =>
      cases taken
      rw [World.phase, World.getElem?_accepted rfl]
      simp only
      split <;> rfl
  | welcome target sent =>
      obtain ⟨connection, found, _, _, _, rfl⟩ := step_welcome_iff.mp taken
      exact (World.phase_replaced found (by rfl) conn).trans rfl
  | configure target applied =>
      obtain ⟨connection, found, _, _, rfl⟩ := step_configure_iff.mp taken
      cases applied <;> exact (World.phase_replaced found (by rfl) conn).trans rfl
  | frame target frame listing =>
      obtain ⟨connection, served, found, serving, _, rfl, _, _, rfl⟩ := step_frame_iff.mp taken
      rw [World.phase_replaced found rfl]
      simp only
      split
      · rename_i same
        rw [same, World.phase_eq found]
      · rfl
  | teardown target status =>
      obtain ⟨connection, found, _, _, rfl⟩ := step_teardown_iff.mp taken
      exact (World.phase_replaced found (by rfl) conn).trans rfl
  | tickStart snapshot =>
      obtain ⟨_, _, _, rfl⟩ := step_tickStart_iff.mp taken
      rfl
  | tickOffline =>
      obtain ⟨nodeId, rest, _, _, rfl⟩ := step_tickOffline_iff.mp taken
      rfl

/-- **How a connection moves on**: in a step of its own, from the phase that step is for. -/
theorem phase_cases (taken : step codec config world event = some (output, next)) (conn : Nat) :
    next.phase conn = world.phase conn ∨
    (event.action = .accept ∧ world.phase conn = none ∧ next.phase conn = some .dequeued) ∨
    (∃ sent, event.action = .welcome conn sent ∧ world.phase conn = some .dequeued ∧
      next.phase conn = some (if sent then .welcomed else .returned)) ∨
    (∃ applied, event.action = .configure conn applied ∧ world.phase conn = some .welcomed ∧
      next.phase conn = some (if applied then .serving else .returned)) ∨
    (∃ status, event.action = .teardown conn status ∧ world.phase conn = some .serving ∧
      next.phase conn = some .returned) := by
  have phase := step_phase taken conn
  obtain ⟨now, action⟩ := event
  cases action with
  | accept =>
      by_cases newest : conn = world.connections.length
      · refine .inr (.inl ⟨rfl, ?_, phase.trans (if_pos newest)⟩)
        rw [World.phase, List.getElem?_eq_none newest.ge]
        rfl
      · exact .inl (phase.trans (if_neg newest))
  | welcome target sent =>
      by_cases ours : conn = target
      · subst ours
        obtain ⟨connection, found, dequeued, _⟩ := step_welcome_iff.mp taken
        exact .inr (.inr (.inl ⟨sent, rfl, by rw [World.phase_eq found, dequeued],
          phase.trans (if_pos rfl)⟩))
      · exact .inl (phase.trans (if_neg ours))
  | configure target applied =>
      by_cases ours : conn = target
      · subst ours
        obtain ⟨connection, found, welcomed, _⟩ := step_configure_iff.mp taken
        exact .inr (.inr (.inr (.inl ⟨applied, rfl, by rw [World.phase_eq found, welcomed],
          phase.trans (if_pos rfl)⟩)))
      · exact .inl (phase.trans (if_neg ours))
  | teardown target status =>
      by_cases ours : conn = target
      · subst ours
        obtain ⟨connection, found, serving, _⟩ := step_teardown_iff.mp taken
        exact .inr (.inr (.inr (.inr ⟨status, rfl, by rw [World.phase_eq found, serving],
          phase.trans (if_pos rfl)⟩)))
      · exact .inl (phase.trans (if_neg ours))
  | frame target frame listing => exact .inl phase
  | tickStart snapshot => exact .inl phase
  | tickOffline => exact .inl phase

/-- **A step leaves every other connection alone.** -/
theorem connection_of_not_concerned (taken : step codec config world event = some (output, next))
    {conn : Nat} (other : concerns world event.action ≠ some conn) :
    next.connections[conn]? = world.connections[conn]? := by
  obtain ⟨now, action⟩ := event
  have elsewhere {target : Nat} (named : concerns world action = some target) : conn ≠ target :=
    fun same => other (named.trans (congrArg some same.symm))
  cases action with
  | accept =>
      cases taken
      rw [World.getElem?_accepted rfl, if_neg (elsewhere rfl)]
  | welcome target sent =>
      obtain ⟨connection, found, _, _, _, rfl⟩ := step_welcome_iff.mp taken
      rw [World.getElem?_replaced found rfl, if_neg (elsewhere rfl)]
  | configure target applied =>
      obtain ⟨connection, found, _, _, rfl⟩ := step_configure_iff.mp taken
      cases applied with
      | true => exact (World.getElem?_replaced found rfl conn).trans (if_neg (elsewhere rfl))
      | false => exact (World.getElem?_replaced found rfl conn).trans (if_neg (elsewhere rfl))
  | frame target frame listing =>
      obtain ⟨connection, served, found, _, _, _, _, _, rfl⟩ := step_frame_iff.mp taken
      exact (World.getElem?_replaced found rfl conn).trans (if_neg (elsewhere rfl))
  | teardown target status =>
      obtain ⟨connection, found, _, _, rfl⟩ := step_teardown_iff.mp taken
      exact (World.getElem?_replaced found rfl conn).trans (if_neg (elsewhere rfl))
  | tickStart snapshot =>
      obtain ⟨_, _, _, rfl⟩ := step_tickStart_iff.mp taken
      rfl
  | tickOffline =>
      obtain ⟨_, _, _, _, rfl⟩ := step_tickOffline_iff.mp taken
      rfl

theorem phase_of_not_concerned (taken : step codec config world event = some (output, next))
    {conn : Nat} (other : concerns world event.action ≠ some conn) :
    next.phase conn = world.phase conn := by
  rw [World.phase, World.phase, connection_of_not_concerned taken other]

/-- A serving connection stays so until its teardown. -/
theorem serving_or_teardown (taken : step codec config world event = some (output, next))
    {conn : Nat} (serving : world.phase conn = some .serving) :
    next.phase conn = some .serving ∨ ∃ status, event.action = .teardown conn status := by
  rcases phase_cases taken conn with same | ⟨_, early, _⟩ | ⟨_, _, early, _⟩ | ⟨_, _, early, _⟩ |
    ⟨status, action, _⟩
  · exact .inl (same.trans serving)
  · cases early.symm.trans serving
  · cases early.symm.trans serving
  · cases early.symm.trans serving
  · exact .inr ⟨status, action⟩

/-- A connection that is over stays so. -/
theorem returned_kept (taken : step codec config world event = some (output, next)) {conn : Nat}
    (returned : world.phase conn = some .returned) : next.phase conn = some .returned := by
  rcases phase_cases taken conn with same | ⟨_, early, _⟩ | ⟨_, _, early, _⟩ | ⟨_, _, early, _⟩ |
    ⟨_, _, early, _⟩
  · exact same.trans returned
  all_goals cases early.symm.trans returned

/-- **What a sweep has to do** changes in the steps of the monitor. -/
theorem step_sweep (taken : step codec config world event = some (output, next)) :
    next.deadline = (match event.action with
      | .tickStart _ => event.now - config.grace
      | _ => world.deadline) ∧
    next.stale = match event.action with
      | .tickStart snapshot => staleIds (event.now - config.grace) snapshot
      | .tickOffline => world.stale.tail
      | _ => world.stale := by
  obtain ⟨now, action⟩ := event
  cases action with
  | accept => cases taken; exact ⟨rfl, rfl⟩
  | welcome conn sent =>
      obtain ⟨_, _, _, _, _, rfl⟩ := step_welcome_iff.mp taken
      exact ⟨rfl, rfl⟩
  | configure conn applied =>
      obtain ⟨_, _, _, _, rfl⟩ := step_configure_iff.mp taken
      cases applied <;> exact ⟨rfl, rfl⟩
  | frame conn frame listing =>
      obtain ⟨_, _, _, _, _, _, _, _, rfl⟩ := step_frame_iff.mp taken
      exact ⟨rfl, rfl⟩
  | teardown conn status =>
      obtain ⟨_, _, _, _, rfl⟩ := step_teardown_iff.mp taken
      exact ⟨rfl, rfl⟩
  | tickStart snapshot =>
      obtain ⟨_, _, _, rfl⟩ := step_tickStart_iff.mp taken
      exact ⟨rfl, rfl⟩
  | tickOffline =>
      obtain ⟨nodeId, rest, stale, _, rfl⟩ := step_tickOffline_iff.mp taken
      refine ⟨rfl, ?_⟩
      simp only [stale, List.tail_cons]

end Effects

end ExodusOps
