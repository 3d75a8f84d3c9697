/-
**Which log lines can be written.**

Everything on a log line is a constant, a number, an id the server made, or the id of a node, which
came through the JSON parser and is well-formed. But the id of a node may be of any length, and a
long one is cut after 512 bytes, in the middle of a character if one happens to be there. The JSON
library throws on what is left, in the worker that has just sent the answer, and nothing catches the
exception.

* `loggedId` — the id of a node a step logs.
* `calls_wellFormed_iff` — **one step**: its lines can be written when that id is not cut in two.
* `logging_survives_iff` — **whole runs**: the server runs on exactly as long as no id it logs is
  cut in two.
* `register_cut_in_two` — a REGISTER that is acknowledged and ends the process.
-/

import ExodusOps.Telemetry.Bracketing
import ExodusOps.Telemetry.Exported

namespace ExodusOps

open Logger

variable {codec : JsonCodec} {what : Bytes → Bytes} {config : ServerConfig}

/-! ### The ids of the server -/

theorem dottedQuad_plain (peer : UInt8 × UInt8 × UInt8 × UInt8) : Plain (dottedQuad peer) := by
  have joined (first second : String) : text (first ++ second) = text first ++ text second := by
    simp [text]
  have octet : ∀ number < 256, (text (toString number)).length ≤ 3 := by decide +kernel
  refine ⟨utf8_text _, ?_⟩
  have one := octet _ peer.1.toNat_lt
  have two := octet _ peer.2.1.toNat_lt
  have three := octet _ peer.2.2.1.toNat_lt
  have four := octet _ peer.2.2.2.toNat_lt
  simp only [dottedQuad, joined, List.length_append, show (text ".").length = 1 from rfl,
    maxLogFieldLength]
  omega

theorem sessionIdText_hex (id : UInt64) : HexId (sessionIdText id) :=
  ⟨sessionIdText_digits id, by rw [sessionIdText_length]; decide⟩

/-- The texts of a connection besides the id of its node are short. -/
structure Addressed (state : Observed) : Prop where
  session_id : ∀ conn, Plain (state.world.sessionId conn)
  client_ip : ∀ conn, Plain (state.sessions conn).clientIp

theorem plain_nil : Plain [] := ⟨utf8_text "", Nat.zero_le _⟩

theorem addressed_of_run {trace : List ObservedTurn} {state : Observed}
    (run : Run (observe codec what config) .boot trace state) : Addressed state := by
  constructor
  · intro conn
    rcases sessionId_cases (server_run run) conn with absent | ⟨id, counted⟩
    · rw [absent]
      exact plain_nil
    · rw [counted]
      exact (sessionIdText_hex id).plain
  · refine run.invariant (fun state => ∀ conn, Plain (state.sessions conn).clientIp)
      (fun _ => plain_nil) ?_
    intro state observation output next taken plain conn
    cases observation with
    | exporter event =>
        obtain ⟨exporter, _, _, rfl⟩ := observe_exporter_iff.mp taken
        exact plain conn
    | server event readings =>
        obtain ⟨_, world, _, _, rfl⟩ := observe_server_iff.mp taken
        simp only
        by_cases about : concerns state.world event.action = some conn
        · obtain ⟨now, action⟩ := event
          -- the address is set when the connection is accepted, and kept
          cases action with
          | accept =>
              cases about
              simp only [Observed.trace, Function.update_self]
              exact dottedQuad_plain _
          | frame target frame listing =>
              cases about
              simp only [Observed.trace, Observed.settle, Function.update_self]
              exact plain conn
          | teardown target status =>
              cases about
              simp only [Observed.trace, Observed.hangUp, Observed.settle, Function.update_self]
              exact plain conn
          | configure target applied =>
              cases about
              cases applied with
              | true => exact plain conn
              | false =>
                  simp only [Observed.trace, Observed.hangUp, Observed.settle,
                    Function.update_self]
                  exact plain conn
          | welcome target sent => exact plain conn
          | tickStart snapshot => cases about
          | tickOffline => cases about
        · rw [session_of_not_concerned readings about]
          exact plain conn

/-! ### The id of a node on a line -/

/-- The id of a node the handler of a frame logs. -/
def frameLoggedId (codec : JsonCodec) (activeNodeId : Bytes) (frame : Frame) : Option Bytes :=
  if frame.messageType = .register then
    (RegisterHandler.request codec frame.payload).map NodeEntry.nodeId
  else if frame.messageType = .queryNode then extractNodeId codec frame.payload
  else if frame.messageType = .listNodes then none
  else if frame.messageType = .heartbeat then some activeNodeId
  else none

/-- The id of a node a step of the server logs. -/
def loggedId (codec : JsonCodec) (state : Observed) (event : Event) : Option Bytes :=
  let hangUp (conn : Nat) : Option Bytes :=
    if (state.sessions conn).connectionSpan.isSome then some (state.world.active conn) else none
  match event.action with
  | .frame conn frame _ => frameLoggedId codec (state.world.active conn) frame
  | .teardown conn _ => hangUp conn
  | .configure conn false => hangUp conn
  | .tickOffline => state.world.stale.head?
  | _ => none

/-- **Every id that is logged is well-formed**, before it is cut. -/
theorem loggedId_utf8 (lawful : codec.Lawful) {state : Observed} (texts : state.world.Texts)
    {event : Event} {nodeId : Bytes} (logged : loggedId codec state event = some nodeId) :
    Utf8 nodeId := by
  obtain ⟨now, action⟩ := event
  have hangUp {conn : Nat} (ended : (if (state.sessions conn).connectionSpan.isSome then
      some (state.world.active conn) else none) = some nodeId) : Utf8 nodeId := by
    obtain ⟨_, same⟩ := Option.ite_none_right_eq_some.mp ended
    exact Option.some.inj same ▸ texts.active conn
  cases action with
  | frame conn frame listing =>
      simp only [loggedId, frameLoggedId] at logged
      split_ifs at logged
      · obtain ⟨entry, valid, rfl⟩ := Option.map_eq_some_iff.mp logged
        exact (RegisterHandler.request_utf8 lawful valid).node_id
      · exact extractNodeId_utf8 lawful logged
      · exact Option.some.inj logged ▸ texts.active conn
  | teardown conn status => exact hangUp logged
  | configure conn applied =>
      cases applied with
      | true => cases logged
      | false => exact hangUp logged
  | tickOffline => exact texts.stale nodeId (List.mem_of_head? logged)
  | accept => cases logged
  | welcome conn sent => cases logged
  | tickStart snapshot => cases logged

/-- A line about a node can be written when its id can. -/
theorem nodeEntry_writable_iff {level : Level} {event message : String} {nodeId sessionId : Bytes}
    {more : List (Bytes × Json)} (session : Plain sessionId)
    (fine : ∀ field ∈ more, Utf8 field.1 ∧ field.2.WellFormed) :
    (nodeEntry level event nodeId sessionId more message).Writable ↔
      Utf8 (sanitizeText nodeId) := by
  rw [Entry.Writable, nodeEntry, List.forall_mem_cons, List.forall_mem_cons]
  constructor
  · exact fun every => every.1.2
  · exact fun named => ⟨⟨utf8_text _, named⟩, ⟨utf8_text _, session.sanitized⟩, fine⟩

/-- A line with a constant on it. -/
theorem nodeEntry_text_writable_iff {level : Level} {event message key value : String}
    {nodeId sessionId : Bytes} (session : Plain sessionId)
    (short : (text value).length ≤ maxLogFieldLength) :
    (nodeEntry level event nodeId sessionId [field key (text value)] message).Writable ↔
      Utf8 (sanitizeText nodeId) := by
  have plain : Plain (text value) := ⟨utf8_text _, short⟩
  exact nodeEntry_writable_iff session
    (List.forall_mem_singleton.mpr ⟨utf8_text _, plain.sanitized⟩)

theorem RegisterHandler.entry_writable_iff {registry : NodeRegistry} {jsonPayload sessionId : Bytes}
    (session : Plain sessionId) :
    (∀ logged ∈ entry .info codec registry jsonPayload sessionId, logged.Writable) ↔
      ∀ nodeId ∈ (request codec jsonPayload).map NodeEntry.nodeId, Utf8 (sanitizeText nodeId) := by
  have refused {nodeId : Bytes} {reason : String}
      (short : (text reason).length ≤ maxLogFieldLength) :
      (∀ logged ∈ logNodeRegisterError nodeId sessionId reason, logged.Writable) ↔
        Utf8 (sanitizeText nodeId) := by
    simp only [logNodeRegisterError, Option.mem_some_iff, forall_eq']
    exact nodeEntry_text_writable_iff session short
  have malformed : ∀ logged ∈ logNodeRegisterError [] sessionId "ERR_MALFORMED", logged.Writable :=
    (refused (by decide)).mpr plain_nil.sanitized
  unfold entry request
  cases codec.parse jsonPayload with
  | none => exact iff_of_true malformed (by simp)
  | some json =>
      rw [Option.bind_some]
      simp only
      cases validate json with
      | none => exact iff_of_true malformed (by simp)
      | some requested =>
          simp only [Option.map_some, Option.mem_some_iff, forall_eq']
          cases (registry.registerNode requested).1 with
          | ok =>
              simp only [logNodeRegistered, admits_info, Option.mem_some_iff, forall_eq']
              exact nodeEntry_writable_iff session (List.forall_mem_nil _)
          | errDuplicate => exact refused (by decide)

theorem QueryHandler.queryNodeEntry_writable_iff {registry : NodeRegistry}
    {jsonPayload sessionId : Bytes} (session : Plain sessionId) :
    (∀ entry ∈ queryNodeEntry .info codec registry jsonPayload sessionId, entry.Writable) ↔
      ∀ nodeId ∈ extractNodeId codec jsonPayload, Utf8 (sanitizeText nodeId) := by
  have queried {nodeId : Bytes} {result : String}
      (short : (text result).length ≤ maxLogFieldLength) :
      (∀ entry ∈ logNodeQueried .info nodeId sessionId result, entry.Writable) ↔
        Utf8 (sanitizeText nodeId) := by
    simp only [logNodeQueried, admits_info, Option.mem_some_iff, forall_eq']
    exact nodeEntry_text_writable_iff session short
  have malformed : ∀ entry ∈ logNodeQueried .info [] sessionId "ERR_MALFORMED", entry.Writable :=
    (queried (by decide)).mpr plain_nil.sanitized
  unfold queryNodeEntry extractNodeId
  cases codec.parse jsonPayload with
  | none => exact iff_of_true malformed (by simp)
  | some json =>
      cases named : json.get? (text "node_id") with
      | none =>
          simp only [named]
          exact iff_of_true malformed (by simp)
      | some value =>
          cases value with
          | string nodeId =>
              simp only [named, Option.mem_some_iff, forall_eq']
              cases registry.queryNode nodeId <;> exact queried (by decide)
          | _ =>
              simp only [named]
              exact iff_of_true malformed (by simp)

theorem HeartbeatHandler.entry_writable_iff {registry : NodeRegistry} {nodeId sessionId : Bytes}
    {now : Time} (session : Plain sessionId) :
    (∀ logged ∈ entry .info registry nodeId sessionId now, logged.Writable) ↔
      Utf8 (sanitizeText nodeId) := by
  unfold entry
  split
  · simp only [logHeartbeatReceived, admits_info, Option.mem_some_iff, forall_eq']
    exact nodeEntry_writable_iff session (List.forall_mem_nil _)
  · simp only [logHeartbeatUnknownNode, admits_info, Option.mem_some_iff, forall_eq']
    exact nodeEntry_writable_iff session (List.forall_mem_nil _)

/-- **The line of a handler** can be written when the id it logs can. -/
theorem operationEntry_writable_iff {sessionId : Bytes} (session : Plain sessionId)
    (registry : NodeRegistry) (activeNodeId : Bytes) (frame : Frame) (now : Time)
    (listing : List NodeEntry) :
    (∀ entry ∈ operationEntry .info codec registry activeNodeId sessionId frame now listing,
        entry.Writable) ↔
      ∀ nodeId ∈ frameLoggedId codec activeNodeId frame, Utf8 (sanitizeText nodeId) := by
  unfold operationEntry frameLoggedId
  split_ifs
  · exact RegisterHandler.entry_writable_iff session
  · exact QueryHandler.queryNodeEntry_writable_iff session
  · simp only [logNodesListed, admits_info, Option.mem_some_iff, forall_eq']
    refine iff_of_true ?_ (by simp)
    exact List.forall_mem_cons.mpr ⟨⟨utf8_text _, session.sanitized⟩,
      List.forall_mem_singleton.mpr ⟨utf8_text _, trivial⟩⟩
  · simp only [Option.mem_some_iff, forall_eq']
    exact HeartbeatHandler.entry_writable_iff session
  · exact iff_of_true (by simp) (by simp)

/-! ### The lines of a step -/

section Steps

variable {connectionSpan : Option OtelScope} {stack : ScopeStack}

/-- A line with ids of the server can be written when the fields of its event can. -/
theorem LogCall.line_wellFormed_iff {call : LogCall} (distinct : call.entry.Distinct)
    (trace : HexId call.base.traceId) (span : HexId call.base.spanId) :
    call.line.WellFormed ↔ call.entry.Writable :=
  Entry.line_wellFormed_iff distinct call.now trace.plain span.plain

theorem spanId_hex (draw : UInt64) : HexId (generateHexId [draw]) :=
  generateHexId_hex (by simp)

/-- **The lines of a frame.** -/
theorem serveCalls_wellFormed_iff (on : stack = spanStack connectionSpan)
    (hex : ∀ span, connectionSpan = some span → HexId span.traceId ∧ HexId span.spanId)
    {sessionId clientIp : Bytes} (session : Plain sessionId) (address : Plain clientIp)
    (registry : NodeRegistry) (activeNodeId : Bytes) (frame : Frame) (now : Time)
    (listing : List NodeEntry) (readings : Readings) (clock : LogReadings) :
    (∀ line ∈ (serveCalls .info codec registry activeNodeId sessionId clientIp connectionSpan stack
        frame now listing readings clock).map LogCall.line, line.WellFormed) ↔
      ∀ nodeId ∈ frameLoggedId codec activeNodeId frame, Utf8 (sanitizeText nodeId) := by
  have ids : HexId (ensureConnectionSpan connectionSpan stack readings.connection sessionId
        clientIp).1.traceId ∧ HexId (ensureConnectionSpan connectionSpan stack readings.connection
        sessionId clientIp).1.spanId := by
    rcases (ensureConnectionSpan_cases on readings.connection sessionId clientIp).2 with
      old | ⟨_, _, fresh⟩
    · exact hex _ old
    · exact fresh
  rw [serveCalls_eq on, List.map_append, List.forall_mem_append]
  have connected : ∀ line ∈ (if connectionSpan.isSome then [] else
      [(⟨clock.connectedAt, (ensureConnectionSpan connectionSpan stack readings.connection sessionId
        clientIp).1.base, connectedEntry clientIp sessionId clock.activeNow⟩ : LogCall)]).map
        LogCall.line, line.WellFormed := by
    split
    · exact List.forall_mem_nil _
    · rw [List.map_singleton, List.forall_mem_singleton,
        LogCall.line_wellFormed_iff (connectedEntry_distinct _ _ _) ids.1 ids.2]
      simp only [Entry.Writable, connectedEntry, List.forall_mem_cons, List.not_mem_nil,
        false_implies, implies_true, and_true]
      exact ⟨⟨utf8_text _, address.sanitized⟩, ⟨utf8_text _, session.sanitized⟩, utf8_text _,
        trivial⟩
  rw [and_iff_right connected]
  refine Iff.trans ?_ (operationEntry_writable_iff session registry activeNodeId frame now listing)
  cases logged : operationEntry .info codec registry activeNodeId sessionId frame now listing with
  | none => exact iff_of_true (List.forall_mem_nil _) (by simp)
  | some entry =>
      simp only [Option.map_some, Option.toList_some, List.map_singleton,
        List.forall_mem_singleton, Option.mem_some_iff, forall_eq']
      exact LogCall.line_wellFormed_iff (operationEntry_ofHandler logged).distinct ids.1
        (spanId_hex _)

/-- **The line of a connection that ends.** -/
theorem hangUpCalls_wellFormed_iff (on : stack = spanStack connectionSpan)
    (hex : ∀ span, connectionSpan = some span → HexId span.traceId ∧ HexId span.spanId)
    {sessionId : Bytes} (session : Plain sessionId) (activeNodeId : Bytes)
    (reason : DisconnectReason) (readings : Readings) (clock : LogReadings) :
    (∀ line ∈ (hangUpCalls .info activeNodeId sessionId connectionSpan stack reason readings
        clock).map LogCall.line, line.WellFormed) ↔
      ∀ nodeId ∈ (if connectionSpan.isSome then some activeNodeId else none),
        Utf8 (sanitizeText nodeId) := by
  rw [hangUpCalls_eq on]
  cases opened : connectionSpan with
  | none => exact iff_of_true (List.forall_mem_nil _) (by simp)
  | some span =>
      have stated : Plain (disconnectReasonToString reason) := by
        cases reason <;> exact ⟨utf8_text _, by decide⟩
      simp only [Option.map_some, Option.toList_some, List.map_singleton,
        List.forall_mem_singleton, Option.isSome_some, if_true, Option.mem_some_iff, forall_eq']
      rw [LogCall.line_wellFormed_iff (disconnectedEntry_distinct _ _ _ _) (hex span opened).1
        (spanId_hex _)]
      refine nodeEntry_writable_iff session (List.forall_mem_cons.mpr ⟨⟨utf8_text _, trivial⟩, ?_⟩)
      exact List.forall_mem_singleton.mpr ⟨utf8_text _, stated.sanitized⟩

/-- **The lines of a step** can be written when the id of the node it logs can. -/
theorem calls_wellFormed_iff {state : Observed} (bracketed : Bracketed state)
    (addressed : Addressed state) {event : Event} {output : Option (Nat × Reply)} {world : World}
    (stepped : step codec config state.world event = some (output, world)) (readings : Readings)
    (clock : LogReadings) :
    (∀ line ∈ (state.calls .info codec event readings clock).map LogCall.line, line.WellFormed) ↔
      ∀ nodeId ∈ loggedId codec state event, Utf8 (sanitizeText nodeId) := by
  obtain ⟨now, action⟩ := event
  cases action with
  | frame conn frame listing =>
      obtain ⟨connection, _, found, serving, _⟩ := step_frame_iff.mp stepped
      exact serveCalls_wellFormed_iff (bracketed.busy conn (busy_of_phase found serving nofun).2)
        (bracketed.hex conn) (addressed.session_id conn) (addressed.client_ip conn) _ _ _ _ _ _ _
  | teardown conn status =>
      obtain ⟨connection, found, serving, _⟩ := step_teardown_iff.mp stepped
      exact hangUpCalls_wellFormed_iff (bracketed.busy conn (busy_of_phase found serving nofun).2)
        (bracketed.hex conn) (addressed.session_id conn) _ _ _ _
  | configure conn applied =>
      obtain ⟨connection, found, welcomed, _⟩ := step_configure_iff.mp stepped
      cases applied with
      | true => exact iff_of_true (List.forall_mem_nil _) (by simp [loggedId])
      | false =>
          exact hangUpCalls_wellFormed_iff
            (bracketed.busy conn (busy_of_phase found welcomed nofun).2) (bracketed.hex conn)
            (addressed.session_id conn) _ _ _ _
  | tickOffline =>
      obtain ⟨nodeId, rest, stale, _⟩ := step_tickOffline_iff.mp stepped
      simp only [Observed.calls, loggedId, stale, callsOf, logNodeOffline, admits_info,
        Option.map_some, Option.toList_some, List.map_singleton, List.forall_mem_singleton,
        List.head?_cons, Option.mem_some_iff, forall_eq', bracketed.monitor]
      rw [LogCall.line_wellFormed_iff (Entry.distinct_of_keys ["node_id"] rfl (by decide +kernel))
        (generateHexId_hex le_rfl) (spanId_hex _), Entry.Writable, List.forall_mem_singleton]
      exact and_iff_right (utf8_text _)
  | accept => exact iff_of_true (List.forall_mem_nil _) (by simp [loggedId])
  | welcome conn sent => exact iff_of_true (List.forall_mem_nil _) (by simp [loggedId])
  | tickStart snapshot => exact iff_of_true (List.forall_mem_nil _) (by simp [loggedId])

end Steps

/-! ### Whole runs -/

/-- The id of a node a step logs. -/
def loggedBy (codec : JsonCodec) (turn : ReportedTurn) : Option Bytes :=
  match turn.event.observation with
  | .server event _ => loggedId codec turn.before.observed event
  | .exporter _ => none

/-- **One step**: the server runs on when the id it logs is not cut in two. -/
theorem step_survives_iff (lawful : codec.Lawful) (writes : codec.WritesText)
    {trace : List ReportedTurn} {state next : Reported} {event : Report} {emitted : Emitted}
    (run : Run (report codec what config) .boot trace state)
    (taken : report codec what config state event = some (emitted, next)) :
    next.alive = true ↔
      ∀ nodeId ∈ loggedBy codec ⟨state, event, emitted, next⟩, CutsWhole nodeId := by
  have observed := observed_run run
  obtain ⟨_, taken, _, lives⟩ := report_iff.mp taken
  obtain ⟨observation, clock⟩ := event
  rw [lives, List.all_eq_true]
  cases observation with
  | exporter event => exact iff_of_true (List.forall_mem_nil _) (by simp [loggedBy])
  | server event readings =>
      have stepped := step_of_observe taken
      have texts := texts_of_run lawful (server_run observed)
      refine Iff.trans ?_ (Iff.trans (calls_wellFormed_iff (bracketed_of_run observed)
        (addressed_of_run observed) stepped readings clock) ?_)
      · exact forall_congr' fun line => forall_congr' fun _ => writes line
      · exact forall_congr' fun nodeId => forall_congr' fun logged =>
          sanitizeText_utf8_iff (loggedId_utf8 lawful texts logged)

/-- **Logging never throws**, exactly where no text is cut in two: sanitising keeps a well-formed
text well-formed when it cuts no character in two, and the server runs on as long as it cuts none in
the ids of nodes it logs. -/
theorem logging_survives_iff (lawful : codec.Lawful) (writes : codec.WritesText) :
    (∀ value, Utf8 value → (Utf8 (sanitizeText value) ↔ CutsWhole value)) ∧
      ∀ (trace : List ReportedTurn) (state : Reported),
        Run (report codec what config) .boot trace state →
          (state.alive = true ↔
            ∀ turn ∈ trace, ∀ nodeId ∈ loggedBy codec turn, CutsWhole nodeId) := by
  refine ⟨fun value utf8 => sanitizeText_utf8_iff utf8, fun trace state run => ?_⟩
  induction run with
  | nil => exact iff_of_true rfl (List.forall_mem_nil _)
  | snoc previous taken ih =>
      -- a step is only taken while the server runs
      have earlier := ih.mp (report_iff.mp taken).1
      rw [step_survives_iff lawful writes previous taken, List.forall_mem_append,
        List.forall_mem_singleton]
      exact (and_iff_right earlier).symm

/-- A client registers a node and goes away. -/
def registering (codec : JsonCodec) (nodeId : Bytes) : List Report :=
  ([⟨0, .accept⟩, ⟨1, .welcome 0 true⟩, ⟨2, .configure 0 true⟩,
    ⟨3, .frame 0 ⟨.register, 7, registrationPayload codec nodeId (text "v") (text "::1") 1⟩ []⟩] :
    List Event).map fun event => ⟨.server event steadyReadings, ⟨100, 200, 1⟩⟩

/-- A short id is logged. -/
theorem logging_survives_iff_whole :
    ∃ trace state, Run (report Json.textCodec quoting .default) .boot trace state ∧
      (trace.filterMap (loggedBy Json.textCodec)).map List.length = [4] ∧ state.alive = true := by
  have facts : (exec (report Json.textCodec quoting .default) .boot
      (registering Json.textCodec (text "nodo"))).map
        (fun result => result.1.filterMap (loggedBy Json.textCodec)) = some [text "nodo"] := by
    decide +kernel
  obtain ⟨⟨trace, state⟩, executed, logged⟩ := Option.map_eq_some_iff.mp facts
  have run := exec_run executed
  have survives := (logging_survives_iff Json.textCodec_lawful Json.textCodec_writesText).2 _ _ run
  refine ⟨trace, state, run, ?_, survives.mpr fun turn member nodeId named => .inl ?_⟩
  · rw [logged]
    decide
  · have among : nodeId ∈ trace.filterMap (loggedBy Json.textCodec) :=
      List.mem_filterMap.mpr ⟨turn, member, named⟩
    rw [logged, List.mem_singleton] at among
    rw [among]
    decide

/-- **A REGISTER that is acknowledged and ends the process**: the id of the node is 511 letters and
a character of two bytes, and the log cuts it after the first of them. -/
theorem register_cut_in_two :
    Json.textCodec.Lawful ∧ Json.textCodec.WritesText ∧
      ∃ nodeId, Utf8 nodeId ∧ ¬ Utf8 (sanitizeText nodeId) ∧
        ∃ trace state, Run (report Json.textCodec quoting .default) .boot trace state ∧
          trace.map Transition.event = registering Json.textCodec nodeId ∧
          (trace.getLast?.bind fun turn => turn.output.reply.map fun sent => sent.2.messageType) =
            some .ack ∧
          state.alive = false := by
  let nodeId := List.replicate 511 97 ++ text "é"
  have cut : Utf8 nodeId ∧ ¬ Utf8 (sanitizeText nodeId) := by decide +kernel
  have facts : (exec (report Json.textCodec quoting .default) .boot
      (registering Json.textCodec nodeId)).map (fun result =>
        (result.1.getLast?.bind fun turn => turn.output.reply.map fun sent => sent.2.messageType,
          result.2.alive)) = some (some .ack, false) := by
    decide +kernel
  obtain ⟨⟨trace, state⟩, executed, same⟩ := Option.map_eq_some_iff.mp facts
  obtain ⟨acknowledged, dead⟩ := Prod.mk.inj same
  exact ⟨Json.textCodec_lawful, Json.textCodec_writesText, nodeId, cut.1, cut.2, trace, state,
    exec_run executed, exec_events executed, acknowledged, dead⟩

end ExodusOps
