/-
**What reaches the exporter is text, unless a parse error is its own message.**

Every text on a span is a constant, a number, an id the server made or one that came through the
JSON parser, with one exception: when a REGISTER does not parse, the text of the exception becomes
the status message of the connection's span, and it quotes the bytes it failed on. If the connection
ends in an error, the reason replaces the message; if the peer closes it, the message stays and the
span goes to the exporter, whose `dump` throws on it where nothing catches.

* `Labelled` — everything on the open spans but their messages is well-formed.
* `Recorded` — the message on a connection's span is that of the last REGISTER that did not parse.
* `exporter_survives_iff` — **every span is well-formed and the exporter alive** exactly when no
  peer closes a connection whose last rejected REGISTER was reported in ill-formed text.
* `exporter_terminated` — two bytes and a close end the process.
-/

import ExodusOps.Telemetry.Observed

namespace ExodusOps

variable {codec : JsonCodec} {what : Bytes → Bytes} {config : ServerConfig}

/-! ### What the handlers set is well-formed -/

section Handlers

variable {span : OtelScope} {sessionId : Bytes}

theorem OtelScope.WellFormed.refuse (formed : span.WellFormed) (errorCode : String)
    {description : Bytes} (stated : Utf8 description) :
    (span.refuse errorCode description).WellFormed := by
  have result := formed.setAttribute (utf8_text "result") (utf8_text "ERROR")
  have code := result.setAttribute (utf8_text "error.code") (utf8_text errorCode)
  exact code.toWellLabelled.recordError stated

/-- What the handlers of requests set first. -/
theorem OtelScope.WellFormed.begin (formed : span.WellFormed) (operation : String)
    (session : Utf8 sessionId) :
    ((span.setAttribute (text "operation.name") (text operation)).setAttribute
      (text "session.id") sessionId).WellFormed :=
  (formed.setAttribute (utf8_text _) (utf8_text _)).setAttribute (utf8_text _) session

theorem RegisterHandler.annotate_wellFormed (lawful : codec.Lawful) (registry : NodeRegistry)
    (jsonPayload : Bytes) (session : Utf8 sessionId) (durationMs : Int64)
    (formed : span.WellFormed) :
    (annotate codec registry jsonPayload sessionId durationMs span).WellFormed := by
  have begun := formed.begin "REGISTER" session
  unfold annotate
  cases parsed : codec.parse jsonPayload with
  | none => exact begun.refuse _ (utf8_text _)
  | some json =>
      simp only
      cases valid : validate json with
      | none => exact begun.refuse _ (utf8_text _)
      | some entry =>
          have requested : request codec jsonPayload = some entry := by
            rw [request, parsed, Option.bind_some, valid]
          have named := (request_utf8 lawful requested).node_id
          have timed := (begun.setAttribute (utf8_text "node.id") named).setIntAttribute
            (utf8_text "duration_ms") durationMs
          simp only
          cases (registry.registerNode entry).1 with
          | ok => exact timed.setAttribute (utf8_text _) (utf8_text _)
          | errDuplicate =>
              exact timed.refuse _ (((utf8_text _).append named).append (utf8_text _))

theorem QueryHandler.annotateQueryNode_wellFormed (lawful : codec.Lawful) (registry : NodeRegistry)
    (jsonPayload : Bytes) (session : Utf8 sessionId) (durationMs : Int64)
    (formed : span.WellFormed) :
    (annotateQueryNode codec registry jsonPayload sessionId durationMs span).WellFormed := by
  have begun := formed.begin "QUERY_NODE" session
  have timed {span : OtelScope} (formed : span.WellFormed) :=
    formed.setIntAttribute (utf8_text "duration_ms") durationMs
  unfold annotateQueryNode
  cases parsed : codec.parse jsonPayload with
  | none => exact timed (begun.refuse _ (utf8_text _))
  | some json =>
      simp only
      split
      · rename_i nodeId member
        have named : Utf8 nodeId := lawful.parse_utf8 parsed member
        have labelled := begun.setAttribute (utf8_text "node.id") named
        cases registry.queryNode nodeId with
        | none =>
            exact timed (labelled.refuse _ (((utf8_text _).append named).append (utf8_text _)))
        | some entry => exact timed (labelled.setAttribute (utf8_text _) (utf8_text _))
      · exact timed (begun.refuse _ (utf8_text _))

theorem QueryHandler.annotateListNodes_wellFormed (listing : List NodeEntry)
    (session : Utf8 sessionId) (durationMs : Int64) (formed : span.WellFormed) :
    (annotateListNodes listing sessionId durationMs span).WellFormed := by
  have counted := (formed.begin "LIST_NODES" session).setIntAttribute (utf8_text "node_count")
    (.ofNat listing.length)
  have timed := counted.setIntAttribute (utf8_text "duration_ms") durationMs
  exact timed.setAttribute (utf8_text _) (utf8_text _)

theorem HeartbeatHandler.annotate_wellFormed (registry : NodeRegistry) {nodeId : Bytes}
    (named : Utf8 nodeId) (session : Utf8 sessionId) (now : Time) (formed : span.WellFormed) :
    (annotate registry nodeId sessionId now span).WellFormed := by
  have labelled := (formed.setAttribute (utf8_text "node.id") named).setAttribute
    (utf8_text "sesion.id") session
  have begun := labelled.setAttribute (utf8_text "operation.name") (utf8_text "HEARTBEAT")
  unfold annotate
  split <;> exact begun.setAttribute (utf8_text _) (utf8_text _)

/-- **The span of a handler**, whatever the frame. -/
theorem operationSpan_wellFormed (lawful : codec.Lawful) {registry : NodeRegistry}
    {activeNodeId : Bytes} (active : Utf8 activeNodeId) (session : Utf8 sessionId) {frame : Frame}
    {now : Time} {listing : List NodeEntry} {durationMs : Int64} {name : Bytes}
    {annotate : OtelScope → OtelScope}
    (given : operationSpan codec registry activeNodeId sessionId frame now listing durationMs =
      some (name, annotate)) :
    Utf8 name ∧ ∀ {span : OtelScope}, span.WellFormed → (annotate span).WellFormed := by
  unfold operationSpan at given
  split_ifs at given
  · cases given
    exact ⟨utf8_text _, RegisterHandler.annotate_wellFormed lawful registry _ session durationMs⟩
  · cases given
    exact ⟨utf8_text _,
      QueryHandler.annotateQueryNode_wellFormed lawful registry _ session durationMs⟩
  · cases given
    exact ⟨utf8_text _, QueryHandler.annotateListNodes_wellFormed listing session durationMs⟩
  · cases given
    exact ⟨utf8_text _, HeartbeatHandler.annotate_wellFormed registry active session now⟩

end Handlers

/-! ### One connection -/

/-- The message on the span of a connection; empty when there is no span. -/
def messageOf (connectionSpan : Option OtelScope) : Bytes :=
  (connectionSpan.map OtelScope.statusMessage).getD []

theorem ensureConnectionSpan_message (connectionSpan : Option OtelScope) (stack : ScopeStack)
    (opening : Opening) (sessionId clientIp : Bytes) :
    (ensureConnectionSpan connectionSpan stack opening sessionId clientIp).1.statusMessage =
      messageOf connectionSpan := by
  cases connectionSpan <;> rfl

theorem noteExtraction_message (codec : JsonCodec) (what : Bytes → Bytes) (frame : Frame)
    (span : OtelScope) : (noteExtraction codec what frame span).statusMessage =
      ((rejectedPayload codec frame).map (extractionError what)).getD span.statusMessage := by
  unfold noteExtraction
  cases rejectedPayload codec frame <;> rfl

/-- **A REGISTER that does not parse leaves its message** on the span of the connection. -/
theorem serveFrame_message (codec : JsonCodec) (what : Bytes → Bytes) (registry : NodeRegistry)
    (activeNodeId sessionId clientIp : Bytes) (connectionSpan : Option OtelScope)
    (stack : ScopeStack) (frame : Frame) (now : Time) (listing : List NodeEntry)
    (readings : Readings) :
    messageOf (serveFrame codec what registry activeNodeId sessionId clientIp connectionSpan stack
        frame now listing readings).connectionSpan =
      ((rejectedPayload codec frame).map (extractionError what)).getD
        (messageOf connectionSpan) := by
  rw [← ensureConnectionSpan_message connectionSpan stack readings.connection sessionId clientIp,
    ← noteExtraction_message]
  unfold serveFrame
  cases operationSpan codec registry activeNodeId sessionId frame now listing
    readings.durationMs <;> rfl

theorem ensureConnectionSpan_labelled {connectionSpan : Option OtelScope} {stack : ScopeStack}
    (labelled : ∀ span, connectionSpan = some span → span.WellLabelled)
    (ids : ScopeStack.WellFormed stack) (opening : Opening) {sessionId clientIp : Bytes}
    (session : Utf8 sessionId) (address : Utf8 clientIp) :
    let ensured := ensureConnectionSpan connectionSpan stack opening sessionId clientIp
    ensured.1.WellLabelled ∧ ScopeStack.WellFormed ensured.2 := by
  cases connectionSpan with
  | some span => exact ⟨labelled span rfl, ids⟩
  | none =>
      obtain ⟨formed, pushed⟩ := OtelScope.connection_wellFormed ids opening session address
      have begun := formed.begin "CLIENT_CONNECTION" session
      exact ⟨(begun.setAttribute (utf8_text _) (utf8_text _)).toWellLabelled, pushed⟩

theorem noteExtraction_labelled (codec : JsonCodec) (what : Bytes → Bytes) {span : OtelScope}
    (labelled : span.WellLabelled) (frame : Frame) :
    (noteExtraction codec what frame span).WellLabelled := by
  unfold noteExtraction
  cases rejectedPayload codec frame with
  | none => exact labelled
  | some jsonPayload => exact { labelled with }

/-- **A frame served**: the span that ends is well-formed, and everything but the message on the
connection's span. -/
theorem serveFrame_labelled (lawful : codec.Lawful) (registry : NodeRegistry)
    {activeNodeId sessionId clientIp : Bytes} (active : Utf8 activeNodeId)
    (session : Utf8 sessionId) (address : Utf8 clientIp) {connectionSpan : Option OtelScope}
    (labelled : ∀ span, connectionSpan = some span → span.WellLabelled) {stack : ScopeStack}
    (ids : ScopeStack.WellFormed stack) (frame : Frame) (now : Time) (listing : List NodeEntry)
    (readings : Readings) :
    let traced := serveFrame codec what registry activeNodeId sessionId clientIp connectionSpan
      stack frame now listing readings
    (∀ span ∈ traced.spans, span.WellFormed) ∧
      (∀ span, traced.connectionSpan = some span → span.WellLabelled) ∧
      ScopeStack.WellFormed traced.stack := by
  obtain ⟨ensured, pushed⟩ :=
    ensureConnectionSpan_labelled labelled ids readings.connection session address
  have noted := noteExtraction_labelled codec what ensured frame
  unfold serveFrame
  simp only
  cases given : operationSpan codec registry activeNodeId sessionId frame now listing
      readings.durationMs with
  | none =>
      refine ⟨List.forall_mem_nil _, fun span same => ?_, pushed⟩
      cases same
      exact noted
  | some operation =>
      obtain ⟨name, annotate⟩ := operation
      obtain ⟨named, annotated⟩ := operationSpan_wellFormed lawful active session given
      obtain ⟨formed, above⟩ := OtelScope.operation_wellFormed pushed readings.operation named
      refine ⟨?_, fun span same => ?_, above.tail⟩
      · rw [List.forall_mem_singleton]
        exact OtelScope.finish_wellFormed (annotated formed) _
      · cases same
        exact noted

/-- The error messages for a connection that ends are constants. -/
theorem closeConnectionSpan_wellFormed_iff {span : OtelScope} (labelled : span.WellLabelled)
    (reason : DisconnectReason) {description : Bytes} (stated : Utf8 description) :
    (closeConnectionSpan reason description span).WellLabelled ∧
      (Utf8 (closeConnectionSpan reason description span).statusMessage ↔
        (reason = .cleanDisconnect → Utf8 span.statusMessage)) := by
  unfold closeConnectionSpan
  split
  · rename_i clean
    exact ⟨labelled, fun message _ => message, fun message => message clean⟩
  · rename_i other
    have marked := labelled.setAttribute (utf8_text "result") (utf8_text "ERROR")
    exact ⟨(marked.recordError stated).toWellLabelled, fun _ clean => absurd clean other,
      fun _ => stated⟩

theorem disconnectReasonToString_utf8 (reason : DisconnectReason) :
    Utf8 (disconnectReasonToString reason) := by
  cases reason <;> exact utf8_text _

theorem annotateDisconnection_wellFormed {span : OtelScope} {activeNodeId sessionId : Bytes}
    (active : Utf8 activeNodeId) (session : Utf8 sessionId) (durationMs : Int64)
    (reason : DisconnectReason) (formed : span.WellFormed) :
    (annotateDisconnection activeNodeId sessionId durationMs reason span).WellFormed := by
  have stated := disconnectReasonToString_utf8 reason
  have named := (formed.begin "CLIENT_DISCONNECTION" session).setAttribute
    (utf8_text "node.id") active
  have explained := (named.setIntAttribute (utf8_text "duration_ms") durationMs).setAttribute
    (utf8_text "disconnect.reason") stated
  unfold annotateDisconnection
  simp only
  split
  · exact explained.setAttribute (utf8_text _) (utf8_text _)
  · exact (explained.setAttribute (utf8_text _) (utf8_text _)).toWellLabelled.recordError stated

/-- **A connection ended**: the spans that end are well-formed unless the peer closed it with an
ill-formed message on its span. -/
theorem hangUpSpans_wellFormed_iff {activeNodeId sessionId : Bytes} (active : Utf8 activeNodeId)
    (session : Utf8 sessionId) {connectionSpan : Option OtelScope}
    (labelled : ∀ span, connectionSpan = some span → span.WellLabelled) {stack : ScopeStack}
    (ids : ScopeStack.WellFormed stack) (reason : DisconnectReason) {description : Bytes}
    (stated : Utf8 description) (readings : Readings) :
    let traced := hangUpSpans activeNodeId sessionId connectionSpan stack reason description
      readings
    ((∀ span ∈ traced.spans, span.WellFormed) ↔
        (reason = .cleanDisconnect → Utf8 (messageOf connectionSpan))) ∧
      traced.connectionSpan = none ∧ ScopeStack.WellFormed traced.stack := by
  cases connectionSpan with
  | none => exact ⟨⟨fun _ _ => utf8_text "", fun _ => List.forall_mem_nil _⟩, rfl, ids⟩
  | some span =>
      obtain ⟨closed, message⟩ :=
        closeConnectionSpan_wellFormed_iff (labelled span rfl) reason stated
      obtain ⟨formed, above⟩ := OtelScope.operation_wellFormed ids readings.operation
        (utf8_text "client_disconnection")
      have disconnection :=
        annotateDisconnection_wellFormed active session readings.durationMs reason formed
      -- the span of the disconnection is always fine, so all hangs on that of the connection
      refine ⟨?_, rfl, above.tail.tail⟩
      rw [hangUpSpans, List.forall_mem_cons, List.forall_mem_singleton,
        OtelScope.finish_wellFormed_iff closed, message]
      exact and_iff_right (OtelScope.finish_wellFormed disconnection _)

/-! ### The whole server -/

/-- Everything tracing keeps of a connection but the message on its span is well-formed. -/
structure Session.Labelled (session : Session) : Prop where
  client_ip : Utf8 session.clientIp
  connection_span : ∀ span, session.connectionSpan = some span → span.WellLabelled

/-- A connection without a span. -/
theorem Session.labelled_of_none {clientIp : Bytes} (address : Utf8 clientIp) (worker : Nat) :
    Session.Labelled ⟨clientIp, worker, none⟩ :=
  ⟨address, fun _ none => by cases none⟩

/-- **Everything but the messages is well-formed**: the ids on the stacks, the addresses of the
peers and what is on the connections' spans. -/
structure Labelled (state : Observed) : Prop where
  ids : ∀ thread, ScopeStack.WellFormed (state.scopeStacks thread)
  sessions : ∀ conn, (state.sessions conn).Labelled

theorem labelled_boot : Labelled .boot :=
  ⟨fun _ => List.forall_mem_nil _, fun _ => Session.labelled_of_none (utf8_text "") 0⟩

section Steps

variable {state next : Observed} {output : Option (Nat × Reply) × List FinishedSpan}

theorem Labelled.settle (labelled : Labelled state) (conn : Nat) {traced : Traced}
    (spans : ∀ span, traced.connectionSpan = some span → span.WellLabelled)
    (ids : ScopeStack.WellFormed traced.stack) : Labelled (state.settle conn traced).2 where
  ids := (Function.forall_update_iff _ fun _ => ScopeStack.WellFormed).mpr
    ⟨ids, fun thread _ => labelled.ids thread⟩
  sessions := (Function.forall_update_iff _ fun _ => Session.Labelled).mpr
    ⟨⟨(labelled.sessions conn).client_ip, spans⟩, fun other _ => labelled.sessions other⟩

/-- A connection that ends. -/
theorem Labelled.hangUp (labelled : Labelled state) (texts : state.world.Texts) (conn : Nat)
    (reason : DisconnectReason) {description : Bytes} (stated : Utf8 description)
    (readings : Readings) :
    Labelled (state.hangUp conn reason description readings).2 ∧
      ((∀ span ∈ (state.hangUp conn reason description readings).1, span.WellFormed) ↔
        (reason = .cleanDisconnect → Utf8 (messageOf (state.sessions conn).connectionSpan))) := by
  obtain ⟨formed, gone, ids⟩ := hangUpSpans_wellFormed_iff (texts.active conn)
    (texts.session_id conn) (labelled.sessions conn).connection_span (labelled.ids _) reason
    stated readings
  refine ⟨labelled.settle conn (fun span some => ?_) ids, formed⟩
  cases gone.symm.trans some

/-- The end of a connection that the peer closes. -/
def closedByPeer (event : Event) : Option Nat :=
  match event.action with
  | .teardown conn .peerClosed => some conn
  | _ => none

/-- **What a step of the server hands to the exporter is well-formed**, unless the peer closes a
connection with an ill-formed message on its span. -/
theorem Labelled.trace (lawful : codec.Lawful) (what : Bytes → Bytes) (labelled : Labelled state)
    (texts : state.world.Texts) (event : Event) (readings : Readings) :
    Labelled (state.trace codec what event readings).2 ∧
      ((∀ span ∈ (state.trace codec what event readings).1, span.WellFormed) ↔
        ∀ conn ∈ closedByPeer event,
          Utf8 (messageOf (state.sessions conn).connectionSpan)) := by
  obtain ⟨now, action⟩ := event
  cases action with
  | accept =>
      refine ⟨⟨labelled.ids, ?_⟩, by simp [Observed.trace, closedByPeer]⟩
      exact (Function.forall_update_iff _ fun _ => Session.Labelled).mpr
        ⟨Session.labelled_of_none (utf8_text _) _, fun other _ => labelled.sessions other⟩
  | welcome conn sent => exact ⟨labelled, by simp [Observed.trace, closedByPeer]⟩
  | configure conn applied =>
      cases applied with
      | true => exact ⟨labelled, by simp [Observed.trace, closedByPeer]⟩
      | false =>
          obtain ⟨kept, formed⟩ := labelled.hangUp texts conn .socketConfigError
            (utf8_text "SO_RCVTIMEO failed") readings
          exact ⟨kept, formed.trans (by simp [closedByPeer])⟩
  | frame conn frame listing =>
      obtain ⟨formed, spans, ids⟩ := serveFrame_labelled lawful state.world.registry
        (texts.active conn) (texts.session_id conn) (labelled.sessions conn).client_ip
        (labelled.sessions conn).connection_span
        (labelled.ids (.worker (state.sessions conn).worker)) frame now listing readings
      refine ⟨labelled.settle conn spans ids, fun _ _ closed => ?_, fun _ => formed⟩
      cases closed
  | teardown conn status =>
      obtain ⟨kept, formed⟩ := labelled.hangUp texts conn
        (disconnectReason status readings.connectionReset) (disconnectReasonToString_utf8 _)
        readings
      refine ⟨kept, formed.trans ?_⟩
      -- only PEER_CLOSED is a clean disconnect, which keeps the message
      cases status with
      | peerClosed => simp [disconnectReason, closedByPeer]
      | timeout => simp [disconnectReason, closedByPeer]
      | ioError => cases readings.connectionReset <;> simp [disconnectReason, closedByPeer]
  | tickStart snapshot => exact ⟨labelled, by simp [Observed.trace, closedByPeer]⟩
  | tickOffline =>
      simp only [Observed.trace]
      cases stale : state.world.stale with
      | nil => exact ⟨labelled, by simp [closedByPeer]⟩
      | cons nodeId rest =>
          have named : Utf8 nodeId := texts.stale nodeId (stale ▸ List.mem_cons_self)
          obtain ⟨formed, above⟩ := OtelScope.operation_wellFormed (labelled.ids .monitor)
            readings.operation (utf8_text "heartbeat_monitor_offline")
          refine ⟨⟨?_, labelled.sessions⟩, ?_⟩
          · exact (Function.forall_update_iff _ fun _ => ScopeStack.WellFormed).mpr
              ⟨above.tail, fun thread _ => labelled.ids thread⟩
          · refine ⟨fun _ _ closed => ?_, fun _ => ?_⟩
            · cases closed
            · rw [List.forall_mem_singleton]
              exact OtelScope.finish_wellFormed (formed.setAttribute (utf8_text _) named) _

/-! ### The message on a connection's span -/

/-- The payload of a REGISTER on `conn` that does not parse. -/
def rejectedOn (codec : JsonCodec) (conn : Nat) (turn : ObservedTurn) : Option Bytes :=
  match turn.event with
  | .server ⟨_, .frame sender frame _⟩ _ =>
      if sender = conn then rejectedPayload codec frame else none
  | _ => none

/-- **The message is that of the last REGISTER that did not parse**, as long as the connection is
served. Before that there is no span. -/
structure Recorded (codec : JsonCodec) (what : Bytes → Bytes) (trace : List ObservedTurn)
    (state : Observed) (conn : Nat) : Prop where
  before : state.world.phase conn ≠ some .serving → state.world.phase conn ≠ some .returned →
    (state.sessions conn).connectionSpan = none ∧ latest (rejectedOn codec conn) trace = none
  serving : state.world.phase conn = some .serving →
    messageOf (state.sessions conn).connectionSpan =
      ((latest (rejectedOn codec conn) trace).map (extractionError what)).getD []

variable {trace : List ObservedTurn} {conn : Nat}

theorem Recorded.kept (recorded : Recorded codec what trace state conn) {turn : ObservedTurn}
    (phase : next.world.phase conn = state.world.phase conn)
    (span : (next.sessions conn).connectionSpan = (state.sessions conn).connectionSpan)
    (quiet : rejectedOn codec conn turn = none) :
    Recorded codec what (trace ++ [turn]) next conn := by
  have same : latest (rejectedOn codec conn) (trace ++ [turn]) =
      latest (rejectedOn codec conn) trace := by rw [latest_concat, quiet, Option.none_or]
  constructor
  · rw [phase, span, same]
    exact recorded.before
  · rw [phase, span, same]
    exact recorded.serving

theorem session_of_not_concerned {event : Event} (readings : Readings)
    (other : concerns state.world event.action ≠ some conn) :
    (state.trace codec what event readings).2.sessions conn = state.sessions conn := by
  obtain ⟨now, action⟩ := event
  cases action with
  | accept => exact Function.update_of_ne (fun same => other (congrArg some same.symm)) _ _
  | frame target frame listing =>
      exact Function.update_of_ne (fun same => other (congrArg some same.symm)) _ _
  | teardown target status =>
      exact Function.update_of_ne (fun same => other (congrArg some same.symm)) _ _
  | configure target applied =>
      cases applied with
      | true => rfl
      | false => exact Function.update_of_ne (fun same => other (congrArg some same.symm)) _ _
  | welcome target sent => rfl
  | tickStart snapshot => rfl
  | tickOffline =>
      simp only [Observed.trace]
      cases state.world.stale <;> rfl

/-- A connection with no span, on which nothing was rejected. -/
theorem Recorded.untouched (span : (state.sessions conn).connectionSpan = none)
    (quiet : latest (rejectedOn codec conn) trace = none) :
    Recorded codec what trace state conn := by
  refine ⟨fun _ _ => ⟨span, quiet⟩, fun _ => ?_⟩
  rw [span, quiet]
  rfl

/-- Before a connection is served it has no span, and a step that gives it none keeps this. -/
theorem Recorded.still (recorded : Recorded codec what trace state conn) {turn : ObservedTurn}
    {early : Phase} (waits : state.world.phase conn = some early)
    (unserved : early ≠ .serving ∧ early ≠ .returned)
    (span : (next.sessions conn).connectionSpan = (state.sessions conn).connectionSpan)
    (quiet : rejectedOn codec conn turn = none) :
    Recorded codec what (trace ++ [turn]) next conn := by
  obtain ⟨absent, none⟩ := recorded.before (by simp [waits, unserved.1])
    (by simp [waits, unserved.2])
  refine .untouched (span.trans absent) ?_
  rw [latest_concat, quiet, none]
  rfl

/-- A connection that is over. -/
theorem Recorded.ended (returned : state.world.phase conn = some .returned) :
    Recorded codec what trace state conn := by
  refine ⟨fun _ other => absurd returned other, fun serving => ?_⟩
  cases returned.symm.trans serving

/-- **One step of the server.** A step about another connection changes nothing; one about this
connection opens the span, leaves a message on it or ends it. -/
theorem Recorded.server (recorded : Recorded codec what trace state conn) {event : Event}
    {readings : Readings}
    (taken : observe codec what config state (.server event readings) = some (output, next)) :
    Recorded codec what (trace ++ [⟨state, .server event readings, output, next⟩]) next conn := by
  obtain ⟨_, world, stepped, _, rfl⟩ := observe_server_iff.mp taken
  have phase := step_phase stepped conn
  obtain ⟨now, action⟩ := event
  by_cases about : concerns state.world action = some conn
  · cases action with
    | accept =>
        cases about
        have absent : state.world.phase state.world.connections.length = none := by
          rw [World.phase, List.getElem?_eq_none le_rfl]
          rfl
        obtain ⟨_, none⟩ := recorded.before (by simp [absent]) (by simp [absent])
        -- whatever was kept under the new number is replaced
        refine .untouched ?_ (by rw [latest_concat, none]; rfl)
        simp only [Observed.trace, Function.update_self]
    | welcome target sent =>
        cases about
        obtain ⟨connection, found, dequeued, _⟩ := step_welcome_iff.mp stepped
        exact recorded.still ((World.phase_eq found).trans (congrArg some dequeued)) (by decide)
          rfl rfl
    | configure target applied =>
        cases about
        obtain ⟨connection, found, welcomed, _⟩ := step_configure_iff.mp stepped
        cases applied with
        | true =>
            exact recorded.still ((World.phase_eq found).trans (congrArg some welcomed))
              (by decide) rfl rfl
        | false => exact .ended (phase.trans (if_pos rfl))
    | frame target frame listing =>
        cases about
        obtain ⟨connection, _, found, serving, _⟩ := step_frame_iff.mp stepped
        have served : state.world.phase conn = some .serving := by
          rw [World.phase_eq found, serving]
        refine ⟨fun other _ => absurd (phase.trans served) other, fun _ => ?_⟩
        simp only [Observed.trace, Observed.settle, Function.update_self]
        rw [serveFrame_message, recorded.serving served, latest_concat]
        simp only [rejectedOn, if_true]
        cases rejectedPayload codec frame <;> rfl
    | teardown target status =>
        cases about
        exact .ended (phase.trans (if_pos rfl))
    | tickStart snapshot => cases about
    | tickOffline => cases about
  · refine recorded.kept (phase_of_not_concerned stepped about) ?_ ?_
    · exact congrArg Session.connectionSpan (session_of_not_concerned readings about)
    · cases action with
      | frame target frame listing => exact if_neg fun same => about (congrArg some same)
      | _ => rfl

theorem recorded_of_run (run : Run (observe codec what config) .boot trace state) (conn : Nat) :
    Recorded codec what trace state conn := by
  induction run with
  | nil =>
      refine ⟨fun _ _ => ⟨rfl, rfl⟩, fun serving => ?_⟩
      cases serving
  | @snoc trace state next observation output _ taken ih =>
      cases observation with
      | server event readings => exact ih.server taken
      | exporter event =>
          obtain ⟨exporter, _, _, rfl⟩ := observe_exporter_iff.mp taken
          exact ih.kept rfl rfl rfl

theorem labelled_of_run (lawful : codec.Lawful)
    (run : Run (observe codec what config) .boot trace state) : Labelled state := by
  induction run with
  | nil => exact labelled_boot
  | @snoc trace state next observation output previous taken ih =>
      cases observation with
      | server event readings =>
          obtain ⟨_, world, _, _, rfl⟩ := observe_server_iff.mp taken
          have texts := texts_of_run lawful (server_run previous)
          obtain ⟨ids, sessions⟩ := (ih.trace lawful what texts event readings).1
          exact ⟨ids, sessions⟩
      | exporter event =>
          obtain ⟨exporter, _, _, rfl⟩ := observe_exporter_iff.mp taken
          exact ⟨ih.ids, ih.sessions⟩

end Steps

/-! ### What reaches the exporter -/

/-- **The peer closes a connection quietly**: if a REGISTER on it did not parse, the exception for
the last of them had a well-formed text. -/
def ClosesInText (codec : JsonCodec) (what : Bytes → Bytes) (earlier : List ObservedTurn)
    (turn : ObservedTurn) : Prop :=
  match turn.event with
  | .server event _ => ∀ conn ∈ closedByPeer event,
      ∀ jsonPayload ∈ latest (rejectedOn codec conn) earlier, Utf8 (what jsonPayload)
  | .exporter _ => True

instance : (earlier : List ObservedTurn) → (turn : ObservedTurn) →
    Decidable (ClosesInText codec what earlier turn)
  | _, ⟨_, .server event _, _, _⟩ => inferInstanceAs (Decidable (∀ conn ∈ closedByPeer event, _))
  | _, ⟨_, .exporter _, _, _⟩ => .isTrue trivial

theorem extractionError_utf8_iff (what : Bytes → Bytes) (jsonPayload : Bytes) :
    Utf8 (extractionError what jsonPayload) ↔ Utf8 (what jsonPayload) :=
  ⟨(utf8_text _).of_append, (utf8_text _).append⟩

section Runs

variable {trace : List ObservedTurn} {state next : Observed}
  {output : Option (Nat × Reply) × List FinishedSpan}

/-- **One step**: the spans it hands over are well-formed exactly when no peer closes a connection
with an ill-formed message. -/
theorem spans_wellFormed_iff (lawful : codec.Lawful)
    (run : Run (observe codec what config) .boot trace state) {observation : Observation}
    (taken : observe codec what config state observation = some (output, next)) :
    (∀ span ∈ output.2, span.WellFormed) ↔
      ClosesInText codec what trace ⟨state, observation, output, next⟩ := by
  cases observation with
  | exporter event =>
      obtain ⟨exporter, _, rfl, _⟩ := observe_exporter_iff.mp taken
      exact ⟨fun _ => trivial, fun _ => List.forall_mem_nil _⟩
  | server event readings =>
      obtain ⟨_, world, stepped, spans, _⟩ := observe_server_iff.mp taken
      have texts := texts_of_run lawful (server_run run)
      rw [spans, ((labelled_of_run lawful run).trace lawful what texts event readings).2]
      refine forall_congr' fun conn => forall_congr' fun closed => ?_
      -- the peer closes a connection that is served, so its message is on record
      have serving : state.world.phase conn = some .serving := by
        obtain ⟨now, action⟩ := event
        unfold closedByPeer at closed
        split at closed
        · rename_i target action
          cases closed
          cases action
          obtain ⟨connection, found, phase, _⟩ := step_teardown_iff.mp stepped
          rw [World.phase_eq found, phase]
        · cases closed
      rw [(recorded_of_run run conn).serving serving]
      cases latest (rejectedOn codec conn) trace with
      | none =>
          refine ⟨fun _ _ none => ?_, fun _ => utf8_text ""⟩
          cases none
      | some jsonPayload =>
          simp only [Option.map_some, Option.getD_some, extractionError_utf8_iff,
            Option.mem_some_iff, forall_eq']

theorem exporter_sound_of_run (writes : codec.WritesText)
    (run : Run (observe codec what config) .boot trace state)
    (formed : ∀ turn ∈ trace, ∀ span ∈ turn.output.2, span.WellFormed) : state.exporter.Sound := by
  induction run with
  | nil => exact BatchExporter.sound_initial
  | @snoc trace state next observation output _ taken ih =>
      obtain ⟨earlier, last⟩ := List.forall_mem_append.mp formed
      rw [List.forall_mem_singleton] at last
      cases observation with
      | server event readings =>
          obtain ⟨_, world, _, _, rfl⟩ := observe_server_iff.mp taken
          exact (ih earlier).enqueue last
      | exporter event =>
          obtain ⟨exporter, stepped, _, rfl⟩ := observe_exporter_iff.mp taken
          exact (ih earlier).step writes stepped

theorem everySpan_wellFormed_iff (lawful : codec.Lawful)
    (run : Run (observe codec what config) .boot trace state) :
    (∀ turn ∈ trace, ∀ span ∈ turn.output.2, span.WellFormed) ↔
      EveryStep (ClosesInText codec what) [] trace := by
  induction run with
  | nil => exact ⟨fun _ => trivial, fun _ => List.forall_mem_nil _⟩
  | snoc previous taken ih =>
      rw [List.forall_mem_append, List.forall_mem_singleton, everyStep_concat, ih,
        spans_wellFormed_iff lawful previous taken]
      rfl

end Runs

/-- **When the exporter survives.** In every run of the server, every text on every span that goes
to the exporter is well-formed and its thread is alive exactly when no peer closes a connection
whose last rejected REGISTER was reported in ill-formed text. -/
theorem exporter_survives_iff (lawful : codec.Lawful) (writes : codec.WritesText)
    {trace : List ObservedTurn} {state : Observed}
    (run : Run (observe codec what config) .boot trace state) :
    ((∀ turn ∈ trace, ∀ span ∈ turn.output.2, span.WellFormed) ∧
        state.exporter.stage ≠ .terminated) ↔
      EveryStep (ClosesInText codec what) [] trace := by
  rw [← everySpan_wellFormed_iff lawful run]
  constructor
  · exact fun both => both.1
  · exact fun formed => ⟨formed, (exporter_sound_of_run writes run formed).alive⟩

/-- An exception that quotes what it could not parse. -/
def quoting (jsonPayload : Bytes) : Bytes :=
  text ("[json.exception.parse_error.101] parse error at line 1, column 2: syntax error while " ++
    "parsing value - invalid string: ill-formed UTF-8 byte; last read: '") ++ jsonPayload ++
    text "'"

/-- Constant readings. -/
def steadyReadings : Readings :=
  ⟨0, (10, 0, 0, 7), ⟨(1, 2), 3, 100⟩, ⟨(4, 5), 6, 200⟩, 1, 300, 400, false⟩

/-- A client sends a REGISTER of two bytes, a quote and a byte that is no text, and the connection
ends; then the exporter flushes. -/
def brokenRegister (status : MessageSerializer.FrameReadStatus) : List Observation :=
  ([⟨0, .accept⟩, ⟨1, .welcome 0 true⟩, ⟨2, .configure 0 true⟩,
    ⟨3, .frame 0 ⟨.register, 7, [34, 255]⟩ []⟩, ⟨4, .teardown 0 status⟩].map fun event =>
      .server event steadyReadings) ++ [.exporter .start, .exporter .wake, .exporter .serialise]

/-- The connection times out, and the reason replaces the message of the exception. -/
theorem exporter_survives_iff_timeout :
    ∃ trace finish, Run (observe Json.textCodec quoting .default) .boot trace finish ∧
      (trace.map fun turn => turn.output.2.length) = [0, 0, 0, 1, 2, 0, 0, 0] ∧
      (∀ turn ∈ trace, ∀ span ∈ turn.output.2, span.WellFormed) ∧
      finish.exporter.stage ≠ .terminated := by
  let events := brokenRegister .timeout
  let machine := observe Json.textCodec quoting .default
  let trace := execTrace machine .boot events
  have facts : (exec machine .boot events).isSome = true ∧
      EveryStep (ClosesInText Json.textCodec quoting) [] trace ∧
      (trace.map fun turn => turn.output.2.length) = [0, 0, 0, 1, 2, 0, 0, 0] := by
    decide +kernel
  obtain ⟨possible, quiet, spans⟩ := facts
  have run := run_of_possible possible
  exact ⟨trace, _, run, spans,
    (exporter_survives_iff Json.textCodec_lawful Json.textCodec_writesText run).mpr quiet⟩

/-- **Two bytes and a close**: the peer closes the connection, the message of the exception goes to
the exporter, and `dump` throws on its thread. -/
theorem exporter_terminated :
    Json.textCodec.Lawful ∧ Json.textCodec.WritesText ∧
      ∃ trace finish, Run (observe Json.textCodec quoting .default) .boot trace finish ∧
        (∃ turn ∈ trace, ∃ span ∈ turn.output.2, ¬ Utf8 span.statusMessage) ∧
        finish.exporter.stage = .terminated := by
  let events := brokenRegister .peerClosed
  let machine := observe Json.textCodec quoting .default
  let trace := execTrace machine .boot events
  let finish := execFinal machine .boot events
  have facts : (exec machine .boot events).isSome = true ∧
      (∃ turn ∈ trace, ∃ span ∈ turn.output.2, ¬ Utf8 span.statusMessage) ∧
      finish.exporter.stage = .terminated := by decide +kernel
  obtain ⟨possible, broken⟩ := facts
  exact ⟨Json.textCodec_lawful, Json.textCodec_writesText, trace, finish,
    run_of_possible possible, broken⟩

end ExodusOps
