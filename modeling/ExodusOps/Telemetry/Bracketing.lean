/-
**Scope stacks: a worker's stack is the span of the connection it serves.**

Spans are put on the scope stack of their thread by constructors and taken off by destructors that
do not look which span they take off. It works because a thread serves one connection at a time, and
opens and closes every other span on top of the connection's:

* `serveFrame_correlated`, `hangUpSpans_correlated` — **one connection.** What a frame and the end
  of the connection do to the stack, and the spans they leave as children of the connection's.
* `Bracketed` — **the whole server.** A worker's stack is the span of the connection it serves, once
  there is one, and empty otherwise; the monitor's is empty between steps. Every step of the server
  keeps this (`bracketed_of_run`).
* `serveCalls_eq`, `hangUpCalls_eq` — the calls of the logger, with the ids found on such a stack.
-/

import ExodusOps.Telemetry.Reported

namespace ExodusOps

open Logger

variable {codec : JsonCodec} {what : Bytes → Bytes} {config : ServerConfig}

/-! ### Annotations keep the identity of a span -/

/-- What a span is and where it belongs: its trace, itself, its parent and its name. -/
def OtelScope.identity (scope : OtelScope) : Bytes × Bytes × Bytes × Bytes :=
  (scope.traceId, scope.spanId, scope.parentSpanId, scope.name)

@[simp] theorem OtelScope.setAttribute_identity (scope : OtelScope) (key value : Bytes) :
    (scope.setAttribute key value).identity = scope.identity := rfl

@[simp] theorem OtelScope.setIntAttribute_identity (scope : OtelScope) (key : Bytes)
    (value : Int64) : (scope.setIntAttribute key value).identity = scope.identity := rfl

@[simp] theorem OtelScope.recordError_identity (scope : OtelScope) (description : Bytes) :
    (scope.recordError description).identity = scope.identity := rfl

@[simp] theorem OtelScope.refuse_identity (scope : OtelScope) (errorCode : String)
    (description : Bytes) : (scope.refuse errorCode description).identity = scope.identity := by
  simp [OtelScope.refuse]

theorem RegisterHandler.annotate_identity (registry : NodeRegistry) (jsonPayload sessionId : Bytes)
    (durationMs : Int64) (span : OtelScope) :
    (annotate codec registry jsonPayload sessionId durationMs span).identity = span.identity := by
  unfold annotate
  cases codec.parse jsonPayload with
  | none => simp
  | some json =>
      simp only
      cases validate json with
      | none => simp
      | some entry =>
          simp only
          cases (registry.registerNode entry).1 <;> simp

theorem QueryHandler.annotateQueryNode_identity (registry : NodeRegistry)
    (jsonPayload sessionId : Bytes) (durationMs : Int64) (span : OtelScope) :
    (annotateQueryNode codec registry jsonPayload sessionId durationMs span).identity =
      span.identity := by
  unfold annotateQueryNode
  cases codec.parse jsonPayload with
  | none => simp
  | some json =>
      simp only
      split
      · rename_i nodeId _
        cases registry.queryNode nodeId <;> simp
      · simp

theorem HeartbeatHandler.annotate_identity (registry : NodeRegistry) (nodeId sessionId : Bytes)
    (now : Time) (span : OtelScope) :
    (annotate registry nodeId sessionId now span).identity = span.identity := by
  unfold annotate
  split <;> simp

/-- **Whatever a handler sets**, its span stays the same one. -/
theorem operationSpan_identity {registry : NodeRegistry} {activeNodeId sessionId : Bytes}
    {frame : Frame} {now : Time} {listing : List NodeEntry} {durationMs : Int64} {name : Bytes}
    {annotate : OtelScope → OtelScope}
    (given : operationSpan codec registry activeNodeId sessionId frame now listing durationMs =
      some (name, annotate)) (span : OtelScope) : (annotate span).identity = span.identity := by
  unfold operationSpan at given
  split_ifs at given
  · cases given
    exact RegisterHandler.annotate_identity registry _ sessionId durationMs span
  · cases given
    exact QueryHandler.annotateQueryNode_identity registry _ sessionId durationMs span
  · cases given
    simp [QueryHandler.annotateListNodes]
  · cases given
    exact HeartbeatHandler.annotate_identity registry activeNodeId sessionId now span

theorem noteExtraction_identity (frame : Frame) (span : OtelScope) :
    (noteExtraction codec what frame span).identity = span.identity := by
  unfold noteExtraction
  cases rejectedPayload codec frame <;> simp

theorem closeConnectionSpan_identity (reason : DisconnectReason) (description : Bytes)
    (span : OtelScope) :
    (closeConnectionSpan reason description span).identity = span.identity := by
  unfold closeConnectionSpan
  split <;> simp

theorem annotateDisconnection_identity (activeNodeId sessionId : Bytes) (durationMs : Int64)
    (reason : DisconnectReason) (span : OtelScope) :
    (annotateDisconnection activeNodeId sessionId durationMs reason span).identity =
      span.identity := by
  unfold annotateDisconnection
  split <;> simp

/-! ### One connection on its thread -/

/-- The stack of a thread that serves a connection: its span, once there is one. -/
def spanStack (connectionSpan : Option OtelScope) : ScopeStack :=
  (connectionSpan.map OtelScope.base).toList

/-- A span in the trace of another one and its child. -/
def FinishedSpan.ChildOf (child : FinishedSpan) (parent : OtelScope) : Prop :=
  child.traceId = parent.traceId ∧ child.parentSpanId = parent.spanId

/-- A span opened on top of another one is its child, whatever is set on it. -/
theorem childOf_of_identity {span : OtelScope} {parent : OtelScope} {opening : Opening}
    {name endTime : Bytes}
    (same : span.identity = (OtelScope.operation [parent.base] opening name).1.identity) :
    FinishedSpan.ChildOf ⟨span, endTime⟩ parent := by
  simp only [OtelScope.identity, Prod.mk.injEq] at same
  exact ⟨same.1, same.2.2.1⟩

section Connection

variable {connectionSpan : Option OtelScope} {stack : ScopeStack}

/-- **The span of the connection** after a frame: the one there was, or a new one. -/
theorem ensureConnectionSpan_cases (on : stack = spanStack connectionSpan) (opening : Opening)
    (sessionId clientIp : Bytes) :
    let ensured := ensureConnectionSpan connectionSpan stack opening sessionId clientIp
    ensured.2 = [ensured.1.base] ∧
      (connectionSpan = some ensured.1 ∨ connectionSpan = none ∧
        ensured.1.name = text "client_connection" ∧ HexId ensured.1.traceId ∧
        HexId ensured.1.spanId) := by
  subst on
  cases connectionSpan with
  | some span => exact ⟨rfl, .inl rfl⟩
  | none =>
      exact ⟨rfl, .inr ⟨rfl, rfl, generateHexId_hex le_rfl, generateHexId_hex (by simp)⟩⟩

/-- The spans a frame leaves: the connection's on the stack, and the handler's as its child. -/
theorem serveFrame_correlated (on : stack = spanStack connectionSpan) (codec : JsonCodec)
    (what : Bytes → Bytes) (registry : NodeRegistry) (activeNodeId sessionId clientIp : Bytes)
    (frame : Frame) (now : Time) (listing : List NodeEntry) (readings : Readings) :
    let ensured := (ensureConnectionSpan connectionSpan stack readings.connection sessionId
      clientIp).1
    let traced := serveFrame codec what registry activeNodeId sessionId clientIp connectionSpan
      stack frame now listing readings
    ∃ span, traced.connectionSpan = some span ∧ span.identity = ensured.identity ∧
      traced.stack = [ensured.base] ∧ ∀ child ∈ traced.spans, child.ChildOf ensured := by
  have above := (ensureConnectionSpan_cases on readings.connection sessionId clientIp).1
  intro ensured traced
  refine ⟨noteExtraction codec what frame ensured, ?_, noteExtraction_identity frame ensured, ?_⟩
  · simp only [traced, serveFrame]
    split <;> rfl
  · simp only [traced, serveFrame]
    split
    · exact ⟨above, List.forall_mem_nil _⟩
    · rename_i name annotate given
      rw [above]
      refine ⟨rfl, List.forall_mem_singleton.mpr ?_⟩
      exact childOf_of_identity (operationSpan_identity given _)

/-- The spans a connection leaves: the disconnection's as a child, and its own. -/
theorem hangUpSpans_correlated (on : stack = spanStack connectionSpan)
    (activeNodeId sessionId : Bytes) (reason : DisconnectReason) (description : Bytes)
    (readings : Readings) :
    let traced := hangUpSpans activeNodeId sessionId connectionSpan stack reason description
      readings
    traced.connectionSpan = none ∧ traced.stack = [] ∧
      (connectionSpan = none → traced.spans = []) ∧
      ∀ span, connectionSpan = some span → ∃ disconnection connection : FinishedSpan,
        traced.spans = [disconnection, connection] ∧ connection.identity = span.identity ∧
        disconnection.ChildOf span := by
  subst on
  cases connectionSpan with
  | none =>
      refine ⟨rfl, rfl, fun _ => rfl, ?_⟩
      rintro span ⟨⟩
  | some span =>
      refine ⟨rfl, rfl, nofun, ?_⟩
      rintro span ⟨⟩
      refine ⟨_, _, rfl, closeConnectionSpan_identity reason description span, ?_⟩
      exact childOf_of_identity (annotateDisconnection_identity _ _ _ _ _)

end Connection

/-! ### The stacks -/

/-- A worker is busy with the connection. -/
def World.Busy (world : World) (conn : Nat) : Prop :=
  ∃ phase, world.phase conn = some phase ∧ phase ≠ .returned

theorem World.not_busy {world : World} {conn : Nat} (returned : world.phase conn = some .returned) :
    ¬ world.Busy conn := by
  rintro ⟨phase, found, other⟩
  cases returned.symm.trans found
  exact other rfl

/-- **The stacks between steps.** -/
structure Bracketed (state : Observed) : Prop where
  monitor : state.scopeStacks .monitor = []
  /-- A worker's stack is the span of the connection it serves. -/
  busy : ∀ conn, state.world.Busy conn →
    state.stackOf conn = spanStack (state.sessions conn).connectionSpan
  /-- The stack of a worker that serves none is empty. -/
  idle : ∀ worker, (∀ conn, state.world.Busy conn → (state.sessions conn).worker ≠ worker) →
    state.scopeStacks (.worker worker) = []
  /-- A worker serves one connection at a time. -/
  apart : ∀ one other, state.world.Busy one → state.world.Busy other →
    (state.sessions one).worker = (state.sessions other).worker → one = other
  /-- The span is opened when the first frame has been read. -/
  fresh : ∀ conn, state.world.phase conn ≠ some .serving →
    state.world.phase conn ≠ some .returned → (state.sessions conn).connectionSpan = none
  hex : ∀ conn span, (state.sessions conn).connectionSpan = some span →
    HexId span.traceId ∧ HexId span.spanId

theorem bracketed_boot : Bracketed .boot where
  monitor := rfl
  busy := by rintro conn ⟨phase, found, _⟩; cases found
  idle := fun _ _ => rfl
  apart := by rintro one other ⟨phase, found, _⟩; cases found
  fresh := fun _ _ _ => rfl
  hex := by rintro conn span ⟨⟩

section Steps

variable {state next : Observed} {output : Option (Nat × Reply) × List FinishedSpan}

/-- **A step about one connection**: only its span, its phase and the stack of its worker change. -/
theorem Bracketed.replace (bracketed : Bracketed state) {conn : Nat}
    (serves : state.world.Busy conn)
    (phases : ∀ other, other ≠ conn → next.world.phase other = state.world.phase other)
    (sessions : ∀ other, other ≠ conn → next.sessions other = state.sessions other)
    (worker : (next.sessions conn).worker = (state.sessions conn).worker)
    (threads : ∀ thread, thread ≠ .worker (state.sessions conn).worker →
      next.scopeStacks thread = state.scopeStacks thread)
    (stack : next.stackOf conn = spanStack (next.sessions conn).connectionSpan)
    (finished : ¬ next.world.Busy conn → (next.sessions conn).connectionSpan = none)
    (fresh : next.world.phase conn ≠ some .serving → next.world.phase conn ≠ some .returned →
      (next.sessions conn).connectionSpan = none)
    (hex : ∀ span, (next.sessions conn).connectionSpan = some span →
      HexId span.traceId ∧ HexId span.spanId) : Bracketed next := by
  have before : ∀ other, next.world.Busy other → state.world.Busy other := by
    intro other busy
    by_cases same : other = conn
    · exact same ▸ serves
    · obtain ⟨phase, found, running⟩ := busy
      exact ⟨phase, phases other same ▸ found, running⟩
  have workers : ∀ other, (next.sessions other).worker = (state.sessions other).worker := by
    intro other
    by_cases same : other = conn
    · rw [same, worker]
    · rw [sessions other same]
  constructor
  case monitor => rw [threads .monitor nofun, bracketed.monitor]
  case busy =>
    intro other busy
    by_cases same : other = conn
    · rw [same, stack]
    · -- another connection is on another worker
      have distinct : (state.sessions other).worker ≠ (state.sessions conn).worker :=
        fun equal => same (bracketed.apart other conn (before other busy) serves equal)
      rw [Observed.stackOf, workers, threads _ (fun equal => distinct (ThreadId.worker.inj equal)),
        sessions other same]
      exact bracketed.busy other (before other busy)
  case idle =>
    intro target unserved
    by_cases same : target = (state.sessions conn).worker
    · have ended : ¬ next.world.Busy conn := fun busy => unserved conn busy (worker.trans same.symm)
      rw [finished ended, Observed.stackOf, worker, ← same] at stack
      exact stack
    · rw [threads _ (fun equal => same (ThreadId.worker.inj equal))]
      refine bracketed.idle target fun other busy => ?_
      by_cases ours : other = conn
      · rw [ours]
        exact Ne.symm same
      · obtain ⟨phase, found, running⟩ := busy
        rw [← workers]
        exact unserved other ⟨phase, (phases other ours).trans found, running⟩
  case apart =>
    intro one other first second equal
    rw [workers, workers] at equal
    exact bracketed.apart one other (before one first) (before other second) equal
  case fresh =>
    intro other notServing notReturned
    by_cases same : other = conn
    · subst same
      exact fresh notServing notReturned
    · rw [phases other same] at notServing notReturned
      rw [sessions other same]
      exact bracketed.fresh other notServing notReturned
  case hex =>
    intro other span opened
    by_cases same : other = conn
    · subst same
      exact hex span opened
    · rw [sessions other same] at opened
      exact bracketed.hex other span opened

/-- A worker takes a connection. -/
theorem Bracketed.accept (bracketed : Bracketed state) {clientIp : Bytes} {worker : Nat}
    (admitted : ∀ conn < state.world.connections.length,
      (state.sessions conn).worker = worker → state.world.phase conn = some .returned)
    (phases : ∀ conn, next.world.phase conn =
      if conn = state.world.connections.length then some .dequeued else state.world.phase conn)
    (sessions : next.sessions =
      Function.update state.sessions state.world.connections.length ⟨clientIp, worker, none⟩)
    (threads : next.scopeStacks = state.scopeStacks) : Bracketed next := by
  let newest := state.world.connections.length
  have absent : state.world.phase newest = none := by
    rw [World.phase, List.getElem?_eq_none le_rfl]
    rfl
  have inside : ∀ conn, state.world.Busy conn → conn < newest := by
    rintro conn ⟨phase, found, _⟩
    by_contra outside
    rw [World.phase, List.getElem?_eq_none (Nat.not_lt.mp outside)] at found
    cases found
  -- the worker was free
  have free : ∀ conn, state.world.Busy conn → (state.sessions conn).worker ≠ worker :=
    fun conn busy same => World.not_busy (admitted conn (inside conn busy) same) busy
  have kept : ∀ conn, conn ≠ newest → next.world.phase conn = state.world.phase conn ∧
      next.sessions conn = state.sessions conn := fun conn old =>
    ⟨(phases conn).trans (if_neg old), by rw [sessions, Function.update_of_ne old]⟩
  have fresh : next.world.phase newest = some .dequeued ∧
      next.sessions newest = ⟨clientIp, worker, none⟩ :=
    ⟨(phases newest).trans (if_pos rfl), by rw [sessions, Function.update_self]⟩
  have before : ∀ conn, conn ≠ newest → next.world.Busy conn → state.world.Busy conn := by
    rintro conn old ⟨phase, found, running⟩
    exact ⟨phase, (kept conn old).1 ▸ found, running⟩
  constructor
  case monitor => rw [threads, bracketed.monitor]
  case busy =>
    intro conn busy
    by_cases new : conn = newest
    · subst new
      rw [Observed.stackOf, threads, fresh.2]
      exact bracketed.idle worker free
    · rw [Observed.stackOf, threads, (kept conn new).2]
      exact bracketed.busy conn (before conn new busy)
  case idle =>
    intro target unserved
    rw [threads]
    refine bracketed.idle target fun conn busy => ?_
    have old : conn ≠ newest := (inside conn busy).ne
    obtain ⟨phase, found, running⟩ := busy
    rw [← (kept conn old).2]
    exact unserved conn ⟨phase, (kept conn old).1.trans found, running⟩
  case apart =>
    intro one other first second equal
    by_cases new : one = newest <;> by_cases also : other = newest
    · rw [new, also]
    · rw [new, fresh.2, (kept other also).2] at equal
      exact absurd equal.symm (free other (before other also second))
    · rw [also, fresh.2, (kept one new).2] at equal
      exact absurd equal (free one (before one new first))
    · rw [(kept one new).2, (kept other also).2] at equal
      exact bracketed.apart one other (before one new first) (before other also second) equal
  case fresh =>
    intro conn notServing notReturned
    by_cases new : conn = newest
    · rw [new, fresh.2]
    · rw [(kept conn new).1] at notServing notReturned
      rw [(kept conn new).2]
      exact bracketed.fresh conn notServing notReturned
  case hex =>
    intro conn span opened
    by_cases new : conn = newest
    · rw [new, fresh.2] at opened
      cases opened
    · rw [(kept conn new).2] at opened
      exact bracketed.hex conn span opened

theorem busy_of_phase {world : World} {conn : Nat} {connection : Connection} {phase : Phase}
    (found : world.connections[conn]? = some connection) (is : connection.phase = phase)
    (running : phase ≠ .returned) : world.phase conn = some phase ∧ world.Busy conn := by
  have phase := (World.phase_eq found).trans (congrArg some is)
  exact ⟨phase, _, phase, running⟩

/-- A step that has nothing to do with a connection. -/
theorem Bracketed.kept (bracketed : Bracketed state)
    (phases : ∀ conn, next.world.phase conn = state.world.phase conn)
    (sessions : next.sessions = state.sessions) (threads : next.scopeStacks = state.scopeStacks) :
    Bracketed next := by
  have busy : ∀ conn, next.world.Busy conn ↔ state.world.Busy conn := by
    intro conn
    rw [World.Busy, phases, World.Busy]
  constructor
  case monitor => rw [threads, bracketed.monitor]
  case busy =>
    intro conn serves
    rw [Observed.stackOf, threads, sessions]
    exact bracketed.busy conn ((busy conn).mp serves)
  case idle =>
    intro worker unserved
    rw [threads]
    refine bracketed.idle worker fun conn serves => ?_
    rw [← sessions]
    exact unserved conn ((busy conn).mpr serves)
  case apart =>
    intro one other first second equal
    rw [sessions] at equal
    exact bracketed.apart one other ((busy one).mp first) ((busy other).mp second) equal
  case fresh =>
    intro conn
    rw [phases, sessions]
    exact bracketed.fresh conn
  case hex =>
    intro conn
    rw [sessions]
    exact bracketed.hex conn

/-- A step of a connection that leaves the stack as it should be. -/
theorem Bracketed.settle (bracketed : Bracketed state) {conn : Nat} (busy : state.world.Busy conn)
    {traced : Traced} {world : World} {exporter : BatchExporter}
    (phases : ∀ other, other ≠ conn → world.phase other = state.world.phase other)
    (stack : traced.stack = spanStack traced.connectionSpan)
    (spanned : traced.connectionSpan ≠ none → world.phase conn = some .serving)
    (hex : ∀ span, traced.connectionSpan = some span → HexId span.traceId ∧ HexId span.spanId) :
    Bracketed { (state.settle conn traced).2 with world := world, exporter := exporter } := by
  have session : (state.settle conn traced).2.sessions conn =
      { state.sessions conn with connectionSpan := traced.connectionSpan } :=
    Function.update_self ..
  refine bracketed.replace busy phases (fun other different => Function.update_of_ne different _ _)
    (congrArg Session.worker session :)
    (fun thread different => Function.update_of_ne different _ _) ?_ ?_ ?_ ?_
  · rw [Observed.stackOf]
    simp only [session]
    exact (Function.update_self ..).trans stack
  · intro unserved
    rw [congrArg Session.connectionSpan session]
    by_contra opened
    exact unserved ⟨_, spanned opened, nofun⟩
  · intro notServing _
    rw [congrArg Session.connectionSpan session]
    by_contra opened
    exact notServing (spanned opened)
  · rw [congrArg Session.connectionSpan session]
    exact hex

/-- **Every step of the server keeps the stacks.** -/
theorem Bracketed.server (bracketed : Bracketed state) {event : Event} {readings : Readings}
    (taken : observe codec what config state (.server event readings) = some (output, next)) :
    Bracketed next := by
  obtain ⟨⟨_, admitted⟩, world, stepped, _, rfl⟩ := observe_server_iff.mp taken
  have phases := step_phase stepped
  obtain ⟨now, action⟩ := event
  -- where tracing does nothing, only the phase of one connection has moved on
  have moved {conn : Nat} (busy : state.world.Busy conn)
      (early : (state.sessions conn).connectionSpan = none)
      (untraced : state.trace codec what ⟨now, action⟩ readings = ([], state))
      (others : ∀ other, other ≠ conn → world.phase other = state.world.phase other) :
      Bracketed { (state.trace codec what ⟨now, action⟩ readings).2 with
        world := world, exporter := state.exporter.enqueue output.2 } := by
    rw [untraced]
    refine bracketed.replace busy others (fun _ _ => rfl) rfl (fun _ _ => rfl) ?_ (fun _ => early)
      (fun _ _ => early) (bracketed.hex conn)
    exact bracketed.busy conn busy
  cases action with
  | accept => exact bracketed.accept (admitted rfl) phases rfl rfl
  | welcome conn sent =>
      obtain ⟨connection, found, dequeued, _⟩ := step_welcome_iff.mp stepped
      obtain ⟨phase, busy⟩ := busy_of_phase found dequeued nofun
      refine moved busy (bracketed.fresh conn ?_ ?_) rfl fun other different =>
        (phases other).trans (if_neg different)
      · rw [phase]; nofun
      · rw [phase]; nofun
  | configure conn applied =>
      obtain ⟨connection, found, welcomed, _⟩ := step_configure_iff.mp stepped
      obtain ⟨phase, busy⟩ := busy_of_phase found welcomed nofun
      have early := bracketed.fresh conn (by rw [phase]; nofun) (by rw [phase]; nofun)
      have others : ∀ other, other ≠ conn → world.phase other = state.world.phase other :=
        fun other different => (phases other).trans (if_neg different)
      cases applied with
      | true => exact moved busy early rfl others
      | false =>
          obtain ⟨gone, stack, _⟩ := hangUpSpans_correlated (bracketed.busy conn busy)
            (state.world.active conn) (state.world.sessionId conn) .socketConfigError
            (text "SO_RCVTIMEO failed") readings
          exact bracketed.settle busy others (stack.trans (by rw [gone]; rfl))
            (fun opened => absurd gone opened) (fun span opened => by cases gone.symm.trans opened)
  | frame conn frame listing =>
      obtain ⟨connection, _, found, serving, _⟩ := step_frame_iff.mp stepped
      obtain ⟨phase, busy⟩ := busy_of_phase found serving nofun
      have on := bracketed.busy conn busy
      obtain ⟨span, opened, same, stack, _⟩ := serveFrame_correlated on codec what
        state.world.registry (state.world.active conn) (state.world.sessionId conn)
        (state.sessions conn).clientIp frame now listing readings
      have ensured := (ensureConnectionSpan_cases on readings.connection
        (state.world.sessionId conn) (state.sessions conn).clientIp).2
      simp only [OtelScope.identity, Prod.mk.injEq] at same
      refine bracketed.settle busy (fun other _ => phases other) ?_
        (fun _ => (phases conn).trans phase) ?_
      · rw [stack, opened, spanStack, Option.map_some, Option.toList_some, OtelScope.base,
          OtelScope.base, same.1, same.2.1]
      · intro other again
        cases opened.symm.trans again
        rw [same.1, same.2.1]
        rcases ensured with old | ⟨_, _, hex⟩
        · exact bracketed.hex conn _ old
        · exact hex
  | teardown conn status =>
      obtain ⟨connection, found, serving, _⟩ := step_teardown_iff.mp stepped
      obtain ⟨phase, busy⟩ := busy_of_phase found serving nofun
      obtain ⟨gone, stack, _⟩ := hangUpSpans_correlated (bracketed.busy conn busy)
        (state.world.active conn) (state.world.sessionId conn)
        (disconnectReason status readings.connectionReset)
        (disconnectReasonToString (disconnectReason status readings.connectionReset)) readings
      exact bracketed.settle busy (fun other different => (phases other).trans (if_neg different))
        (stack.trans (by rw [gone]; rfl)) (fun opened => absurd gone opened)
        (fun span opened => by cases gone.symm.trans opened)
  | tickStart snapshot => exact bracketed.kept phases rfl rfl
  | tickOffline =>
      obtain ⟨nodeId, rest, stale, _⟩ := step_tickOffline_iff.mp stepped
      simp only [Observed.trace, stale]
      -- the monitor's span is opened and closed within the step
      exact bracketed.kept phases rfl (Function.update_eq_self _ _)

theorem bracketed_of_run {trace : List ObservedTurn}
    (run : Run (observe codec what config) .boot trace state) : Bracketed state := by
  refine run.invariant Bracketed bracketed_boot ?_
  intro state observation output next taken bracketed
  cases observation with
  | server event readings => exact bracketed.server taken
  | exporter event =>
      obtain ⟨exporter, _, _, rfl⟩ := observe_exporter_iff.mp taken
      exact bracketed.kept (fun _ => rfl) rfl rfl

end Steps

/-! ### The lines -/

@[simp] theorem admits_info (level : Level) (entry : Entry) :
    Level.info.admits level entry = some entry := by
  simp [Level.admits, Level.rank]

/-- The line of a new connection. -/
def connectedEntry (clientIp sessionId : Bytes) (activeNow : UInt32) : Entry :=
  ⟨.info, "clientConnected", [field "client_ip" clientIp, field "session_id" sessionId,
    (text "active_connections", .unsigned activeNow.toUInt64)],
    "New client connection established"⟩

/-- The line of a connection that ends. -/
def disconnectedEntry (nodeId sessionId : Bytes) (durationMs : Int64) (reason : Bytes) : Entry :=
  nodeEntry .info "clientDisconnected" nodeId sessionId
    [(text "connection_duration_ms", .integer durationMs.toInt), field "reason" reason]
    "Client connection closed"

theorem connectedEntry_distinct (clientIp sessionId : Bytes) (activeNow : UInt32) :
    (connectedEntry clientIp sessionId activeNow).Distinct :=
  Entry.distinct_of_keys ["client_ip", "session_id", "active_connections"] rfl (by decide +kernel)

theorem disconnectedEntry_distinct (nodeId sessionId : Bytes) (durationMs : Int64)
    (reason : Bytes) : (disconnectedEntry nodeId sessionId durationMs reason).Distinct :=
  Entry.distinct_of_keys ["node_id", "session_id", "connection_duration_ms", "reason"] rfl
    (by decide +kernel)

/-- A line that is neither the first nor the last of a connection. -/
structure Logger.Entry.OfHandler (entry : Entry) : Prop where
  distinct : entry.Distinct
  event : text entry.event ≠ text "clientConnected" ∧ text entry.event ≠ text "clientDisconnected"

theorem nodeEntry_ofHandler {level : Level} {event : String} {nodeId sessionId : Bytes}
    {more : List (Bytes × Json)} {message : String} (keys : List String)
    (named : more.map Prod.fst = keys.map text)
    (apart : ((lineKeys ++ ("node_id" :: "session_id" :: keys) ++ ["message"]).map text).Nodup)
    (other : text event ≠ text "clientConnected" ∧ text event ≠ text "clientDisconnected") :
    (nodeEntry level event nodeId sessionId more message).OfHandler := by
  refine ⟨Entry.distinct_of_keys ("node_id" :: "session_id" :: keys) ?_ apart, other⟩
  simp [nodeEntry, field, named]

theorem registerError_ofHandler (nodeId sessionId : Bytes) (reason : String) {entry : Entry}
    (logged : logNodeRegisterError nodeId sessionId reason = some entry) : entry.OfHandler := by
  cases logged
  exact nodeEntry_ofHandler ["reason"] rfl (by decide +kernel) (by decide +kernel)

theorem nodeQueried_ofHandler (nodeId sessionId : Bytes) (result : String) {entry : Entry}
    (logged : logNodeQueried .info nodeId sessionId result = some entry) : entry.OfHandler := by
  rw [logNodeQueried, admits_info] at logged
  cases logged
  exact nodeEntry_ofHandler ["result"] rfl (by decide +kernel) (by decide +kernel)

/-- **The lines of the handlers.** -/
theorem operationEntry_ofHandler {registry : NodeRegistry} {activeNodeId sessionId : Bytes}
    {frame : Frame} {now : Time} {listing : List NodeEntry} {entry : Entry}
    (logged : operationEntry .info codec registry activeNodeId sessionId frame now listing =
      some entry) : entry.OfHandler := by
  unfold operationEntry at logged
  split_ifs at logged
  · unfold RegisterHandler.entry at logged
    split at logged
    · exact registerError_ofHandler _ _ _ logged
    · split at logged
      · exact registerError_ofHandler _ _ _ logged
      · split at logged
        · rw [logNodeRegistered, admits_info] at logged
          cases logged
          exact nodeEntry_ofHandler [] rfl (by decide +kernel) (by decide +kernel)
        · exact registerError_ofHandler _ _ _ logged
  · unfold QueryHandler.queryNodeEntry at logged
    split at logged
    · exact nodeQueried_ofHandler _ _ _ logged
    · split at logged
      · split at logged
        · exact nodeQueried_ofHandler _ _ _ logged
        · exact nodeQueried_ofHandler _ _ _ logged
      · exact nodeQueried_ofHandler _ _ _ logged
  · rw [logNodesListed, admits_info] at logged
    cases logged
    exact ⟨Entry.distinct_of_keys ["session_id", "node_count"] rfl (by decide +kernel),
      show text "nodes_listed" ≠ _ ∧ text "nodes_listed" ≠ _ by decide +kernel⟩
  · unfold HeartbeatHandler.entry at logged
    split at logged
    · rw [logHeartbeatReceived, admits_info] at logged
      cases logged
      exact nodeEntry_ofHandler [] rfl (by decide +kernel) (by decide +kernel)
    · rw [logHeartbeatUnknownNode, admits_info] at logged
      cases logged
      exact nodeEntry_ofHandler [] rfl (by decide +kernel) (by decide +kernel)

section Calls

variable {connectionSpan : Option OtelScope} {stack : ScopeStack}

/-- A frame that is given to no handler is not logged. -/
theorem operationEntry_eq_none {registry : NodeRegistry} {activeNodeId sessionId : Bytes}
    {frame : Frame} {now : Time} {listing : List NodeEntry} {durationMs : Int64} (level : Level)
    (unhandled : operationSpan codec registry activeNodeId sessionId frame now listing durationMs =
      none) :
    operationEntry level codec registry activeNodeId sessionId frame now listing = none := by
  unfold operationSpan at unhandled
  unfold operationEntry
  split_ifs at unhandled ⊢
  rfl

/-- **The calls for a frame**: the line of a new connection, then the handler's. -/
theorem serveCalls_eq (on : stack = spanStack connectionSpan) (registry : NodeRegistry)
    (activeNodeId sessionId clientIp : Bytes) (frame : Frame) (now : Time)
    (listing : List NodeEntry) (readings : Readings) (clock : LogReadings) :
    let ensured := (ensureConnectionSpan connectionSpan stack readings.connection sessionId
      clientIp).1
    serveCalls .info codec registry activeNodeId sessionId clientIp connectionSpan stack frame now
        listing readings clock =
      (if connectionSpan.isSome then []
        else [⟨clock.connectedAt, ensured.base,
          connectedEntry clientIp sessionId clock.activeNow⟩]) ++
      ((operationEntry .info codec registry activeNodeId sessionId frame now listing).map
        fun entry => ⟨clock.loggedAt,
          ⟨ensured.traceId, generateHexId [readings.operation.spanDraw]⟩, entry⟩).toList := by
  have above := (ensureConnectionSpan_cases on readings.connection sessionId clientIp).1
  simp only [serveCalls]
  congr 1
  split
  · rename_i unhandled
    rw [operationEntry_eq_none .info unhandled]
    rfl
  · rw [above]
    rfl

/-- **The call when a connection ends.** -/
theorem hangUpCalls_eq (on : stack = spanStack connectionSpan) (activeNodeId sessionId : Bytes)
    (reason : DisconnectReason) (readings : Readings) (clock : LogReadings) :
    hangUpCalls .info activeNodeId sessionId connectionSpan stack reason readings clock =
      (connectionSpan.map fun span => ⟨clock.loggedAt,
        ⟨span.traceId, generateHexId [readings.operation.spanDraw]⟩,
        disconnectedEntry activeNodeId sessionId readings.durationMs
          (disconnectReasonToString reason)⟩).toList := by
  subst on
  cases connectionSpan <;> rfl

end Calls

end ExodusOps
