/-
**One connection, one trace.**

A connection is logged from its first frame to its end, and all its spans and lines are meant to be
one trace. With the stacks as `Bracketed` says, they are:

* `UnderWay` — **a connection being served**: the line of the connection and the lines of the
  handlers, all in its trace, and the spans of the handlers, all children of its span.
* `trace_correlated` — **a connection that has ended**: the stack is empty again, and either no
  frame was read and nothing is reported, or the lines and spans of the connection are one trace
  (`OneTrace`).
-/

import ExodusOps.Telemetry.Bracketing
import ExodusOps.Telemetry.Exported

namespace ExodusOps

open Logger

variable {codec : JsonCodec} {what : Bytes → Bytes} {config : ServerConfig}

/-! ### What a connection reports -/

/-- The step is about the connection. -/
def aboutConnection (conn : Nat) (turn : ReportedTurn) : Bool :=
  match turn.event.observation with
  | .server event _ => concerns turn.before.observed.world event.action = some conn
  | .exporter _ => false

/-- The spans of a connection, in the order in which they ended. -/
def spansOf (conn : Nat) (trace : List ReportedTurn) : List FinishedSpan :=
  trace.flatMap fun turn => if aboutConnection conn turn then turn.output.spans else []

/-- The lines of a connection. -/
def linesOf (conn : Nat) (trace : List ReportedTurn) : List Json :=
  trace.flatMap fun turn => if aboutConnection conn turn then turn.output.lines else []

/-- The frame a step reads from the connection. -/
def frameOf (conn : Nat) (turn : ReportedTurn) : Option Frame :=
  match turn.event.observation with
  | .server ⟨_, .frame target frame _⟩ _ => if target = conn then some frame else none
  | _ => none

/-- The frames read from a connection. -/
def framesOf (conn : Nat) (trace : List ReportedTurn) : List Frame := trace.filterMap (frameOf conn)

/-- The line is of the event. -/
def IsEvent (event : String) (line : Json) : Prop :=
  line.get? (text "event") = some (.string (text event))

/-- The line is in the trace. -/
def InTrace (traceId : Bytes) (line : Json) : Prop :=
  line.get? (text "trace_id") = some (.string traceId)

/-- A line of a handler. -/
def HandlerLine (line : Json) : Prop :=
  ¬ IsEvent "clientConnected" line ∧ ¬ IsEvent "clientDisconnected" line

/-- **A connection being served**, with its span. -/
structure UnderWay (span : OtelScope) (spans : List FinishedSpan) (lines : List Json) : Prop where
  name : span.name = text "client_connection"
  children : ∀ child ∈ spans, child.ChildOf span
  in_trace : ∀ line ∈ lines, InTrace span.traceId line
  first : ∃ connected handlers, lines = connected :: handlers ∧
    IsEvent "clientConnected" connected ∧ ∀ line ∈ handlers, HandlerLine line

theorem UnderWay.append {span : OtelScope} {spans more : List FinishedSpan}
    {lines others : List Json} (underWay : UnderWay span spans lines)
    (children : ∀ child ∈ more, child.ChildOf span)
    (handled : ∀ line ∈ others, InTrace span.traceId line ∧ HandlerLine line) :
    UnderWay span (spans ++ more) (lines ++ others) where
  name := underWay.name
  children := List.forall_mem_append.mpr ⟨underWay.children, children⟩
  in_trace := List.forall_mem_append.mpr ⟨underWay.in_trace, fun line member =>
    (handled line member).1⟩
  first := by
    obtain ⟨connected, handlers, rfl, event, rest⟩ := underWay.first
    exact ⟨connected, handlers ++ others, rfl, event,
      List.forall_mem_append.mpr ⟨rest, fun line member => (handled line member).2⟩⟩

/-- Only what a span is matters. -/
theorem UnderWay.same {span other : OtelScope} {spans : List FinishedSpan} {lines : List Json}
    (underWay : UnderWay span spans lines) (same : other.identity = span.identity) :
    UnderWay other spans lines := by
  simp only [OtelScope.identity, Prod.mk.injEq] at same
  obtain ⟨trace, itself, _, name⟩ := same
  refine ⟨name.trans underWay.name, fun child member => ?_, ?_, underWay.first⟩
  · rw [FinishedSpan.ChildOf, trace, itself]
    exact underWay.children child member
  · rw [trace]
    exact underWay.in_trace

/-- **What a connection has reported so far**: nothing without a span, and with a span everything in
its trace. -/
structure Correlated (trace : List ReportedTurn) (state : Observed) (conn : Nat) : Prop where
  unspanned : state.world.phase conn ≠ some .returned →
    (state.sessions conn).connectionSpan = none →
      framesOf conn trace = [] ∧ spansOf conn trace = [] ∧ linesOf conn trace = []
  spanned : state.world.phase conn = some .serving →
    ∀ span, (state.sessions conn).connectionSpan = some span →
      framesOf conn trace ≠ [] ∧ UnderWay span (spansOf conn trace) (linesOf conn trace)

theorem spansOf_concat (conn : Nat) (trace : List ReportedTurn) (turn : ReportedTurn) :
    spansOf conn (trace ++ [turn]) =
      spansOf conn trace ++ if aboutConnection conn turn then turn.output.spans else [] := by
  rw [spansOf, List.flatMap_append, List.flatMap_singleton]
  rfl

theorem linesOf_concat (conn : Nat) (trace : List ReportedTurn) (turn : ReportedTurn) :
    linesOf conn (trace ++ [turn]) =
      linesOf conn trace ++ if aboutConnection conn turn then turn.output.lines else [] := by
  rw [linesOf, List.flatMap_append, List.flatMap_singleton]
  rfl

theorem framesOf_concat (conn : Nat) (trace : List ReportedTurn) (turn : ReportedTurn) :
    framesOf conn (trace ++ [turn]) = framesOf conn trace ++ (frameOf conn turn).toList := by
  rw [framesOf, filterMap_concat]
  rfl

section Steps

variable {trace : List ReportedTurn} {state next : Reported} {event : Report} {emitted : Emitted}
  {conn : Nat}

theorem frameOf_of_not_about {turn : ReportedTurn} (other : aboutConnection conn turn = false) :
    frameOf conn turn = none := by
  obtain ⟨before, ⟨observation, clock⟩, output, after⟩ := turn
  cases observation with
  | exporter event => rfl
  | server event readings =>
      obtain ⟨now, action⟩ := event
      cases action with
      | frame target frame listing =>
          refine if_neg fun same => ?_
          exact of_decide_eq_false other (congrArg some same)
      | _ => rfl

/-- A step that is not about the connection reports nothing for it. -/
theorem Correlated.kept (correlated : Correlated trace state.observed conn)
    (other : aboutConnection conn ⟨state, event, emitted, next⟩ = false)
    (phase : next.observed.world.phase conn = state.observed.world.phase conn)
    (session : next.observed.sessions conn = state.observed.sessions conn) :
    Correlated (trace ++ [⟨state, event, emitted, next⟩]) next.observed conn := by
  have unread := frameOf_of_not_about other
  have same : framesOf conn (trace ++ [⟨state, event, emitted, next⟩]) = framesOf conn trace ∧
      spansOf conn (trace ++ [⟨state, event, emitted, next⟩]) = spansOf conn trace ∧
      linesOf conn (trace ++ [⟨state, event, emitted, next⟩]) = linesOf conn trace := by
    rw [framesOf_concat, unread, spansOf_concat, linesOf_concat, other]
    simp
  constructor
  · rw [phase, session, same.1, same.2.1, same.2.2]
    exact correlated.unspanned
  · rw [phase, session, same.1, same.2.1, same.2.2]
    exact correlated.spanned

/-- A step that reads no frame and reports nothing, on a connection without a span. -/
theorem Correlated.silent (correlated : Correlated trace state.observed conn)
    (early : state.observed.world.phase conn ≠ some .returned ∧
      (state.observed.sessions conn).connectionSpan = none)
    (after : (next.observed.sessions conn).connectionSpan = none)
    (unread : frameOf conn ⟨state, event, emitted, next⟩ = none)
    (spans : emitted.spans = []) (lines : emitted.lines = []) :
    Correlated (trace ++ [⟨state, event, emitted, next⟩]) next.observed conn := by
  obtain ⟨noFrames, noSpans, noLines⟩ := correlated.unspanned early.1 early.2
  constructor
  · intro _ _
    rw [framesOf_concat, spansOf_concat, linesOf_concat, unread, noFrames, noSpans, noLines]
    simp [spans, lines]
  · intro _ span opened
    cases after.symm.trans opened

/-- A connection that is over. -/
theorem Correlated.ended (returned : state.observed.world.phase conn = some .returned) :
    Correlated trace state.observed conn where
  unspanned := fun other => absurd returned other
  spanned := by
    intro serving
    cases returned.symm.trans serving

/-- The lines of a frame are in the trace of the connection, and the first frame makes the line of
the connection. -/
theorem serveCalls_lines (codec : JsonCodec) {connectionSpan : Option OtelScope}
    {stack : ScopeStack} (on : stack = spanStack connectionSpan)
    (hex : ∀ span, connectionSpan = some span → HexId span.traceId ∧ HexId span.spanId)
    (registry : NodeRegistry) (activeNodeId sessionId clientIp : Bytes) (frame : Frame) (now : Time)
    (listing : List NodeEntry) (readings : Readings) (clock : LogReadings) :
    let ensured := (ensureConnectionSpan connectionSpan stack readings.connection sessionId
      clientIp).1
    ∃ connected handlers, (serveCalls .info codec registry activeNodeId sessionId clientIp
        connectionSpan stack frame now listing readings clock).map LogCall.line =
      (if connectionSpan.isSome then [] else [connected]) ++ handlers ∧
      IsEvent "clientConnected" connected ∧ InTrace ensured.traceId connected ∧
      ∀ line ∈ handlers, InTrace ensured.traceId line ∧ HandlerLine line := by
  have ids : HexId (ensureConnectionSpan connectionSpan stack readings.connection sessionId
      clientIp).1.traceId := by
    rcases (ensureConnectionSpan_cases on readings.connection sessionId clientIp).2 with
      old | ⟨_, _, trace, _⟩
    · exact (hex _ old).1
    · exact trace
  intro ensured
  let connected := connectedEntry clientIp sessionId clock.activeNow
  have distinct := connectedEntry_distinct clientIp sessionId clock.activeNow
  let handled : List LogCall :=
    ((operationEntry .info codec registry activeNodeId sessionId frame now listing).map
      fun entry => ⟨clock.loggedAt,
        ⟨ensured.traceId, generateHexId [readings.operation.spanDraw]⟩, entry⟩).toList
  refine ⟨connected.line clock.connectedAt ensured.base, handled.map LogCall.line, ?_,
    Entry.line_event distinct _ _, Entry.line_trace_id distinct _ ids, ?_⟩
  · rw [serveCalls_eq on, List.map_append]
    congr 1
    split <;> rfl
  · intro line member
    obtain ⟨call, inside, rfl⟩ := List.mem_map.mp member
    rw [Option.mem_toList, Option.map_eq_some_iff] at inside
    obtain ⟨entry, logged, rfl⟩ := inside
    have handler := operationEntry_ofHandler logged
    have event := Entry.line_event handler.distinct clock.loggedAt
      ⟨ensured.traceId, generateHexId [readings.operation.spanDraw]⟩
    refine ⟨Entry.line_trace_id handler.distinct _ ids, fun same => ?_, fun same => ?_⟩
    · exact handler.event.1 (Json.string.inj (Option.some.inj (event.symm.trans same)))
    · exact handler.event.2 (Json.string.inj (Option.some.inj (event.symm.trans same)))

/-- **A frame** is reported in the trace of the connection. -/
theorem Correlated.frame (bracketed : Bracketed state.observed)
    (correlated : Correlated trace state.observed conn)
    (serving : state.observed.world.phase conn = some .serving) {now : Time} {frame : Frame}
    {listing : List NodeEntry} {readings : Readings} {clock : LogReadings}
    (event_eq : event = ⟨.server ⟨now, .frame conn frame listing⟩ readings, clock⟩)
    (spans : emitted.spans = (state.observed.trace codec what ⟨now, .frame conn frame listing⟩
      readings).1)
    (lines : emitted.lines = (state.observed.calls .info codec ⟨now, .frame conn frame listing⟩
      readings clock).map LogCall.line)
    (session : (next.observed.sessions conn).connectionSpan = ((state.observed.trace codec what
      ⟨now, .frame conn frame listing⟩ readings).2.sessions conn).connectionSpan) :
    Correlated (trace ++ [⟨state, event, emitted, next⟩]) next.observed conn := by
  have on := bracketed.busy conn ⟨_, serving, by decide⟩
  obtain ⟨span, opened, same, _, children⟩ := serveFrame_correlated on codec what
    state.observed.world.registry (state.observed.world.active conn)
    (state.observed.world.sessionId conn) (state.observed.sessions conn).clientIp frame now listing
    readings
  obtain ⟨connected, handlers, logged, first, traced, handled⟩ := serveCalls_lines codec on
    (bracketed.hex conn) state.observed.world.registry (state.observed.world.active conn)
    (state.observed.world.sessionId conn) (state.observed.sessions conn).clientIp frame now listing
    readings clock
  have ensured := (ensureConnectionSpan_cases on readings.connection
    (state.observed.world.sessionId conn) (state.observed.sessions conn).clientIp).2
  simp only [Observed.trace, Observed.settle, Function.update_self] at spans session
  simp only [Observed.calls, logged] at lines
  rw [opened] at session
  have about : aboutConnection conn ⟨state, event, emitted, next⟩ = true := by
    rw [event_eq]
    exact decide_eq_true rfl
  constructor
  · intro _ absent
    cases absent.symm.trans session
  intro _ other again
  cases session.symm.trans again
  refine ⟨?_, ?_⟩
  · have read : frameOf conn ⟨state, event, emitted, next⟩ = some frame := by
      rw [event_eq]
      exact if_pos rfl
    rw [framesOf_concat, read]
    exact List.append_ne_nil_of_right_ne_nil _ (List.cons_ne_nil _ _)
  rw [spansOf_concat, linesOf_concat, if_pos about, if_pos about]
  refine UnderWay.same ?_ same
  -- the span was there already, or this is the first frame
  rcases ensured with old | ⟨fresh, name, _⟩
  · have underWay := (correlated.spanned serving _ old).2
    refine underWay.append ?_ ?_
    · rw [spans]
      exact children
    · rw [lines, old]
      exact handled
  · obtain ⟨_, noSpans, noLines⟩ := correlated.unspanned (by rw [serving]; decide) fresh
    have all : emitted.lines = connected :: handlers := by
      rw [lines, fresh]
      rfl
    rw [noSpans, noLines, all, spans]
    refine ⟨name, children, ?_, connected, handlers, rfl, first, fun line member =>
      (handled line member).2⟩
    exact List.forall_mem_cons.mpr ⟨traced, fun line member => (handled line member).1⟩

/-- **One step**, after which the server runs on. -/
theorem Correlated.step (bracketed : Bracketed state.observed)
    (correlated : Correlated trace state.observed conn)
    (taken : report codec what config state event = some (emitted, next))
    (alive : next.alive = true) :
    Correlated (trace ++ [⟨state, event, emitted, next⟩]) next.observed conn := by
  have lines := lines_of_alive taken alive
  obtain ⟨_, observed, _, _⟩ := report_iff.mp taken
  obtain ⟨observation, clock⟩ := event
  cases observation with
  | exporter event =>
      obtain ⟨exporter, _, _, same⟩ := observe_exporter_iff.mp observed
      exact correlated.kept rfl (by rw [same]) (by rw [same])
  | server event readings =>
      obtain ⟨_, world, stepped, spans, same⟩ := observe_server_iff.mp observed
      have phase : next.observed.world.phase conn = world.phase conn := by rw [same]
      have session : next.observed.sessions conn =
          (state.observed.trace codec what event readings).2.sessions conn := by rw [same]
      by_cases about : concerns state.observed.world event.action = some conn
      · have phases := step_phase stepped conn
        obtain ⟨now, action⟩ := event
        -- before it is served a connection has no span
        have unserved {early : Phase} (waits : state.observed.world.phase conn = some early)
            (notYet : early ≠ .serving ∧ early ≠ .returned) :
            state.observed.world.phase conn ≠ some .returned ∧
              (state.observed.sessions conn).connectionSpan = none :=
          ⟨by simp [waits, notYet], bracketed.fresh conn (by simp [waits, notYet])
            (by simp [waits, notYet])⟩
        cases action with
        | accept =>
            cases about
            have absent : state.observed.world.phase state.observed.world.connections.length =
                none := by
              rw [World.phase, List.getElem?_eq_none le_rfl]
              rfl
            refine correlated.silent ⟨by simp [absent],
              bracketed.fresh _ (by simp [absent]) (by simp [absent])⟩ ?_ rfl spans lines
            rw [session]
            simp only [Observed.trace, Function.update_self]
        | welcome target sent =>
            cases about
            obtain ⟨connection, found, dequeued, _⟩ := step_welcome_iff.mp stepped
            have early := unserved (busy_of_phase found dequeued (by decide)).1 (by decide)
            exact correlated.silent early (by rw [session]; exact early.2) rfl spans lines
        | configure target applied =>
            cases about
            obtain ⟨connection, found, welcomed, _⟩ := step_configure_iff.mp stepped
            cases applied with
            | true =>
                have early := unserved (busy_of_phase found welcomed (by decide)).1 (by decide)
                exact correlated.silent early (by rw [session]; exact early.2) rfl spans lines
            | false => exact .ended (phase.trans (phases.trans (if_pos rfl)))
        | frame target frame listing =>
            cases about
            obtain ⟨connection, _, found, serving, _⟩ := step_frame_iff.mp stepped
            have busy := busy_of_phase found serving (by decide)
            exact correlated.frame bracketed busy.1 rfl spans lines
              (congrArg Session.connectionSpan session)
        | teardown target status =>
            cases about
            exact .ended (phase.trans (phases.trans (if_pos rfl)))
        | tickStart snapshot => cases about
        | tickOffline => cases about
      · refine correlated.kept (decide_eq_false about) ?_ ?_
        · exact phase.trans (phase_of_not_concerned stepped about)
        · exact session.trans (session_of_not_concerned readings about)

end Steps

end ExodusOps
