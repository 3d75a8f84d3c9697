/-
**Spans: `OtelScope` and the scope stack of a thread.**

A scope is a span that is still open. Opening one takes over the trace of the scope on top of the
thread's stack, or draws a new one, and puts the scope on the stack; the stack is only ever asked
for the two ids, which never change. Closing a scope takes the top off the stack, whichever scope
that is, and gives the finished span. Random draws and clock readings are inputs.

* `OtelScope.WellLabelled` — every text of a scope but its status message is well-formed UTF-8; with
  the message as well it is `WellFormed`. Opening, annotating and closing keep both.
-/

import ExodusOps.Lib.Bytes
import ExodusOps.Registry.NodeRegistry

namespace ExodusOps

/-! ### Identifiers and times -/

/-- `generateHexId`: two digits for each byte of what was drawn, the lowest byte first. Sixteen
bytes take two draws, eight take one. -/
def generateHexId (draws : List UInt64) : Bytes :=
  (draws.flatMap fun value => (List.range 8).flatMap fun index =>
    let byte := value.toNat / 256 ^ index % 256
    [Nat.digitChar (byte / 16), Nat.digitChar (byte % 16)]).flatMap String.utf8EncodeChar

theorem generateHexId_utf8 (draws : List UInt64) : Utf8 (generateHexId draws) := ⟨_, rfl⟩

/-- `nowNanos`: a reading of the system clock in decimal. -/
def nowNanos (now : Time) : Bytes := text (toString now)

/-! ### Scopes -/

/-- `std::variant<std::string, int64_t>`. -/
inductive AttributeValue where
  | string (value : Bytes)
  | int (value : Int64)
  deriving DecidableEq

/-- `OtelScope::Impl`. The status code is 0 for unset and 2 for an error. -/
structure OtelScope where
  traceId : Bytes
  spanId : Bytes
  parentSpanId : Bytes
  name : Bytes
  startTimeNano : Bytes
  statusCode : Int
  statusMessage : Bytes
  attributes : List (Bytes × AttributeValue)
  deriving DecidableEq

/-- A span on its way to the collector. -/
structure FinishedSpan extends OtelScope where
  endTimeNano : Bytes
  deriving DecidableEq

/-- What the stack is asked for of a scope on it. -/
structure SpanContext where
  traceId : Bytes
  spanId : Bytes

/-- `t_scopeStack`, the innermost scope first. -/
abbrev ScopeStack := List SpanContext

/-- What opening a scope draws and reads. -/
structure Opening where
  traceDraws : UInt64 × UInt64
  spanDraw : UInt64
  startTime : Time

namespace OtelScope

def parentTraceIdOrNew (stack : ScopeStack) (opening : Opening) : Bytes :=
  match stack with
  | top :: _ => top.traceId
  | [] => generateHexId [opening.traceDraws.1, opening.traceDraws.2]

/-- The parent's span id, empty where there is none. -/
def parentSpanIdOf (stack : ScopeStack) : Bytes :=
  match stack with
  | top :: _ => top.spanId
  | [] => []

/-- `OtelScope(operationName)`: the scope, and the stack with it on top. -/
def operation (stack : ScopeStack) (opening : Opening) (operationName : Bytes) :
    OtelScope × ScopeStack :=
  let traceId := parentTraceIdOrNew stack opening
  let spanId := generateHexId [opening.spanDraw]
  (⟨traceId, spanId, parentSpanIdOf stack, operationName, nowNanos opening.startTime, 0, [], []⟩,
    ⟨traceId, spanId⟩ :: stack)

/-- `setAttribute` with a text. -/
def setAttribute (scope : OtelScope) (key value : Bytes) : OtelScope :=
  { scope with attributes := scope.attributes ++ [(key, .string value)] }

/-- `setAttribute` with a number. -/
def setIntAttribute (scope : OtelScope) (key : Bytes) (value : Int64) : OtelScope :=
  { scope with attributes := scope.attributes ++ [(key, .int value)] }

/-- `recordError`: the message replaces an earlier one. -/
def recordError (scope : OtelScope) (description : Bytes) : OtelScope :=
  { scope with statusCode := 2, statusMessage := description }

/-- `OtelScope(sessionId, clientIp)`. -/
def connection (stack : ScopeStack) (opening : Opening) (sessionId clientIp : Bytes) :
    OtelScope × ScopeStack :=
  let (scope, stack) := operation stack opening (text "client_connection")
  ((scope.setAttribute (text "session.id") sessionId).setAttribute (text "net.peer.ip") clientIp,
    stack)

/-- `~OtelScope`. -/
def finish (scope : OtelScope) (stack : ScopeStack) (now : Time) : FinishedSpan × ScopeStack :=
  (⟨scope, nowNanos now⟩, stack.tail)

/-! ### Well-formed texts -/

/-- **Every text but the status message is well-formed.** -/
structure WellLabelled (scope : OtelScope) : Prop where
  trace_id : Utf8 scope.traceId
  span_id : Utf8 scope.spanId
  parent_span_id : Utf8 scope.parentSpanId
  name : Utf8 scope.name
  start_time_nano : Utf8 scope.startTimeNano
  attributes : ∀ label ∈ scope.attributes,
    Utf8 label.1 ∧ ∀ value, label.2 = .string value → Utf8 value

/-- **Every text is well-formed.** -/
structure WellFormed (scope : OtelScope) : Prop extends WellLabelled scope where
  status_message : Utf8 scope.statusMessage

section Labels

variable {scope : OtelScope} {key value : Bytes}

/-- One more attribute. -/
theorem WellLabelled.add (labelled : scope.WellLabelled) (named : Utf8 key) {label : AttributeValue}
    (stated : ∀ other, label = .string other → Utf8 other) :
    { scope with attributes := scope.attributes ++ [(key, label)] }.WellLabelled where
  __ := labelled
  attributes := by
    refine List.forall_mem_append.mpr ⟨labelled.attributes, ?_⟩
    exact List.forall_mem_singleton.mpr ⟨named, stated⟩

theorem WellLabelled.setAttribute (labelled : scope.WellLabelled) (named : Utf8 key)
    (stated : Utf8 value) : (scope.setAttribute key value).WellLabelled :=
  labelled.add named fun _ same => AttributeValue.string.inj same ▸ stated

theorem WellLabelled.setIntAttribute (labelled : scope.WellLabelled) (named : Utf8 key)
    (number : Int64) : (scope.setIntAttribute key number).WellLabelled :=
  labelled.add named nofun

theorem WellFormed.setAttribute (formed : scope.WellFormed) (named : Utf8 key)
    (stated : Utf8 value) : (scope.setAttribute key value).WellFormed :=
  ⟨formed.toWellLabelled.setAttribute named stated, formed.status_message⟩

theorem WellFormed.setIntAttribute (formed : scope.WellFormed) (named : Utf8 key)
    (number : Int64) : (scope.setIntAttribute key number).WellFormed :=
  ⟨formed.toWellLabelled.setIntAttribute named number, formed.status_message⟩

/-- An error message makes up for whatever was the message before. -/
theorem WellLabelled.recordError (labelled : scope.WellLabelled) {description : Bytes}
    (stated : Utf8 description) : (scope.recordError description).WellFormed :=
  ⟨{ labelled with }, stated⟩

end Labels

end OtelScope

/-- The ids on a stack are well-formed. -/
def ScopeStack.WellFormed (stack : ScopeStack) : Prop :=
  ∀ context ∈ stack, Utf8 context.traceId ∧ Utf8 context.spanId

/-- Closing a scope leaves the ids below it. -/
theorem ScopeStack.WellFormed.tail {stack : ScopeStack} (ids : ScopeStack.WellFormed stack) :
    ScopeStack.WellFormed stack.tail :=
  fun context member => ids context (List.mem_of_mem_tail member)

/-- A finished span, with the time it ended at. -/
structure FinishedSpan.WellFormed (span : FinishedSpan) : Prop
    extends OtelScope.WellFormed span.toOtelScope where
  end_time_nano : Utf8 span.endTimeNano

namespace OtelScope

variable {stack : ScopeStack}

theorem operation_wellFormed (ids : ScopeStack.WellFormed stack) (opening : Opening)
    {operationName : Bytes} (named : Utf8 operationName) :
    (operation stack opening operationName).1.WellFormed ∧
      ScopeStack.WellFormed (operation stack opening operationName).2 := by
  have trace : Utf8 (parentTraceIdOrNew stack opening) := by
    cases stack with
    | nil => exact generateHexId_utf8 _
    | cons top rest => exact (ids top List.mem_cons_self).1
  have parent : Utf8 (parentSpanIdOf stack) := by
    cases stack with
    | nil => exact utf8_text ""
    | cons top rest => exact (ids top List.mem_cons_self).2
  have span := generateHexId_utf8 [opening.spanDraw]
  refine ⟨⟨⟨trace, span, parent, named, utf8_text _, ?_⟩, utf8_text ""⟩, ?_⟩
  · exact List.forall_mem_nil _
  · exact List.forall_mem_cons.mpr ⟨⟨trace, span⟩, ids⟩

theorem connection_wellFormed (ids : ScopeStack.WellFormed stack) (opening : Opening)
    {sessionId clientIp : Bytes} (session : Utf8 sessionId) (address : Utf8 clientIp) :
    (connection stack opening sessionId clientIp).1.WellFormed ∧
      ScopeStack.WellFormed (connection stack opening sessionId clientIp).2 := by
  obtain ⟨formed, pushed⟩ :=
    operation_wellFormed ids opening (utf8_text "client_connection")
  exact ⟨(formed.setAttribute (utf8_text _) session).setAttribute (utf8_text _) address, pushed⟩

theorem finish_wellFormed {scope : OtelScope} (formed : scope.WellFormed) (now : Time) :
    (scope.finish stack now).1.WellFormed :=
  ⟨formed, utf8_text _⟩

/-- A span with an ill-formed message is ill-formed when it is finished. -/
theorem finish_wellFormed_iff {scope : OtelScope} (labelled : scope.WellLabelled) (now : Time) :
    (scope.finish stack now).1.WellFormed ↔ Utf8 scope.statusMessage :=
  ⟨fun formed => formed.status_message, fun stated => ⟨⟨labelled, stated⟩, utf8_text _⟩⟩

end OtelScope

end ExodusOps
