/-
**`BatchExporter`: finished spans on their way to the collector.**

Any thread puts a span at the end of `m_pending`. The flusher thread wakes up, takes the whole list,
releases the mutex, writes the batch as one JSON text and posts it. The destructor stops the loop,
joins the thread and flushes once more. Nothing on these threads catches what `dump` throws, so a
batch that cannot be written ends the process (`Stage.terminated`).

* `BatchExporter.Sound` — the process is alive and every span in the exporter is well-formed.
  Enqueueing well-formed spans and every step of the exporter keep it: a batch of well-formed spans
  is a payload the library can write (`payload_wellFormed`).
-/

import ExodusOps.Lib.JsonText
import ExodusOps.Telemetry.OtelScope

namespace ExodusOps

/-! ### The payload -/

/-- An attribute; numbers go out as decimal text. -/
def attributeJson (label : Bytes × AttributeValue) : Json :=
  .build [(text "key", .string label.1), (text "value",
    match label.2 with
    | .string value => .build [(text "stringValue", .string value)]
    | .int value => .build [(text "intValue", .string (text (toString value.toInt)))])]

/-- A span of kind `SPAN_KIND_SERVER`. -/
def spanJson (span : FinishedSpan) : Json :=
  .build ([(text "traceId", .string span.traceId), (text "spanId", .string span.spanId)] ++
    (if span.parentSpanId = [] then [] else [(text "parentSpanId", .string span.parentSpanId)]) ++
    [(text "name", .string span.name), (text "kind", .integer 2),
      (text "startTimeUnixNano", .string span.startTimeNano),
      (text "endTimeUnixNano", .string span.endTimeNano),
      (text "attributes", .array (span.attributes.map attributeJson)),
      (text "status", .build ((text "code", .integer span.statusCode) ::
        if span.statusMessage = [] then [] else [(text "message", .string span.statusMessage)]))])

/-- `SERVICE_NAME`. -/
def serviceName : Bytes := text "eop-server"

/-- The request body of one batch. -/
def payload (batch : List FinishedSpan) : Json :=
  .build [(text "resourceSpans", .array [.build [
    (text "resource", .build [(text "attributes", .array [
      attributeJson (text "service.name", .string serviceName)])]),
    (text "scopeSpans", .array [.build [
      (text "scope", .build [(text "name", .string serviceName)]),
      (text "spans", .array (batch.map spanJson))]])]])]

/-! ### The exporter -/

/-- Where the flusher thread is, or the destructor once it has joined it. -/
inductive Stage where
  /-- The thread has not entered its loop. -/
  | starting
  /-- In `wait_for`. -/
  | waiting
  /-- `flush` has taken a batch and released the mutex. -/
  | serialising (batch : List FinishedSpan)
  /-- In `httpPost`. -/
  | posting (batch : List FinishedSpan) (body : Bytes)
  /-- The loop is left. -/
  | left
  /-- The destructor has flushed. -/
  | finished
  /-- `dump` has thrown. -/
  | terminated
  deriving DecidableEq

/-- The batch in hand. -/
def Stage.batch : Stage → List FinishedSpan
  | .serialising batch => batch
  | .posting batch _ => batch
  | _ => []

structure BatchExporter where
  pending : List FinishedSpan
  running : Bool
  joined : Bool
  stage : Stage

/-- What happens to the exporter apart from `enqueue`. -/
inductive ExporterEvent where
  /-- The thread starts. -/
  | start
  /-- `wait_for` returns, for whatever reason. -/
  | wake
  /-- `payload.dump()`. -/
  | serialise
  /-- `httpPost` returns. Nothing looks at its result. -/
  | post (accepted : Bool)
  /-- The destructor clears `m_running`. -/
  | stop
  /-- It has joined the thread. -/
  | join

/-- It is one of the destructor. -/
def ExporterEvent.ofDestructor : ExporterEvent → Bool
  | .stop | .join => true
  | _ => false

namespace BatchExporter

def initial : BatchExporter := ⟨[], true, false, .starting⟩

def enqueue (exporter : BatchExporter) (spans : List FinishedSpan) : BatchExporter :=
  { exporter with pending := exporter.pending ++ spans }

/-- Behind `flush`: the destructor is done, the thread tests `m_running`. -/
def proceed (exporter : BatchExporter) : BatchExporter :=
  { exporter with stage :=
      if exporter.joined then .finished else if exporter.running then .waiting else .left }

/-- The part of `flush` that holds the mutex. -/
def flush (exporter : BatchExporter) : BatchExporter :=
  match exporter.pending with
  | [] => exporter.proceed
  | first :: rest => { exporter with pending := [], stage := .serialising (first :: rest) }

/-- `payload.dump()`, with the mutex released. -/
def serialised (codec : JsonCodec) (batch : List FinishedSpan) : Stage :=
  match codec.dump (payload batch) with
  | some body => .posting batch body
  | none => .terminated

/-- **One step of the exporter.** -/
def step (codec : JsonCodec) (exporter : BatchExporter) (event : ExporterEvent) :
    Option BatchExporter :=
  match event, exporter.stage with
  | .start, .starting => some exporter.proceed
  | .wake, .waiting => some exporter.flush
  | .serialise, .serialising batch =>
      some { exporter with stage := serialised codec batch }
  | .post _, .posting _ _ => some exporter.proceed
  | .stop, .terminated => none
  | .stop, _ => if exporter.running then some { exporter with running := false } else none
  | .join, .left => some { exporter with joined := true }.flush
  | _, _ => none

/-- The spans in the exporter. -/
def held (exporter : BatchExporter) : List FinishedSpan :=
  exporter.stage.batch ++ exporter.pending

end BatchExporter

/-! ### Well-formed batches -/

theorem attributeJson_wellFormed {label : Bytes × AttributeValue} (named : Utf8 label.1)
    (stated : ∀ value, label.2 = .string value → Utf8 value) :
    (attributeJson label).WellFormed := by
  refine Json.wellFormed_build ?_
  simp only [List.forall_mem_cons, List.not_mem_nil, false_implies, implies_true, and_true]
  refine ⟨⟨utf8_text _, named⟩, utf8_text _, ?_⟩
  cases kind : label.2 with
  | string value =>
      refine Json.wellFormed_build ?_
      rw [List.forall_mem_singleton]
      exact ⟨utf8_text _, stated value kind⟩
  | int value =>
      refine Json.wellFormed_build ?_
      rw [List.forall_mem_singleton]
      exact ⟨utf8_text _, utf8_text _⟩

theorem spanJson_wellFormed {span : FinishedSpan} (formed : span.WellFormed) :
    (spanJson span).WellFormed := by
  have parent : ∀ member ∈ (if span.parentSpanId = [] then [] else
      [(text "parentSpanId", Json.string span.parentSpanId)]),
      Utf8 member.1 ∧ member.2.WellFormed := by
    split
    · exact List.forall_mem_nil _
    · rw [List.forall_mem_singleton]
      exact ⟨utf8_text _, formed.parent_span_id⟩
  have message : ∀ member ∈ (if span.statusMessage = [] then [] else
      [(text "message", Json.string span.statusMessage)]),
      Utf8 member.1 ∧ member.2.WellFormed := by
    split
    · exact List.forall_mem_nil _
    · rw [List.forall_mem_singleton]
      exact ⟨utf8_text _, formed.status_message⟩
  have labels : (Json.array (span.attributes.map attributeJson)).WellFormed := by
    refine Json.wellFormed_array (List.forall_mem_map.mpr fun label member => ?_)
    obtain ⟨named, stated⟩ := formed.attributes label member
    exact attributeJson_wellFormed named stated
  have status : (Json.build ((text "code", .integer span.statusCode) ::
      if span.statusMessage = [] then [] else
        [(text "message", Json.string span.statusMessage)])).WellFormed :=
    Json.wellFormed_build (List.forall_mem_cons.mpr ⟨⟨utf8_text _, trivial⟩, message⟩)
  refine Json.wellFormed_build ?_
  simp only [List.forall_mem_append, List.forall_mem_cons, List.not_mem_nil, false_implies,
    implies_true, and_true]
  exact ⟨⟨⟨⟨utf8_text _, formed.trace_id⟩, utf8_text _, formed.span_id⟩, parent⟩,
    ⟨utf8_text _, formed.name⟩, ⟨utf8_text _, trivial⟩, ⟨utf8_text _, formed.start_time_nano⟩,
    ⟨utf8_text _, formed.end_time_nano⟩, ⟨utf8_text _, labels⟩, utf8_text _, status⟩

/-- **The payload of well-formed spans is well-formed.** -/
theorem payload_wellFormed {batch : List FinishedSpan}
    (formed : ∀ span ∈ batch, span.WellFormed) : (payload batch).WellFormed := by
  -- an object of one member, and an array of one item
  have object {key : String} {value : Json} (inner : value.WellFormed) :
      (Json.build [(text key, value)]).WellFormed :=
    Json.wellFormed_build (List.forall_mem_singleton.mpr ⟨utf8_text _, inner⟩)
  have single {item : Json} (inner : item.WellFormed) : (Json.array [item]).WellFormed :=
    Json.wellFormed_array (List.forall_mem_singleton.mpr inner)
  have service : Utf8 serviceName := utf8_text _
  have resource : (attributeJson (text "service.name", .string serviceName)).WellFormed := by
    refine attributeJson_wellFormed (utf8_text _) fun value same => ?_
    cases same
    exact service
  have spans : (Json.array (batch.map spanJson)).WellFormed :=
    Json.wellFormed_array (List.forall_mem_map.mpr fun span member =>
      spanJson_wellFormed (formed span member))
  refine object (single (Json.wellFormed_build ?_))
  simp only [List.forall_mem_cons, List.not_mem_nil, false_implies, implies_true, and_true]
  refine ⟨⟨utf8_text _, object (single resource)⟩, utf8_text _, single (Json.wellFormed_build ?_)⟩
  simp only [List.forall_mem_cons, List.not_mem_nil, false_implies, implies_true, and_true]
  exact ⟨⟨utf8_text _, object service⟩, utf8_text _, spans⟩

namespace BatchExporter

/-- **The process is alive and everything in the exporter is well-formed.** -/
structure Sound (exporter : BatchExporter) : Prop where
  alive : exporter.stage ≠ .terminated
  formed : ∀ span ∈ exporter.held, span.WellFormed

variable {codec : JsonCodec} {exporter next : BatchExporter}

theorem sound_initial : Sound initial := ⟨by simp [initial], List.forall_mem_nil _⟩

theorem Sound.enqueue (sound : exporter.Sound) {spans : List FinishedSpan}
    (formed : ∀ span ∈ spans, span.WellFormed) : (exporter.enqueue spans).Sound := by
  refine ⟨sound.alive, ?_⟩
  rw [held, BatchExporter.enqueue, ← List.append_assoc]
  exact List.forall_mem_append.mpr ⟨sound.formed, formed⟩

theorem Sound.pending (sound : exporter.Sound) : ∀ span ∈ exporter.pending, span.WellFormed :=
  (List.forall_mem_append.mp sound.formed).2

theorem proceed_alive (exporter : BatchExporter) : exporter.proceed.stage ≠ .terminated := by
  unfold proceed
  split_ifs <;> simp

theorem flush_alive (exporter : BatchExporter) : exporter.flush.stage ≠ .terminated := by
  unfold flush
  split
  · exact exporter.proceed_alive
  · simp

theorem proceed_sound (formed : ∀ span ∈ exporter.pending, span.WellFormed) :
    exporter.proceed.Sound := by
  unfold proceed
  split_ifs <;> exact ⟨by simp, formed⟩

theorem flush_sound (formed : ∀ span ∈ exporter.pending, span.WellFormed) :
    exporter.flush.Sound := by
  unfold flush
  split
  · exact proceed_sound formed
  · rename_i first rest taken
    rw [taken] at formed
    refine ⟨by simp, ?_⟩
    rwa [held, List.append_nil]

/-- **What a step of the exporter does.** -/
theorem step_cases {event : ExporterEvent} (taken : exporter.step codec event = some next) :
    (event = .start ∧ exporter.stage = .starting ∧ next = exporter.proceed) ∨
    (event = .wake ∧ exporter.stage = .waiting ∧ next = exporter.flush) ∨
    (∃ batch, event = .serialise ∧ exporter.stage = .serialising batch ∧
      next = { exporter with stage := serialised codec batch }) ∨
    (∃ accepted batch body, event = .post accepted ∧ exporter.stage = .posting batch body ∧
      next = exporter.proceed) ∨
    (event = .stop ∧ exporter.stage ≠ .terminated ∧ next = { exporter with running := false }) ∨
    (event = .join ∧ exporter.stage = .left ∧ next = { exporter with joined := true }.flush) := by
  unfold BatchExporter.step at taken
  split at taken
  · rename_i stage
    cases taken
    exact .inl ⟨rfl, stage, rfl⟩
  · rename_i stage
    cases taken
    exact .inr (.inl ⟨rfl, stage, rfl⟩)
  · rename_i batch stage
    cases taken
    exact .inr (.inr (.inl ⟨batch, rfl, stage, rfl⟩))
  · rename_i accepted batch body stage
    cases taken
    exact .inr (.inr (.inr (.inl ⟨accepted, batch, body, rfl, stage, rfl⟩)))
  · cases taken
  · rename_i alive
    obtain ⟨_, same⟩ := Option.ite_none_right_eq_some.mp taken
    cases same
    exact .inr (.inr (.inr (.inr (.inl ⟨rfl, alive, rfl⟩))))
  · rename_i stage
    cases taken
    exact .inr (.inr (.inr (.inr (.inr ⟨rfl, stage, rfl⟩))))
  · cases taken

/-- **The exporter survives every step** while its spans are well-formed. -/
theorem Sound.step (writes : codec.WritesText) (sound : exporter.Sound) {event : ExporterEvent}
    (taken : exporter.step codec event = some next) : next.Sound := by
  rcases step_cases taken with ⟨_, _, rfl⟩ | ⟨_, _, rfl⟩ | ⟨batch, _, serialising, rfl⟩ |
    ⟨_, _, _, _, _, rfl⟩ | ⟨_, _, rfl⟩ | ⟨_, _, rfl⟩
  · exact proceed_sound sound.pending
  · exact flush_sound sound.pending
  · have inside : ∀ span ∈ batch ++ exporter.pending, span.WellFormed := by
      have formed := sound.formed
      rwa [held, serialising] at formed
    -- the one step that can throw
    have writable := (writes _).mpr (payload_wellFormed (List.forall_mem_append.mp inside).1)
    obtain ⟨body, written⟩ := Option.isSome_iff_exists.mp writable
    rw [serialised, written]
    exact ⟨by simp, inside⟩
  · exact proceed_sound sound.pending
  · exact ⟨sound.alive, sound.formed⟩
  · exact flush_sound sound.pending

end BatchExporter

end ExodusOps
