/-
**What becomes of the spans handed to the exporter.**

The runs of `deliver` interleave the threads that hand over spans with the flusher thread and the
destructor. A step that takes a batch out of `m_pending` outputs it, so a run tells which spans were
handed over (`enqueued`), which batches were taken (`batches`) and what `httpPost` said to each of
them (`posted`). Nothing is handed over once the destructor runs; `Exit` shows that of the process.

* `Accounted` — no span is lost or duplicated on the way into a batch, and every batch taken is
  posted or in hand.
* `partition_kept` — **batches and `m_pending` are what was handed over, in order**, and the final
  flush leaves nothing in `m_pending`.
* `spans_survive_iff` — **spans survive between flushes** exactly when every POST succeeds: nothing
  looks at the result, and `batch_dropped` is a batch that the collector refused.
-/

import ExodusOps.Lib.History
import ExodusOps.Lib.Machine
import ExodusOps.Telemetry.BatchExporter

namespace ExodusOps

/-! ### The machine -/

/-- A thread hands over spans, or the exporter itself moves. -/
inductive Delivery where
  | enqueue (spans : List FinishedSpan)
  | own (event : ExporterEvent)

/-- The batch an event makes `flush` take. -/
def BatchExporter.takes (exporter : BatchExporter) (event : ExporterEvent) :
    Option (List FinishedSpan) :=
  match event, exporter.pending with
  | .wake, first :: rest => some (first :: rest)
  | .join, first :: rest => some (first :: rest)
  | _, _ => none

/-- **One step of the exporter and the threads around it**: the batch it takes. -/
def deliver (codec : JsonCodec) (exporter : BatchExporter) :
    Delivery → Option (Option (List FinishedSpan) × BatchExporter)
  | .enqueue spans =>
      if exporter.stage ≠ .terminated ∧ exporter.running = true then
        some (none, exporter.enqueue spans)
      else none
  | .own event => (exporter.step codec event).map fun next => (exporter.takes event, next)

abbrev DeliveryTurn := Transition BatchExporter Delivery (Option (List FinishedSpan))

/-! ### What a run has seen -/

def handedOver : Delivery → List FinishedSpan
  | .enqueue spans => spans
  | .own _ => []

/-- The spans handed over, in order. -/
def enqueued (trace : List DeliveryTurn) : List FinishedSpan :=
  (trace.map Transition.event).flatMap handedOver

/-- The batches taken out of `m_pending`, in order. -/
def batches (trace : List DeliveryTurn) : List (List FinishedSpan) :=
  trace.filterMap Transition.output

/-- What `httpPost` returned, and for which batch. -/
def postedBy (turn : DeliveryTurn) : Option (Bool × List FinishedSpan) :=
  match turn.event with
  | .own (.post accepted) => some (accepted, turn.before.stage.batch)
  | _ => none

def posted (trace : List DeliveryTurn) : List (Bool × List FinishedSpan) :=
  trace.filterMap postedBy

/-- The batches for which it returned `true`. -/
def delivered (trace : List DeliveryTurn) : List (List FinishedSpan) :=
  ((posted trace).filter Prod.fst).map Prod.snd

/-- The batch that `flush` has taken and not yet posted. -/
def Stage.inHand : Stage → List (List FinishedSpan)
  | .serialising batch => [batch]
  | .posting batch _ => [batch]
  | _ => []

/-- No `flush` is under way. -/
def Stage.BetweenFlushes (stage : Stage) : Prop :=
  stage = .starting ∨ stage = .waiting ∨ stage = .left ∨ stage = .finished

theorem enqueued_append (earlier later : List DeliveryTurn) :
    enqueued (earlier ++ later) = enqueued earlier ++ enqueued later := by
  rw [enqueued, List.map_append, List.flatMap_append]
  rfl

theorem enqueued_concat (trace : List DeliveryTurn) (turn : DeliveryTurn) :
    enqueued (trace ++ [turn]) = enqueued trace ++ handedOver turn.event := by
  rw [enqueued_append, enqueued, enqueued, List.map_singleton, List.flatMap_singleton]

theorem batches_concat (trace : List DeliveryTurn) (turn : DeliveryTurn) :
    batches (trace ++ [turn]) = batches trace ++ turn.output.toList :=
  filterMap_concat _ _ _

theorem posted_concat (trace : List DeliveryTurn) (turn : DeliveryTurn) :
    posted (trace ++ [turn]) = posted trace ++ (postedBy turn).toList :=
  filterMap_concat _ _ _

/-! ### No span is lost on the way into a batch -/

/-- **Every span is in one batch or pending, and every batch is posted or in hand.** -/
structure Accounted (trace : List DeliveryTurn) (exporter : BatchExporter) : Prop where
  partition : (batches trace).flatten ++ exporter.pending = enqueued trace
  settled : exporter.stage ≠ .terminated →
    batches trace = (posted trace).map Prod.snd ++ exporter.stage.inHand
  nonempty : ∀ batch ∈ batches trace, batch ≠ []

section Steps

variable {codec : JsonCodec} {trace : List DeliveryTurn} {exporter next : BatchExporter}
  {output : Option (List FinishedSpan)} {turn : DeliveryTurn}

theorem accounted_initial : Accounted [] .initial := ⟨rfl, fun _ => rfl, List.forall_mem_nil _⟩

theorem proceed_inHand (exporter : BatchExporter) : exporter.proceed.stage.inHand = [] := by
  unfold BatchExporter.proceed
  simp only
  split_ifs <;> rfl

/-- A step that neither takes a batch nor posts one. -/
theorem Accounted.quiet (accounted : Accounted trace exporter)
    (handed : handedOver turn.event = []) (untaken : turn.output = none)
    (unposted : postedBy turn = none) (pending : next.pending = exporter.pending)
    (inHand : next.stage ≠ .terminated →
      exporter.stage ≠ .terminated ∧ next.stage.inHand = exporter.stage.inHand) :
    Accounted (trace ++ [turn]) next := by
  refine ⟨?_, fun alive => ?_, ?_⟩
  · rw [batches_concat, untaken, enqueued_concat, handed, pending]
    simpa using accounted.partition
  · obtain ⟨before, same⟩ := inHand alive
    rw [batches_concat, untaken, posted_concat, unposted, same]
    simpa using accounted.settled before
  · rw [batches_concat, untaken]
    simpa using accounted.nonempty

/-- **`flush` takes everything that is pending**, or goes on if nothing is. -/
theorem Accounted.flush (accounted : Accounted trace exporter)
    (alive : exporter.stage ≠ .terminated) (free : exporter.stage.inHand = [])
    (handed : handedOver turn.event = []) (unposted : postedBy turn = none) {joined : Bool}
    (took : turn.output = if exporter.pending = [] then none else some exporter.pending) :
    Accounted (trace ++ [turn]) { exporter with joined := joined }.flush := by
  have settled := accounted.settled alive
  rw [free, List.append_nil] at settled
  by_cases empty : exporter.pending = []
  · rw [if_pos empty] at took
    have proceeds : { exporter with joined := joined }.flush =
        { exporter with joined := joined }.proceed := by
      unfold BatchExporter.flush
      simp only [empty]
    rw [proceeds]
    refine accounted.quiet handed took unposted rfl fun _ => ⟨alive, ?_⟩
    rw [proceed_inHand, free]
  · rw [if_neg empty] at took
    obtain ⟨first, rest, pending⟩ := List.exists_cons_of_ne_nil empty
    have taken : { exporter with joined := joined }.flush =
        { exporter with
          joined := joined, pending := [], stage := .serialising exporter.pending } := by
      unfold BatchExporter.flush
      simp only [pending]
    rw [taken]
    refine ⟨?_, fun _ => ?_, ?_⟩
    · rw [batches_concat, took, enqueued_concat, handed, ← accounted.partition]
      simp
    · rw [batches_concat, took, posted_concat, unposted, settled]
      simp [Stage.inHand]
    · rw [batches_concat, took]
      exact List.forall_mem_append.mpr
        ⟨accounted.nonempty, List.forall_mem_singleton.mpr empty⟩

/-- A post settles the batch in hand. -/
theorem Accounted.post (accounted : Accounted trace exporter) {batch : List FinishedSpan}
    {body : Bytes} (posting : exporter.stage = .posting batch body) {accepted : Bool}
    (handed : handedOver turn.event = []) (untaken : turn.output = none)
    (result : postedBy turn = some (accepted, batch)) :
    Accounted (trace ++ [turn]) exporter.proceed := by
  have settled := accounted.settled (by rw [posting]; simp)
  refine ⟨?_, fun _ => ?_, ?_⟩
  · rw [batches_concat, untaken, enqueued_concat, handed]
    simpa [BatchExporter.proceed] using accounted.partition
  · rw [batches_concat, untaken, posted_concat, result, settled, proceed_inHand, posting]
    simp [Stage.inHand]
  · rw [batches_concat, untaken]
    simpa using accounted.nonempty

/-- The two steps that flush take the same. -/
theorem BatchExporter.takes_flush (exporter : BatchExporter) {event : ExporterEvent}
    (flushes : event = .wake ∨ event = .join) :
    exporter.takes event = if exporter.pending = [] then none else some exporter.pending := by
  unfold BatchExporter.takes
  rcases flushes with rfl | rfl <;> cases exporter.pending <;> rfl

/-- **One step of the exporter.** -/
theorem Accounted.own (accounted : Accounted trace exporter) {event : ExporterEvent}
    (taken : exporter.step codec event = some next) :
    Accounted (trace ++ [⟨exporter, .own event, exporter.takes event, next⟩]) next := by
  rcases BatchExporter.step_cases taken with ⟨rfl, stage, rfl⟩ | ⟨rfl, stage, rfl⟩ |
    ⟨batch, rfl, stage, rfl⟩ | ⟨accepted, batch, body, rfl, stage, rfl⟩ | ⟨rfl, _, rfl⟩ |
    ⟨rfl, stage, rfl⟩
  · refine accounted.quiet rfl rfl rfl rfl fun _ => ?_
    rw [proceed_inHand, stage]
    exact ⟨by simp, rfl⟩
  · exact accounted.flush (by rw [stage]; simp) (by rw [stage]; rfl) rfl rfl
      (exporter.takes_flush (.inl rfl))
  · refine accounted.quiet rfl rfl rfl rfl ?_
    rw [stage]
    unfold BatchExporter.serialised
    cases codec.dump (payload batch) with
    | none => exact fun alive => absurd rfl alive
    | some body => exact fun _ => ⟨by simp, rfl⟩
  · have result : postedBy ⟨exporter, .own (.post accepted), none, exporter.proceed⟩ =
        some (accepted, batch) := by
      simp only [postedBy, stage]
      rfl
    exact accounted.post stage rfl rfl result
  · exact accounted.quiet rfl rfl rfl rfl fun alive => ⟨alive, rfl⟩
  · exact accounted.flush (by rw [stage]; simp) (by rw [stage]; rfl) rfl rfl
      (exporter.takes_flush (.inr rfl))

theorem accounted_of_run (run : Run (deliver codec) .initial trace exporter) :
    Accounted trace exporter := by
  induction run with
  | nil => exact accounted_initial
  | @snoc trace exporter next event output _ taken ih =>
      cases event with
      | enqueue spans =>
          obtain ⟨⟨alive, -⟩, same⟩ := Option.ite_none_right_eq_some.mp taken
          cases same
          refine ⟨?_, fun _ => ?_, ?_⟩
          · rw [batches_concat, enqueued_concat, ← ih.partition]
            simp [BatchExporter.enqueue, handedOver]
          · rw [batches_concat, posted_concat, ih.settled alive]
            simp [BatchExporter.enqueue, postedBy]
          · rw [batches_concat]
            simpa using ih.nonempty
      | own event =>
          obtain ⟨after, stepped, same⟩ := Option.map_eq_some_iff.mp taken
          cases same
          exact ih.own stepped

/-! ### The final flush -/

/-- Once the destructor has joined the thread, `flush` is not called again. -/
structure Joined (exporter : BatchExporter) : Prop where
  stopped : exporter.running = false
  joined : exporter.joined = true
  past : exporter.stage ≠ .waiting ∧ exporter.stage ≠ .left ∧ exporter.stage ≠ .starting

theorem Joined.step (joined : Joined exporter) {event : Delivery}
    (taken : deliver codec exporter event = some (output, next)) :
    Joined next ∧ output = none ∧ handedOver event = [] := by
  cases event with
  | enqueue spans =>
      obtain ⟨⟨-, running⟩, -⟩ := Option.ite_none_right_eq_some.mp taken
      rw [joined.stopped] at running
      cases running
  | own event =>
      obtain ⟨after, stepped, same⟩ := Option.map_eq_some_iff.mp taken
      cases same
      rcases BatchExporter.step_cases stepped with ⟨_, stage, _⟩ | ⟨_, stage, _⟩ |
        ⟨batch, rfl, _, rfl⟩ | ⟨accepted, batch, body, rfl, _, rfl⟩ | ⟨rfl, _, rfl⟩ |
        ⟨_, stage, _⟩
      · exact absurd stage joined.past.2.2
      · exact absurd stage joined.past.1
      · refine ⟨⟨joined.stopped, joined.joined, ?_⟩, rfl, rfl⟩
        unfold BatchExporter.serialised
        cases codec.dump (payload batch) <;> simp
      · refine ⟨⟨joined.stopped, joined.joined, ?_⟩, rfl, rfl⟩
        simp [BatchExporter.proceed, joined.joined]
      · exact ⟨⟨rfl, joined.joined, joined.past⟩, rfl, rfl⟩
      · exact absurd stage joined.past.2.1

/-- Behind the final flush no batch is taken and no span is handed over. -/
theorem silent_of_joined {start : BatchExporter} (joined : Joined start)
    (run : Run (deliver codec) start trace exporter) :
    Joined exporter ∧ batches trace = [] ∧ enqueued trace = [] := by
  induction run with
  | nil => exact ⟨joined, rfl, rfl⟩
  | snoc _ taken ih =>
      obtain ⟨before, untaken, unheard⟩ := ih
      obtain ⟨kept, nothing, nobody⟩ := before.step taken
      refine ⟨kept, ?_, ?_⟩
      · rw [batches_concat, untaken, nothing]
        rfl
      · rw [enqueued_concat, unheard, nobody]
        rfl

theorem flatten_filter_length_le {α : Type} (posts : List (Bool × List α)) :
    ((posts.filter Prod.fst).map Prod.snd).flatten.length ≤
      (posts.map Prod.snd).flatten.length := by
  induction posts with
  | nil => exact le_rfl
  | cons post posts ih =>
      rw [List.filter_cons]
      split <;> simp only [List.map_cons, List.flatten_cons, List.length_append] <;> omega

/-- Leaving out a batch leaves out a span. -/
theorem all_accepted_of_length {α : Type} {posts : List (Bool × List α)}
    (nonempty : ∀ post ∈ posts, post.2 ≠ [])
    (enough : (posts.map Prod.snd).flatten.length ≤
      ((posts.filter Prod.fst).map Prod.snd).flatten.length) :
    ∀ post ∈ posts, post.1 = true := by
  induction posts with
  | nil => exact List.forall_mem_nil _
  | cons post posts ih =>
      obtain ⟨accepted, batch⟩ := post
      obtain ⟨some, others⟩ := List.forall_mem_cons.mp nonempty
      have fewer := flatten_filter_length_le posts
      cases accepted with
      | true =>
          simp only [List.filter_cons, if_true, List.map_cons, List.flatten_cons,
            List.length_append] at enough
          exact List.forall_mem_cons.mpr ⟨rfl, ih others (by omega)⟩
      | false =>
          have positive := List.length_pos_of_ne_nil some
          simp only [List.filter_cons, List.map_cons, List.flatten_cons, List.length_append,
            Bool.false_eq_true, if_false] at enough positive
          omega

/-- **Spans survive between flushes** exactly when every POST so far has succeeded: each span
handed over, as often as it was, is in a batch that was accepted or pending. -/
theorem spans_survive_iff (run : Run (deliver codec) .initial trace exporter)
    (between : exporter.stage.BetweenFlushes) :
    (enqueued trace).Subperm ((delivered trace).flatten ++ exporter.pending) ↔
      ∀ post ∈ posted trace, post.1 = true := by
  have accounted := accounted_of_run run
  have settled : batches trace = (posted trace).map Prod.snd := by
    rcases between with stage | stage | stage | stage <;>
      simpa [stage, Stage.inHand] using accounted.settled (by simp [stage])
  have nonempty : ∀ post ∈ posted trace, post.2 ≠ [] := by
    intro post member
    refine accounted.nonempty post.2 ?_
    rw [settled]
    exact List.mem_map_of_mem member
  rw [← accounted.partition, settled]
  constructor
  · intro survives
    have size := survives.length_le
    rw [List.length_append, List.length_append] at size
    exact all_accepted_of_length nonempty (Nat.le_of_add_le_add_right size)
  · intro accepted
    rw [delivered, List.filter_eq_self.mpr accepted]

end Steps

/-! ### Two runs -/

/-- A span with nothing on it. -/
def bareSpan (name : String) : FinishedSpan :=
  ⟨⟨generateHexId [1, 2], generateHexId [3], [], text name, nowNanos 100, 0, [], []⟩, nowNanos 200⟩

/-- One span, one flush, and what `httpPost` returns. -/
def oneFlush (accepted : Bool) : List Delivery :=
  [.own .start, .enqueue [bareSpan "heartbeat"], .own .wake, .own .serialise,
    .own (.post accepted)]

/-- The collector takes the batch. -/
theorem spans_survive_iff_accepted :
    ∃ trace exporter, Run (deliver Json.textCodec) .initial trace exporter ∧
      exporter.stage.BetweenFlushes ∧ enqueued trace = [bareSpan "heartbeat"] ∧
      (enqueued trace).Subperm ((delivered trace).flatten ++ exporter.pending) := by
  let machine := deliver Json.textCodec
  let trace := execTrace machine .initial (oneFlush true)
  let finish := execFinal machine .initial (oneFlush true)
  have facts : (exec machine .initial (oneFlush true)).isSome = true ∧
      finish.stage = .waiting ∧ enqueued trace = [bareSpan "heartbeat"] ∧
      ∀ post ∈ posted trace, post.1 = true := by decide +kernel
  obtain ⟨possible, waiting, handed, accepted⟩ := facts
  have run : Run machine .initial trace finish := run_of_possible possible
  exact ⟨trace, finish, run, .inr (.inl waiting), handed,
    (spans_survive_iff run (.inr (.inl waiting))).mpr accepted⟩

/-- **The collector is down**: the batch is neither delivered nor pending any more. -/
theorem batch_dropped :
    ∃ trace exporter, Run (deliver Json.textCodec) .initial trace exporter ∧
      exporter.stage = .waiting ∧ enqueued trace = [bareSpan "heartbeat"] ∧
      delivered trace = [] ∧ exporter.pending = [] := by
  let machine := deliver Json.textCodec
  let trace := execTrace machine .initial (oneFlush false)
  let finish := execFinal machine .initial (oneFlush false)
  have facts : (exec machine .initial (oneFlush false)).isSome = true ∧
      finish.stage = .waiting ∧ enqueued trace = [bareSpan "heartbeat"] ∧
      delivered trace = [] ∧ finish.pending = [] := by decide +kernel
  exact ⟨trace, finish, run_of_possible facts.1, facts.2⟩

end ExodusOps
