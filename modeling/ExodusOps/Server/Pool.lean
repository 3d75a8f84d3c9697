/-
**The pool and what it counts.**

Two bookkeeping results about `Service`, for every interleaving. Every socket a thread takes from
the queue gets one pass through the loop of `workerLoop`, and a pass that is not over has exactly
one thread: so no more connections are served at once than there are threads, and once the threads
have returned every socket that was taken has had its pass and has been closed (`pool_bounded`). And
the metrics are exact: a counter lags behind the frames handled by the passes that have handled one
and not yet counted it, and a histogram behind its counter by the passes between the two calls of
`recordMessage` (`metrics_exact`).

* `service_refines_intake` — with what is done on the connections left out, a run is one of
  `intake`, so that what `Sockets` says of the descriptors holds.
-/

import ExodusOps.Lib.JsonFlat
import ExodusOps.Server.Service
import ExodusOps.Server.Sockets

namespace ExodusOps.Serving

open MessageSerializer

/-! ### Threads and passes -/

def Job.serves : Job → Bool
  | .serving _ => true
  | _ => false

/-- The thread has a socket, and its pass begins next. -/
def Job.begins : Job → Bool
  | .dequeued => true
  | _ => false

def Activation.unfinished : Activation → Bool
  | .done => false
  | _ => true

/-- A worker that has a connection and has not begun to close it. -/
def Busy (worker : Option Worker) : Prop :=
  ∃ socket, worker = some (.handshake socket) ∨ worker = some (.serving socket)

/-- **Every pass has one thread**: there are as many threads that serve as passes that are not over,
and a thread with a job has a connection. -/
structure Staffed (threads : Nat) (state : Service) : Prop where
  workers : state.intake.workers.length = threads
  jobs : state.jobs.length = threads
  busy : ∀ {worker : Nat} {job : Job}, state.jobs[worker]? = some job → job ≠ .idle →
    Busy (state.intake.workers[worker]?)
  count : state.jobs.countP Job.serves = state.activations.countP Activation.unfinished

variable {codec : JsonCodec} {maxClients : UInt32} {threads : Nat} {registry : NodeRegistry}
  {state next : Service} {event : ServiceEvent} {output : Option (Nat × Traffic)}

/-- Another worker is where it was. -/
theorem workers_set_ne {workers : List Worker} {worker other : Nat} (apart : other ≠ worker)
    (moved : Worker) : (workers.set worker moved)[other]? = workers[other]? :=
  List.getElem?_set_ne (Ne.symm apart)

/-- A `dequeue` gives the worker that waited a socket, or sends it home. -/
theorem dequeue_cases {before after : Intake} {worker : Nat} {call : Option Syscall}
    (moved : Moves maxClients before (.dequeue worker) call after) :
    before.workers[worker]? = some .waiting ∧
      (∀ other, other ≠ worker → after.workers[other]? = before.workers[other]?) ∧
      (after.workers[worker]? = some .returned ∨
        ∃ socket, after.workers[worker]? = some (.handshake socket)) := by
  cases moved with
  | @dequeue _ socket _ found _ _ =>
      obtain ⟨inside, -⟩ := List.getElem?_eq_some_iff.mp found
      exact ⟨found, fun other apart => workers_set_ne apart _,
        .inr ⟨socket, List.getElem?_set_self inside⟩⟩
  | dequeueNone found _ _ _ =>
      obtain ⟨inside, -⟩ := List.getElem?_eq_some_iff.mp found
      exact ⟨found, fun other apart => workers_set_ne apart _, .inl (List.getElem?_set_self inside)⟩

/-- A step that is not part of a pass leaves the busy workers alone. -/
theorem busy_kept {before after : Intake} {step : IntakeEvent} {call : Option Syscall}
    (beside : ofPass step = false) (moved : Moves maxClients before step call after) {worker : Nat}
    (busy : Busy (before.workers[worker]?)) :
    after.workers[worker]? = before.workers[worker]? := by
  have other {mover : Nat} {place : Worker} (found : before.workers[mover]? = some place)
      (idle : ∀ socket, place ≠ .handshake socket ∧ place ≠ .serving socket) : worker ≠ mover := by
    rintro rfl
    obtain ⟨socket, here | here⟩ := busy
    · exact (idle socket).1 (Option.some.inj (found.symm.trans here))
    · exact (idle socket).2 (Option.some.inj (found.symm.trans here))
  cases moved with
  | close found => exact workers_set_ne (other found (by simp)) _
  | fetchSub found => exact workers_set_ne (other found (by simp)) _
  | dequeue | dequeueNone | useWelcome | useServing | welcomed | finished => cases beside
  | _ => rfl

/-- The passes begin and go on; none goes on once it is over. -/
theorem Advances.unfinished {shared after : Shared} {activation moved : Activation}
    {activity : Activity} {traffic : Option Traffic}
    (advances : Advances codec shared activation activity traffic moved after) :
    activation.unfinished = true := by
  cases advances <;> rfl

theorem afterPass_serves (conn : Nat) (moved : Activation) :
    (afterPass conn moved).serves = moved.unfinished := by
  cases moved <;> rfl

/-- What a step of a pass does to its worker: it stays busy unless the pass is over. -/
theorem busy_advance {shared after : Shared} {activation moved : Activation}
    {activity : Activity} {traffic : Option Traffic} {before threads : Intake} {worker : Nat}
    (advances : Advances codec shared activation activity traffic moved after)
    (stepped : intakeOr maxClients before (intakeActivity worker activation activity) =
      some threads) (busy : Busy (before.workers[worker]?)) :
    threads.workers.length = before.workers.length ∧
    (∀ other, other ≠ worker → threads.workers[other]? = before.workers[other]?) ∧
    (moved.unfinished = true → Busy (threads.workers[worker]?)) := by
  have still (same : threads.workers = before.workers) :
      threads.workers.length = before.workers.length ∧
      (∀ other, other ≠ worker → threads.workers[other]? = before.workers[other]?) ∧
      (moved.unfinished = true → Busy (threads.workers[worker]?)) := by
    rw [same]
    exact ⟨rfl, fun _ _ => rfl, fun _ => busy⟩
  have none_ (silent : intakeActivity worker activation activity = none) :
      threads.workers = before.workers := by
    rw [silent] at stepped
    cases stepped
    rfl
  have used (use : intakeActivity worker activation activity = some (.use worker)) :
      threads.workers = before.workers := by
    rw [use] at stepped
    obtain ⟨⟨call, after⟩, taken, rfl⟩ := Option.map_eq_some_iff.mp stepped
    cases moves_of_intake taken <;> rfl
  cases advances with
  | nextMessageId | handle | increment | observe | markOffline => exact still (none_ rfl)
  | sendWelcome | sendAnswer | configured | unconfigured | recv => exact still (used rfl)
  | @welcomed _ sent _ =>
      obtain ⟨⟨call, after⟩, taken, rfl⟩ := Option.map_eq_some_iff.mp stepped
      cases moves_of_intake taken with
      | @welcomed _ _ socket found =>
          obtain ⟨inside, -⟩ := List.getElem?_eq_some_iff.mp found
          refine ⟨List.length_set, fun other apart => workers_set_ne apart _, fun goes => ?_⟩
          cases sent with
          | false => cases goes
          | true => exact ⟨socket, .inr (List.getElem?_set_self inside)⟩
  | finished =>
      obtain ⟨⟨call, after⟩, taken, rfl⟩ := Option.map_eq_some_iff.mp stepped
      cases moves_of_intake taken with
      | finished found =>
          exact ⟨List.length_set, fun other apart => workers_set_ne apart _, nofun⟩

/-- A worker that waits has no job. -/
theorem Staffed.idle_of_waiting (staffed : Staffed threads state) {worker : Nat}
    (waiting : state.intake.workers[worker]? = some .waiting) :
    state.jobs[worker]? = some .idle := by
  have inside : worker < state.jobs.length := by
    rw [staffed.jobs, ← staffed.workers]
    exact (List.getElem?_eq_some_iff.mp waiting).1
  cases found : state.jobs[worker]? with
  | none => exact absurd inside (Nat.not_lt.mpr (List.getElem?_eq_none_iff.mp found))
  | some job =>
      by_contra works
      obtain ⟨socket, here | here⟩ := staffed.busy found fun same => works (congrArg some same)
      · cases waiting.symm.trans here
      · cases waiting.symm.trans here

/-- **One step** keeps every pass with its thread. -/
theorem Staffed.step (staffed : Staffed threads state)
    (taken : service codec maxClients state event = some (output, next)) :
    Staffed threads next := by
  have ⟨workers, jobs, busy, count⟩ := staffed
  cases serves_of_service taken with
  | thread beside stepped =>
      have moved := moves_of_intake stepped
      refine ⟨moved.workers_length.trans workers, jobs, fun found works => ?_, count⟩
      rw [busy_kept beside moved (busy found works)]
      exact busy found works
  | @dequeue worker call after stepped =>
      have moved := moves_of_intake stepped
      obtain ⟨waiting, others, here⟩ := dequeue_cases moved
      have before := staffed.idle_of_waiting waiting
      have inside := (List.getElem?_eq_some_iff.mp before).1
      refine ⟨moved.workers_length.trans workers, List.length_set.trans jobs,
        fun {other job} found works => ?_, ?_⟩
      · have found : (state.jobs.set worker _)[other]? = some job := found
        by_cases ours : other = worker
        · subst ours
          rw [List.getElem?_set_self inside] at found
          cases found
          rcases here with returned | ⟨socket, handshake⟩
          · exact absurd (if_pos returned) works
          · exact ⟨socket, .inl handshake⟩
        · rw [List.getElem?_set_ne (Ne.symm ours)] at found
          show Busy (after.workers[other]?)
          rw [others other ours]
          exact busy found works
      · have counted := countP_set_add Job.serves before
          (if after.workers[worker]? = some .returned then .idle else .dequeued)
        have new : (if after.workers[worker]? = some .returned then Job.idle
            else .dequeued).serves = false := by
          split <;> rfl
        rw [new] at counted
        exact counted.trans count
  | @nextSessionId worker found =>
      obtain ⟨inside, -⟩ := List.getElem?_eq_some_iff.mp found
      refine ⟨workers, List.length_set.trans jobs, fun {other job} there works => ?_, ?_⟩
      · have there : (state.jobs.set worker _)[other]? = some job := there
        by_cases ours : other = worker
        · subst ours
          exact busy found (by simp)
        · rw [List.getElem?_set_ne (Ne.symm ours)] at there
          exact busy there works
      · have counted := countP_set_add Job.serves found (.serving state.activations.length)
        show (state.jobs.set worker _).countP Job.serves = (state.activations ++ [_]).countP _
        rw [List.countP_append, ← count]
        exact counted
  | @act worker conn _ _ moved _ _ after serving found advances stepped =>
      obtain ⟨inside, -⟩ := List.getElem?_eq_some_iff.mp serving
      obtain ⟨length, others, here⟩ := busy_advance advances stepped (busy serving (by simp))
      refine ⟨length.trans workers, List.length_set.trans jobs,
        fun {other job} there works => ?_, ?_⟩
      · have there : (state.jobs.set worker _)[other]? = some job := there
        by_cases ours : other = worker
        · subst ours
          rw [List.getElem?_set_self inside] at there
          cases there
          refine here ?_
          cases moved with
          | done => exact absurd rfl works
          | _ => rfl
        · rw [List.getElem?_set_ne (Ne.symm ours)] at there
          show Busy (after.workers[other]?)
          rw [others other ours]
          exact busy there works
      · have jobsCounted := countP_set_add Job.serves serving (afterPass conn moved)
        have counted := countP_set_add Activation.unfinished found moved
        rw [afterPass_serves] at jobsCounted
        rw [advances.unfinished] at counted
        show (state.jobs.set worker _).countP Job.serves = (state.activations.set conn _).countP _
        have one : (Job.serving conn).serves.toNat = true.toNat := rfl
        omega

theorem staffed_of_run {trace : List ServiceTurn}
    (run : Run (service codec maxClients) (.boot threads registry) trace state) :
    Staffed threads state := by
  refine run.invariant (Staffed threads) ⟨?_, ?_, fun {worker job} found works => ?_, ?_⟩
    fun taken staffed => staffed.step taken
  · exact List.length_replicate
  · exact List.length_replicate
  · have member := List.mem_of_getElem? found
    exact absurd (List.eq_of_mem_replicate member) works
  · show (List.replicate threads Job.idle).countP Job.serves = 0
    rw [List.countP_replicate]
    rfl

theorem Staffed.bounded (staffed : Staffed threads state) :
    state.activations.countP Activation.unfinished ≤ threads := by
  rw [← staffed.count, ← staffed.jobs]
  exact List.countP_le_length

/-! ### Sockets and passes -/

/-- What a step is for `intake`. -/
def intakeEvent (turn : ServiceTurn) : Option IntakeEvent :=
  match turn.event with
  | .thread event => some event
  | .dequeue worker => some (.dequeue worker)
  | .nextSessionId _ => none
  | .act worker activity =>
      match turn.before.jobs[worker]? with
      | some (.serving conn) =>
          (turn.before.activations[conn]?).bind fun activation =>
            intakeActivity worker activation activity
      | _ => none

/-- The socket a step's `dequeue` returns. -/
def socketTaken (turn : ServiceTurn) : Option AcceptedSocket :=
  match turn.event with
  | .dequeue worker =>
      match turn.after.intake.workers[worker]? with
      | some (.handshake socket) => some socket
      | _ => none
  | _ => none

/-- On a connection nothing is dequeued. -/
theorem dequeued_activity {worker : Nat} {activation : Activation} {activity : Activity}
    {turn : IntakeTurn} (part : intakeActivity worker activation activity = some turn.event) :
    dequeued turn = none := by
  unfold dequeued
  split
  · rename_i dequeues
    rw [dequeues] at part
    unfold intakeActivity at part
    split at part
    any_goals cases part
    split at part <;> cases part
  · rfl

/-- **Without what is done on the connections**, a run of the server is one of `intake`, in which
the same sockets are dequeued. -/
theorem service_refines_intake {trace : List ServiceTurn}
    (run : Run (service codec maxClients) (.boot threads registry) trace state) :
    ∃ moves, Run (intake maxClients) (.boot threads) moves state.intake ∧
      moves.map Transition.event = trace.filterMap intakeEvent ∧
      dequeueds moves = trace.filterMap socketTaken := by
  have simulated : ∃ moves finish, Run (intake maxClients) (.boot threads) moves finish ∧
      finish = state.intake ∧ moves.map Transition.event = trace.filterMap intakeEvent ∧
      moves.filterMap dequeued = trace.filterMap socketTaken := by
    refine run.simulate (fun state threads => threads = state.intake) (fun _ => True) intakeEvent
      socketTaken dequeued ?_ ?_ rfl fun _ _ => trivial
    · rintro ⟨before, event, output, after⟩ threads taken - rfl still
      change service codec maxClients before event = some (output, after) at taken
      cases serves_of_service taken with
      | thread _ _ => cases still
      | dequeue _ => cases still
      | nextSessionId _ => exact ⟨rfl, rfl⟩
      | act serving found advanced stepped =>
          simp only [intakeEvent, serving, found, Option.bind_some] at still
          rw [still] at stepped
          cases stepped
          exact ⟨rfl, rfl⟩
    · rintro ⟨before, event, output, after⟩ threads event' taken - rfl moved
      change service codec maxClients before event = some (output, after) at taken
      cases serves_of_service taken with
      | thread beside stepped =>
          cases moved
          refine ⟨_, _, stepped, ?_, rfl⟩
          cases event' with
          | dequeue worker => cases beside
          | _ => rfl
      | dequeue stepped =>
          cases moved
          exact ⟨_, _, stepped, rfl, rfl⟩
      | nextSessionId _ => cases moved
      | act serving found advanced stepped =>
          simp only [intakeEvent, serving, found, Option.bind_some] at moved
          rw [moved] at stepped
          obtain ⟨⟨call, threads⟩, called, rfl⟩ := Option.map_eq_some_iff.mp stepped
          exact ⟨call, threads, called, (dequeued_activity moved).symm, rfl⟩
  obtain ⟨moves, finish, run', rfl, events, same⟩ := simulated
  exact ⟨moves, run', events, same⟩

/-- Every socket taken has its pass, or a thread that is about to begin one. -/
theorem passes_of_run {trace : List ServiceTurn}
    (run : Run (service codec maxClients) (.boot threads registry) trace state) :
    (trace.filterMap socketTaken).length =
      state.activations.length + state.jobs.countP Job.begins := by
  induction run with
  | nil =>
      show 0 = 0 + (List.replicate threads Job.idle).countP _
      rw [List.countP_replicate]
      rfl
  | @snoc trace state next event output previous taken ih =>
      rw [filterMap_concat, List.length_append]
      cases serves_of_service taken with
      | thread _ _ => exact ih
      | @dequeue worker call after stepped =>
          obtain ⟨waiting, -, here⟩ := dequeue_cases (moves_of_intake stepped)
          have counted := countP_set_add Job.begins
            ((staffed_of_run previous).idle_of_waiting waiting)
            (if after.workers[worker]? = some .returned then .idle else .dequeued)
          rcases here with returned | ⟨socket, handshake⟩
          · simp only [socketTaken, returned, if_true] at counted ⊢
            exact ih.trans (congrArg _ counted.symm)
          · have fresh : ¬ some (Worker.handshake socket) = some .returned := nofun
            simp only [socketTaken, handshake, if_neg fresh] at counted ⊢
            exact (congrArg (· + 1) ih).trans (congrArg (_ + ·) counted.symm)
      | nextSessionId found =>
          have counted := countP_set_add Job.begins found (.serving state.activations.length)
          simp only [Job.begins, Bool.toNat_true, Bool.toNat_false] at counted
          simp only [socketTaken, Option.toList_none, List.length_nil, List.length_append,
            List.length_singleton]
          omega
      | @act _ conn _ _ moved _ _ _ serving _ _ _ =>
          have counted := countP_set_add Job.begins serving (afterPass conn moved)
          have idle : (afterPass conn moved).begins = false := by cases moved <;> rfl
          rw [idle] at counted
          simp only [socketTaken, List.length_set]
          exact ih.trans (congrArg _ counted.symm)

/-- Once every thread has returned there is nobody with a job. -/
theorem Staffed.idle (staffed : Staffed threads state)
    (returned : ∀ worker ∈ state.intake.workers, worker = .returned) :
    ∀ job ∈ state.jobs, job = .idle := by
  intro job member
  obtain ⟨worker, found⟩ := List.mem_iff_getElem?.mp member
  by_contra works
  obtain ⟨socket, here | here⟩ := staffed.busy found works
  · cases returned _ (List.mem_of_getElem? here)
  · cases returned _ (List.mem_of_getElem? here)

theorem Staffed.through (staffed : Staffed threads state)
    (returned : ∀ worker ∈ state.intake.workers, worker = .returned) :
    ∀ activation ∈ state.activations, activation = .done := by
  intro activation member
  have nobody : state.jobs.countP Job.serves = 0 := by
    rw [List.countP_eq_zero]
    intro job among
    rw [staffed.idle returned job among]
    nofun
  rw [staffed.count, List.countP_eq_zero] at nobody
  have finished := nobody activation member
  cases activation with
  | done => rfl
  | _ => exact absurd rfl finished

/-- **The pool bounds what is served at once, and serves all it takes.** At no time are more passes
under way than there are threads; every socket taken from the queue has had its pass begun, or a
thread that has it and draws its session id next; and once every thread has returned there have been
as many passes as sockets taken, every one of them is over, and every socket taken has been closed
exactly once. -/
theorem pool_bounded {trace : List ServiceTurn}
    (run : Run (service codec maxClients) (.boot threads registry) trace state) :
    state.activations.countP Activation.unfinished ≤ threads ∧
    ∃ moves, Run (intake maxClients) (.boot threads) moves state.intake ∧
      moves.map Transition.event = trace.filterMap intakeEvent ∧
      (dequeueds moves).length =
        state.activations.length + state.jobs.countP Job.begins ∧
      ((∀ worker ∈ state.intake.workers, worker = .returned) →
        (dequeueds moves).length = state.activations.length ∧
        (∀ activation ∈ state.activations, activation = .done) ∧
        ∀ socket ∈ dequeueds moves, (closedObjects moves).count socket.object = 1) := by
  have staffed := staffed_of_run run
  obtain ⟨moves, alone, events, same⟩ := service_refines_intake run
  have passes := passes_of_run run
  rw [← same] at passes
  refine ⟨staffed.bounded, moves, alone, events, passes, fun returned => ⟨?_,
    staffed.through returned, fun socket member => ?_⟩⟩
  · have nobody : state.jobs.countP Job.begins = 0 := by
      rw [List.countP_eq_zero]
      intro job among
      rw [staffed.idle returned job among]
      nofun
    omega
  · obtain ⟨rest, order, -⟩ := (lined_of_run alone).order
    have given : socket ∈ givens moves := by
      rw [order]
      exact List.mem_append_left _ member
    have some := threads_pos_of_dequeued alone member
    refine closed_once_of_over alone (over_of_stop alone ?_ returned) returned given
    exact fun none => absurd none (Nat.ne_of_gt some)

/-- The only worker takes a connection, cannot welcome it, closes it, and finds the queue
stopped. -/
def unwelcomed : List ServiceEvent :=
  letIn 5 ++ [.dequeue 0, .nextSessionId 0, .act 0 (.nextMessageId 1),
    .act 0 (.send (.failed .econnreset)), .act 0 .welcomed, .thread (.close 0),
    .thread (.fetchSub 0), .thread .stop, .thread .stopReturns, .dequeue 0]

theorem pool_bounded_unwelcomed :
    ∃ moves threads, Run (intake 10) (.boot 1) moves threads ∧ (dequeueds moves).length = 1 ∧
      ∀ socket ∈ dequeueds moves, (closedObjects moves).count socket.object = 1 := by
  let machine := service Json.flatCodec 10
  let state := execFinal machine (.boot 1 .empty) unwelcomed
  have facts : (exec machine (.boot 1 .empty) unwelcomed).isSome = true ∧
      (∀ worker ∈ state.intake.workers, worker = .returned) ∧ state.activations.length = 1 := by
    decide +kernel
  obtain ⟨possible, returned, one⟩ := facts
  obtain ⟨-, moves, run, -, -, through⟩ := pool_bounded (run_of_possible possible)
  obtain ⟨passes, -, closed⟩ := through returned
  exact ⟨moves, _, run, passes.trans one, closed⟩

/-! ### Metrics -/

/-- The pass has handled a frame that is counted under this index and has not counted it. -/
def Activation.uncounted (idx : Nat) : Activation → Bool
  | .answering _ messageType _ _ | .counting _ messageType => messageTypeIndex messageType == idx
  | _ => false

/-- It has counted it and not observed its duration. -/
def Activation.unobserved (idx : Nat) : Activation → Bool
  | .observing _ messageType => messageTypeIndex messageType == idx
  | _ => false

/-- A frame that is counted under this index. -/
def Traffic.handles (idx : Nat) : Traffic → Bool
  | .handled frame => messageTypeIndex frame.messageType == idx
  | _ => false

/-- The step handles one. -/
def handlesOne (idx : Nat) (turn : ServiceTurn) : Bool :=
  turn.output.any fun (_, traffic) => traffic.handles idx

theorem increment_counters (metrics : Metrics) (messageType : MessageType) (idx : Nat) :
    (metrics.increment messageType).counters idx =
      metrics.counters idx + (messageTypeIndex messageType == idx).toNat := by
  show Function.update metrics.counters (messageTypeIndex messageType) _ idx = _
  by_cases same : messageTypeIndex messageType = idx
  · subst same
    simp
  · rw [Function.update_of_ne (Ne.symm same), beq_false_of_ne same]
    rfl

theorem observe_histograms (metrics : Metrics) (messageType : MessageType) (elapsed idx : Nat) :
    ((metrics.observe messageType elapsed).histograms idx).length =
      (metrics.histograms idx).length + (messageTypeIndex messageType == idx).toNat := by
  show (Function.update metrics.histograms (messageTypeIndex messageType) _ idx).length = _
  by_cases same : messageTypeIndex messageType = idx
  · subst same
    simp
  · rw [Function.update_of_ne (Ne.symm same), beq_false_of_ne same]
    rfl

/-- **One step of a pass**: what is handled is first uncounted, then unobserved, then neither. -/
theorem Advances.tallies {shared after : Shared} {activation moved : Activation}
    {activity : Activity} {traffic : Option Traffic}
    (advances : Advances codec shared activation activity traffic moved after) (idx : Nat) :
    after.metrics.counters idx + (moved.uncounted idx).toNat =
      shared.metrics.counters idx + (activation.uncounted idx).toNat +
        (traffic.any (Traffic.handles idx)).toNat ∧
    (after.metrics.histograms idx).length + (moved.unobserved idx).toNat +
        shared.metrics.counters idx =
      (shared.metrics.histograms idx).length + (activation.unobserved idx).toNat +
        after.metrics.counters idx := by
  cases advances with
  | @welcomed _ sent _ => cases sent <;> exact ⟨rfl, rfl⟩
  | @recv _ _ _ next _ _ =>
      cases next with
      | returned result => cases result <;> exact ⟨rfl, rfl⟩
      | _ => exact ⟨rfl, rfl⟩
  | @handle _ frame _ _ served moved _ _ answered =>
      have counts : moved.uncounted idx = (messageTypeIndex frame.messageType == idx) ∧
          moved.unobserved idx = false := by
        rw [afterHandle] at answered
        cases replies : served.reply with
        | none =>
            rw [replies] at answered
            cases answered
            exact ⟨rfl, rfl⟩
        | some reply =>
            rw [replies] at answered
            obtain ⟨answer, -, rfl⟩ := Option.map_eq_some_iff.mp answered
            exact ⟨rfl, rfl⟩
      rw [counts.1, counts.2]
      exact ⟨rfl, rfl⟩
  | @sendAnswer _ _ _ _ _ next _ _ => cases next <;> exact ⟨rfl, rfl⟩
  | @increment _ messageType =>
      have counted := increment_counters shared.metrics messageType idx
      refine ⟨counted, ?_⟩
      show (shared.metrics.histograms idx).length + (messageTypeIndex messageType == idx).toNat +
        shared.metrics.counters idx = (shared.metrics.histograms idx).length + 0 +
          (shared.metrics.increment messageType).counters idx
      omega
  | @observe _ messageType elapsed =>
      have observed := observe_histograms shared.metrics messageType elapsed idx
      refine ⟨rfl, ?_⟩
      show ((shared.metrics.observe messageType elapsed).histograms idx).length + 0 +
        shared.metrics.counters idx = (shared.metrics.histograms idx).length +
          (messageTypeIndex messageType == idx).toNat + shared.metrics.counters idx
      omega
  | _ => exact ⟨rfl, rfl⟩

theorem countP_handlesOne (idx : Nat) {trace : List ServiceTurn} {conn : Nat}
    (traffic : Option Traffic) :
    (trace ++ [(⟨state, event, traffic.map (conn, ·), next⟩ : ServiceTurn)]).countP
        (handlesOne idx) =
      trace.countP (handlesOne idx) + (traffic.any (Traffic.handles idx)).toNat := by
  rw [List.countP_append, List.countP_singleton]
  cases traffic with
  | none => rfl
  | some traffic =>
      show _ + (if Traffic.handles idx traffic = true then 1 else 0) =
        _ + (Traffic.handles idx traffic).toNat
      cases Traffic.handles idx traffic <;> rfl

/-- What is handled and what is counted, over a whole run. -/
theorem tallied_of_run {trace : List ServiceTurn}
    (run : Run (service codec maxClients) (.boot threads registry) trace state) (idx : Nat) :
    state.shared.metrics.counters idx + state.activations.countP (Activation.uncounted idx) =
      trace.countP (handlesOne idx) ∧
    (state.shared.metrics.histograms idx).length +
      state.activations.countP (Activation.unobserved idx) = state.shared.metrics.counters idx := by
  induction run with
  | nil => exact ⟨rfl, rfl⟩
  | @snoc trace state next event output _ taken ih =>
      obtain ⟨counted, observed⟩ := ih
      have silent {after : Service} :
          (trace ++ [(⟨state, event, none, after⟩ : ServiceTurn)]).countP (handlesOne idx) =
            trace.countP (handlesOne idx) := by
        rw [List.countP_append]
        rfl
      cases serves_of_service taken with
      | thread _ _ | dequeue _ =>
          rw [silent]
          exact ⟨counted, observed⟩
      | nextSessionId _ =>
          rw [silent]
          simp only [List.countP_append]
          exact ⟨counted, observed⟩
      | @act worker conn _ activation moved traffic _ _ _ found advances _ =>
          obtain ⟨tally, lag⟩ := advances.tallies idx
          have uncounted := countP_set_add (Activation.uncounted idx) found moved
          have unobserved := countP_set_add (Activation.unobserved idx) found moved
          rw [countP_handlesOne]
          simp only
          omega

end ExodusOps.Serving
