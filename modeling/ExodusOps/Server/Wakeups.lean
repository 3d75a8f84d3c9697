/-
**The condition variable of the work queue.**

`WorkQueue::enqueue` pushes under the mutex and notifies one waiter behind it; `dequeue` waits until
there is a socket or the queue is stopped; `stop` sets the flag and empties the queue under the
mutex and notifies all waiters behind it, unless the queue was stopped before. The notification
comes when the mutex is free again: by then another consumer may have taken the socket, nobody may
be waiting, or somebody may just have begun to.

`Intake` has the same critical sections as steps of the queue; `queue_refines` says so. Here the
threads also wait and are woken:

* `workQueue_covered` — a queue has work for as many waiters as it has sockets, and for all of them
  when it is stopped; each critical section keeps that covered.
* `workQueue_no_lost_wakeup` — **no lost wakeup**: no consumer waits un-notified on a queue that has
  something for it unless another one is released or a notification is still to come; up to `stop`
  there are at least as many of these as there are sockets.
-/

import ExodusOps.Lib.CondVar
import ExodusOps.Server.Intake

namespace ExodusOps

/-- What the mutex guards. -/
structure GuardedQueue where
  queue : List AcceptedSocket
  stopped : Bool
  deriving DecidableEq, Repr

def GuardedQueue.empty : GuardedQueue := ⟨[], false⟩

inductive QueueCall where
  | enqueue (socket : AcceptedSocket)
  | dequeue
  | stop
  /-- In the loop of `stop`. -/
  | draining
  deriving DecidableEq, Repr

/-- The critical sections. The output is the socket that is closed, or the one `dequeue` returns. -/
def queueBody (guarded : GuardedQueue) :
    QueueCall → Outcome GuardedQueue QueueCall (Option AcceptedSocket)
  | .enqueue socket =>
      if guarded.stopped then .leaves guarded none (some socket)
      else .leaves { guarded with queue := guarded.queue ++ [socket] } (some .one) none
  | .dequeue =>
      match guarded.queue with
      | socket :: rest => .leaves { guarded with queue := rest } none (some socket)
      | [] => if guarded.stopped then .leaves guarded none none else .waits
  | .stop =>
      -- a second call returns, and does not notify
      if guarded.stopped then .leaves guarded none none
      else .continues { guarded with stopped := true } .draining none
  | .draining =>
      match guarded.queue with
      | socket :: rest => .continues { guarded with queue := rest } .draining (some socket)
      | [] => .leaves guarded (some .all) none

/-- The threads at the work queue. -/
def workQueue : Monitor GuardedQueue QueueCall (Option AcceptedSocket) where
  entry call := call ≠ .draining
  body := queueBody

/-- From its loop on `stop` is bound to notify. -/
def queueCommits : QueueCall → Option Notify
  | .draining => some .all
  | _ => none

/-- How many waiters there is something for. -/
def queueNeed (guarded : GuardedQueue) : ℕ∞ :=
  if guarded.stopped then ⊤ else guarded.queue.length

/-! ### Every wakeup is covered -/

/-- The paths through the critical sections. -/
inductive QueuePath : GuardedQueue → QueueCall →
    Outcome GuardedQueue QueueCall (Option AcceptedSocket) → Prop where
  | refused {queue : List AcceptedSocket} {socket : AcceptedSocket} :
      QueuePath ⟨queue, true⟩ (.enqueue socket) (.leaves ⟨queue, true⟩ none (some socket))
  | pushed {queue : List AcceptedSocket} {socket : AcceptedSocket} :
      QueuePath ⟨queue, false⟩ (.enqueue socket)
        (.leaves ⟨queue ++ [socket], false⟩ (some .one) none)
  | popped {socket : AcceptedSocket} {rest : List AcceptedSocket} {stopped : Bool} :
      QueuePath ⟨socket :: rest, stopped⟩ .dequeue (.leaves ⟨rest, stopped⟩ none (some socket))
  | ended : QueuePath ⟨[], true⟩ .dequeue (.leaves ⟨[], true⟩ none none)
  | blocked : QueuePath ⟨[], false⟩ .dequeue .waits
  | again {queue : List AcceptedSocket} :
      QueuePath ⟨queue, true⟩ .stop (.leaves ⟨queue, true⟩ none none)
  | stops {queue : List AcceptedSocket} :
      QueuePath ⟨queue, false⟩ .stop (.continues ⟨queue, true⟩ .draining none)
  | drains {socket : AcceptedSocket} {rest : List AcceptedSocket} {stopped : Bool} :
      QueuePath ⟨socket :: rest, stopped⟩ .draining
        (.continues ⟨rest, stopped⟩ .draining (some socket))
  | drained {stopped : Bool} :
      QueuePath ⟨[], stopped⟩ .draining (.leaves ⟨[], stopped⟩ (some .all) none)

theorem queuePath (guarded : GuardedQueue) (call : QueueCall) :
    QueuePath guarded call (queueBody guarded call) := by
  obtain ⟨queue, stopped⟩ := guarded
  cases call with
  | enqueue socket =>
      cases stopped with
      | true => exact .refused
      | false => exact .pushed
  | dequeue =>
      cases queue with
      | cons socket rest => exact .popped
      | nil =>
          cases stopped with
          | true => exact .ended
          | false => exact .blocked
  | stop =>
      cases stopped with
      | true => exact .again
      | false => exact .stops
  | draining =>
      cases queue with
      | cons socket rest => exact .drains
      | nil => exact .drained

theorem queuePath_of {guarded : GuardedQueue} {call : QueueCall}
    {outcome : Outcome GuardedQueue QueueCall (Option AcceptedSocket)}
    (runs : workQueue.body guarded call = outcome) : QueuePath guarded call outcome :=
  runs ▸ queuePath guarded call

theorem queueNeed_open (queue : List AcceptedSocket) :
    queueNeed ⟨queue, false⟩ = queue.length := rfl

theorem queueNeed_eq_top_iff {guarded : GuardedQueue} :
    queueNeed guarded = ⊤ ↔ guarded.stopped = true := by
  obtain ⟨queue, stopped⟩ := guarded
  cases stopped with
  | true => exact iff_of_true rfl rfl
  | false => exact iff_of_false (ENat.natCast_ne_top _) nofun

theorem queueNeed_eq_zero_iff {guarded : GuardedQueue} :
    queueNeed guarded = 0 ↔ guarded.queue = [] ∧ guarded.stopped = false := by
  obtain ⟨queue, stopped⟩ := guarded
  cases stopped with
  | true => exact iff_of_false ENat.top_ne_zero nofun
  | false => simp [queueNeed_open]

/-- A consumer that has been woken takes a socket, if the queue is open. -/
theorem queueNeed_woken {guarded next : GuardedQueue} {others : ℕ∞}
    (covered : queueNeed guarded ≤ others + 1) (kept : next.stopped = guarded.stopped)
    (taken : guarded.stopped = false → guarded.queue.length = next.queue.length + 1) :
    queueNeed next ≤ others := by
  obtain ⟨queue, stopped⟩ := guarded
  obtain ⟨queue', stopped'⟩ := next
  cases kept
  cases stopped with
  | true =>
      have top : others + 1 = ⊤ := top_le_iff.mp covered
      rw [(ENat.add_eq_top.mp top).resolve_right ENat.one_ne_top]
      exact le_top
  | false =>
      rw [queueNeed_open, taken rfl, Nat.cast_succ] at covered
      exact (ENat.add_le_add_iff_right ENat.one_ne_top).mp covered

/-- **Each critical section keeps the need covered.** -/
theorem workQueue_covered :
    workQueue.Covered queueNeed queueCommits fun call => call = .dequeue where
  waits waits := by
    cases queuePath_of waits
    exact ⟨rfl, rfl⟩
  continues continues := by
    -- `notify_all` is to come
    have all (rest : ℕ∞) (guarded : GuardedQueue) :
        queueNeed guarded ≤ rest + owedWeight (queueCommits .draining) :=
      le_top.trans_eq (add_top rest).symm
    cases queuePath_of continues with
    | stops => exact ⟨nofun, fun rest _ => all rest _⟩
    | drains => exact ⟨nofun, fun rest _ => all rest _⟩
  leaves leaves := by
    intro rest covered
    cases queuePath_of leaves with
    | refused => exact covered
    | @pushed queue socket =>
        have before : (queue.length : ℕ∞) ≤ rest := covered.trans_eq (add_zero rest)
        rw [queueNeed_open, List.length_append, List.length_singleton, Nat.cast_succ]
        exact add_le_add before le_rfl
    | popped => exact queueNeed_woken (covered.trans le_self_add) rfl fun _ => rfl
    | ended => exact covered
    | again => exact covered
    | drained => exact le_top.trans_eq (add_top rest).symm
  woken dequeues leaves := by
    intro rest covered
    subst dequeues
    rw [← add_assoc] at covered
    cases queuePath_of leaves with
    | popped => exact queueNeed_woken covered rfl fun _ => rfl
    | ended => exact queueNeed_woken covered rfl nofun

/-- Only `stop` notifies all. -/
theorem workQueue_bounded : workQueue.Bounded queueNeed queueCommits where
  entry {call} entry := by
    cases call with
    | draining => cases entry
    | _ => nofun
  continues continues all := by
    simp only [queueNeed_eq_top_iff] at all ⊢
    cases queuePath_of continues with
    | stops => exact ⟨fun _ => rfl, fun _ => rfl⟩
    | drains => exact ⟨id, all⟩
  leaves leaves all := by
    simp only [queueNeed_eq_top_iff] at all ⊢
    cases queuePath_of leaves with
    | drained => exact ⟨id, fun _ => all rfl⟩
    | _ => exact ⟨id, nofun⟩

section Runs

variable {τ : Type} [DecidableEq τ] [Fintype τ]
  {state : MonitorState τ GuardedQueue QueueCall}
  {trace : List (Transition (MonitorState τ GuardedQueue QueueCall) (MonitorEvent τ QueueCall)
    (Option (Option AcceptedSocket)))}

/-- **No lost wakeup in the work queue.** For any threads, in every interleaving of `enqueue`,
`dequeue` and `stop`, spurious wakeups included: if there is a socket or the queue is stopped, no
consumer waits un-notified with none released and no notification to come; and as long as the queue
is open and a consumer waits un-notified, the sockets are at most as many as the consumers that have
been released and have not run and the notifications that are still to come. -/
theorem workQueue_no_lost_wakeup
    (run : Run workQueue.step (.start τ QueueCall .empty) trace state) :
    (state.shared.queue ≠ [] ∨ state.shared.stopped = true →
      ¬((∃ thread, state.places thread = .waiting .dequeue) ∧
        (∀ thread, (state.places thread).awake = false) ∧
        ∀ thread, (state.places thread).owed queueCommits = none)) ∧
    ((∃ thread, state.places thread = .waiting .dequeue) → state.shared.stopped = false →
      state.shared.queue.length ≤ state.awake.card + (state.owing queueCommits).card) := by
  constructor
  · rintro work ⟨⟨waiter, waits⟩, asleep, silent⟩
    have needed : queueNeed state.shared ≠ 0 := by
      rw [Ne, queueNeed_eq_zero_iff]
      rintro ⟨empty, opened⟩
      rcases work with filled | stopped
      · exact filled empty
      · rw [opened] at stopped
        cases stopped
    obtain ⟨thread, awake | owes⟩ := Monitor.exists_of_need workQueue_covered run
      ⟨waiter, by rw [waits]; rfl⟩ needed
    · rw [asleep thread] at awake
      cases awake
    · exact owes (silent thread)
  · rintro ⟨waiter, waits⟩ opened
    have finite : queueNeed state.shared ≠ ⊤ := by
      rw [Ne, queueNeed_eq_top_iff, opened]
      nofun
    have covered := Monitor.need_le workQueue_covered workQueue_bounded run
      ⟨waiter, by rw [waits]; rfl⟩ finite
    rw [queueNeed, opened, if_neg Bool.false_ne_true, Nat.cast_le] at covered
    omega

/-- A consumer waits, and a producer has pushed and not yet notified. -/
theorem workQueue_no_lost_wakeup_pending :
    let socket : AcceptedSocket := ⟨⟨3, 0⟩, []⟩
    let events : List (MonitorEvent Bool QueueCall) :=
      [.call true .dequeue, .lock true, .body true,
        .call false (.enqueue socket), .lock false, .body false, .unlock false]
    let state := execFinal workQueue.step (.start Bool QueueCall .empty) events
    state.places true = .waiting .dequeue ∧ state.shared.queue = [socket] ∧
      state.shared.queue.length ≤ state.awake.card + (state.owing queueCommits).card :=
  ⟨by decide, by decide,
    (workQueue_no_lost_wakeup (run_of_possible (by decide))).2 ⟨true, by decide⟩ (by decide)⟩

end Runs

/-! ### The steps of the queue -/

/-- The operations on the queue. -/
inductive QueueMove where
  | enqueue (socket : AcceptedSocket)
  | dequeue
  | stop
  | drain
  | stopReturns
  deriving DecidableEq, Repr

/-- One of them, with the socket that is closed or returned. -/
def WorkQueue.move (work : WorkQueue) : QueueMove → Option (Option AcceptedSocket × WorkQueue)
  | .enqueue socket => work.enqueue socket
  | .dequeue => work.dequeue
  | .stop => work.stop.map fun after => (none, after)
  | .drain => work.drain.map fun (socket, after) => (some socket, after)
  | .stopReturns => work.stopReturns.map fun after => (none, after)

/-- The operation a critical section is; none if the thread has to wait. -/
def queueMove (guarded : GuardedQueue) : QueueCall → Option QueueMove
  | .enqueue socket => some (.enqueue socket)
  | .dequeue => if guarded.queue = [] ∧ guarded.stopped = false then none else some .dequeue
  | .stop => some .stop
  | .draining => some (if guarded.queue = [] then .stopReturns else .drain)

/-- The queue with a thread in its critical section. -/
def GuardedQueue.work (guarded : GuardedQueue) (draining : Bool) : WorkQueue :=
  ⟨guarded.queue, guarded.stopped, draining⟩

/-- **The critical sections are the operations.** -/
theorem queueMove_path {guarded : GuardedQueue} {call : QueueCall}
    {outcome : Outcome GuardedQueue QueueCall (Option AcceptedSocket)}
    (path : QueuePath guarded call outcome) :
    match outcome with
    | .waits => queueMove guarded call = none
    | .continues next call' output => ∃ move, queueMove guarded call = some move ∧
        (guarded.work (call = .draining)).move move = some (output, next.work (call' = .draining))
    | .leaves next _ output => ∃ move, queueMove guarded call = some move ∧
        (guarded.work (call = .draining)).move move = some (output, next.work false) := by
  cases path with
  | blocked => rfl
  | popped => exact ⟨.dequeue, rfl, rfl⟩
  | _ => exact ⟨_, rfl, rfl⟩

section Refinement

variable {τ : Type}

abbrev QueueTurn (τ : Type) := Transition (MonitorState τ GuardedQueue QueueCall)
  (MonitorEvent τ QueueCall) (Option (Option AcceptedSocket))

/-- The operation a step is. -/
def turnMove (turn : QueueTurn τ) : Option QueueMove :=
  match turn.event with
  | .body thread =>
      match turn.before.places thread with
      | .inside call _ => queueMove turn.before.shared call
      | _ => none
  | _ => none

theorem turnMove_inside {turn : QueueTurn τ} {thread : τ} {call : QueueCall} {woken : Bool}
    (body : turn.event = .body thread) (inside : turn.before.places thread = .inside call woken) :
    turnMove turn = queueMove turn.before.shared call := by
  simp only [turnMove, body, inside]

/-- A thread is in the loop of `stop`. -/
def StopDrains (places : τ → Place QueueCall) : Prop :=
  ∃ thread, (places thread).call = some .draining

/-- A thread in the loop of `stop` has the mutex, and no other thread has. -/
structure Guarded (state : MonitorState τ GuardedQueue QueueCall) : Prop where
  exclusive : state.Exclusive
  within : ∀ thread, (state.places thread).call = some .draining →
    (state.places thread).holds = true

variable {state next : MonitorState τ GuardedQueue QueueCall} {thread : τ}
  {place : Place QueueCall} {output : Option (Option AcceptedSocket)}

/-- In the critical section of a thread no other one is in the loop of `stop`. -/
theorem Guarded.drains_iff (guarded : Guarded state)
    (inside : (state.places thread).holds = true) :
    StopDrains state.places ↔ (state.places thread).call = some .draining := by
  refine ⟨fun ⟨other, there⟩ => ?_, fun there => ⟨thread, there⟩⟩
  rwa [← guarded.exclusive other thread (guarded.within other there) inside]

theorem Guarded.drains_put_iff [DecidableEq τ] (guarded : Guarded state)
    (inside : (state.places thread).holds = true) {shared : GuardedQueue} :
    StopDrains ({ state with shared }.put thread place).places ↔ place.call = some .draining := by
  constructor
  · rintro ⟨other, there⟩
    by_cases own : other = thread
    · subst own
      rwa [MonitorState.put_places_self] at there
    · rw [MonitorState.put_places_ne _ own] at there
      exact absurd (guarded.exclusive other thread (guarded.within other there) inside) own
  · intro there
    exact ⟨thread, by rwa [MonitorState.put_places_self]⟩

variable [Fintype τ]

instance (places : τ → Place QueueCall) : Decidable (StopDrains places) :=
  inferInstanceAs (Decidable (∃ _, _))

/-- The queue as `Intake` has it. -/
def queueView (state : MonitorState τ GuardedQueue QueueCall) : WorkQueue :=
  state.shared.work (StopDrains state.places)

theorem queueView_eq {draining : Bool} (drains : StopDrains state.places ↔ draining = true) :
    queueView state = state.shared.work draining := by
  rw [queueView, (Bool.eq_iff_iff.mpr (decide_eq_true_iff.trans drains) : decide _ = draining)]

theorem queueView_congr (shared : next.shared = state.shared)
    (same : ∀ thread, (next.places thread).call = some .draining ↔
      (state.places thread).call = some .draining) : queueView next = queueView state := by
  have drains : StopDrains next.places ↔ StopDrains state.places := exists_congr same
  rw [queueView, queueView, shared, decide_eq_decide.mpr drains]

theorem inside_draining_iff {call : QueueCall} {woken : Bool} :
    (Place.inside call woken).call = some .draining ↔ decide (call = .draining) = true := by
  rw [decide_eq_true_iff]
  exact Option.some_inj

/-- The queue before a critical section. -/
theorem Guarded.view_inside (guarded : Guarded state) {call : QueueCall} {woken : Bool}
    (inside : state.places thread = .inside call woken) :
    queueView state = state.shared.work (call = .draining) := by
  refine queueView_eq ((guarded.drains_iff (by rw [inside]; rfl)).trans ?_)
  rw [inside]
  exact inside_draining_iff

variable [DecidableEq τ]

/-- A thread that moves outside its critical section leaves the queue as it is. -/
theorem queueView_put
    (same : place.call = some .draining ↔ (state.places thread).call = some .draining) :
    queueView (state.put thread place) = queueView state := by
  refine queueView_congr rfl fun other => ?_
  by_cases own : other = thread
  · subst own
    rw [MonitorState.put_places_self]
    exact same
  · rw [MonitorState.put_places_ne _ own]

/-- The queue after it. -/
theorem Guarded.view_put (guarded : Guarded state) {call : QueueCall} {woken draining : Bool}
    (inside : state.places thread = .inside call woken) {shared : GuardedQueue}
    (own : place.call = some .draining ↔ draining = true) :
    queueView ({ state with shared }.put thread place) = shared.work draining :=
  queueView_eq ((guarded.drains_put_iff (by rw [inside]; rfl)).trans own)

/-- **A critical section is an operation on the queue**; every other step leaves it alone. -/
theorem queueView_step {event : MonitorEvent τ QueueCall} (guarded : Guarded state)
    (taken : workQueue.step state event = some (output, next)) :
    (turnMove ⟨state, event, output, next⟩ = none ∧ output = none ∧
      queueView next = queueView state) ∨
    ∃ move socket, turnMove ⟨state, event, output, next⟩ = some move ∧ output = some socket ∧
      (queueView state).move move = some (socket, queueView next) := by
  have same {place before : Place QueueCall} {thread : τ} (here : state.places thread = before)
      (calls : place.call = some .draining ↔ before.call = some .draining) :
      queueView (state.put thread place) = queueView state :=
    queueView_put (by rw [here]; exact calls)
  cases Monitor.moves_of_step taken with
  | @call thread call idle entry =>
      refine .inl ⟨rfl, rfl, same idle ⟨fun there => ?_, nofun⟩⟩
      cases there
      cases entry
  | lock _ entering => exact .inl ⟨rfl, rfl, same entering Iff.rfl⟩
  | relock _ released => exact .inl ⟨rfl, rfl, same released Iff.rfl⟩
  | @waits thread call woken inside waits =>
      refine .inl ⟨(turnMove_inside rfl inside).trans ?_, rfl, same inside Iff.rfl⟩
      exact queueMove_path (queuePath_of waits)
  | @continues thread call call' woken shared socket inside continues =>
      obtain ⟨move, here, moved⟩ := queueMove_path (queuePath_of continues)
      refine .inr ⟨move, socket, (turnMove_inside rfl inside).trans here, rfl, ?_⟩
      rw [guarded.view_inside inside, guarded.view_put inside inside_draining_iff]
      exact moved
  | @leaves thread call woken shared owed socket inside leaves =>
      obtain ⟨move, here, moved⟩ := queueMove_path (queuePath_of leaves)
      have left : (Place.leaving owed).call = some QueueCall.draining ↔ false = true :=
        iff_of_false nofun nofun
      refine .inr ⟨move, socket, (turnMove_inside rfl inside).trans here, rfl, ?_⟩
      rw [guarded.view_inside inside, guarded.view_put inside left]
      exact moved
  | unlock leaving => exact .inl ⟨rfl, rfl, same leaving Iff.rfl⟩
  | unlockOwing leaving => exact .inl ⟨rfl, rfl, same leaving Iff.rfl⟩
  | @notifyOne thread other call notifying waiting =>
      have different : other ≠ thread := by
        rintro rfl
        rw [notifying] at waiting
        cases waiting
      refine .inl ⟨rfl, rfl, (queueView_put ?_).trans (same notifying Iff.rfl)⟩
      rw [MonitorState.put_places_ne _ different, waiting]
      rfl
  | notifyNobody notifying _ => exact .inl ⟨rfl, rfl, same notifying Iff.rfl⟩
  | @notifyAll thread notifying =>
      let released : MonitorState τ GuardedQueue QueueCall :=
        { state with places := fun other => (state.places other).notified }
      have view : queueView released = queueView state :=
        queueView_congr rfl fun other => by rw [Place.notified_call]
      refine .inl ⟨rfl, rfl, Eq.trans (queueView_put ?_) view⟩
      rw [Place.notified_call, notifying]
      rfl
  | spurious waiting => exact .inl ⟨rfl, rfl, same waiting Iff.rfl⟩

theorem guarded_of_run {trace : List (QueueTurn τ)}
    (run : Run workQueue.step (.start τ QueueCall .empty) trace state) : Guarded state :=
  ⟨Monitor.exclusive run, Monitor.holds_of_call rfl
    (fun shared waits => by cases queuePath_of waits) run⟩

/-- **The threads refine the queue**: the critical sections of a run, in their order, are a run of
the operations that `Intake` uses, with the same sockets closed and returned. -/
theorem queue_refines {trace : List (QueueTurn τ)}
    (run : Run workQueue.step (.start τ QueueCall .empty) trace state) :
    ∃ moves, Run WorkQueue.move .empty moves (queueView state) ∧
      moves.map Transition.event = trace.filterMap turnMove ∧
      moves.map Transition.output = trace.filterMap Transition.output := by
  have every : ∀ turn ∈ trace, Guarded turn.before := fun turn member => by
    obtain ⟨earlier, later, rfl⟩ := List.append_of_mem member
    exact guarded_of_run run.cut.1
  have idle : ¬StopDrains (MonitorState.start τ QueueCall GuardedQueue.empty).places := by
    rintro ⟨_, there⟩
    cases there
  have start : WorkQueue.empty = queueView (.start τ QueueCall .empty) :=
    (queueView_eq (iff_of_false idle Bool.false_ne_true)).symm
  obtain ⟨moves, finish, ran, rfl, events, outputs⟩ : ∃ moves finish,
      Run WorkQueue.move .empty moves finish ∧ finish = queueView state ∧
        moves.map Transition.event = trace.filterMap turnMove ∧
        moves.filterMap (fun turn => some turn.output) = trace.filterMap Transition.output := by
    refine Run.simulate (fun state work => work = queueView state)
      (fun turn => Guarded turn.before) turnMove Transition.output
      (fun turn => some turn.output) ?_ ?_ start run every
    · rintro turn work taken guarded rfl still
      rcases queueView_step guarded taken with ⟨-, silent, same⟩ | ⟨_, _, moved, -⟩
      · exact ⟨silent, same.symm⟩
      · rw [still] at moved
        cases moved
    · rintro turn work move taken guarded rfl moved
      rcases queueView_step guarded taken with ⟨still, -⟩ | ⟨_, socket, same, output, done⟩
      · rw [still] at moved
        cases moved
      · rw [same] at moved
        cases moved
        exact ⟨socket, _, done, output, rfl⟩
  refine ⟨moves, ran, events, ?_⟩
  rw [← outputs, List.filterMap_eq_map']

end Refinement

end ExodusOps
