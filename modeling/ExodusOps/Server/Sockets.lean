/-
**Every accepted socket has one owner.**

A socket passes from the acceptor to the queue and from there to a worker, and has four possible
closers: the rejection at capacity, `enqueue` after `stop`, `stop` itself, and the worker. Whatever
the interleaving, `sockets_owned_once`: workers get the sockets in the order they were enqueued and
none after a call of `stop`, every call on a descriptor reaches the connection it was meant for,
nothing is closed twice, and once `stop` has been called and the workers are gone every socket that
was enqueued has been closed.

* `Transfer` — a step keeps what is held, opens one, uses one that is held, or closes one.
* `Lined` — what has been given to the queue is what was taken from it and what is still in it.
* `WorkQueue.Over` — `stop` has emptied the queue; a worker that has returned has seen it
  (`over_of_returned`).
-/

import ExodusOps.Server.Intake

namespace ExodusOps

abbrev IntakeTurn := Transition Intake IntakeEvent (Option Syscall)

variable {maxClients : UInt32} {state next : Intake} {event : IntakeEvent} {output : Option Syscall}

/-! ### What is held -/

def Acceptor.held : Acceptor → List AcceptedSocket
  | .accepted socket | .loaded socket _ | .rejecting socket | .passed socket | .counted socket =>
      [socket]
  | .testing | .accepting | .returned => []

def Worker.held : Worker → List AcceptedSocket
  | .handshake socket | .serving socket | .closing socket => [socket]
  | .waiting | .closed _ | .returned => []

def Intake.held (state : Intake) : List AcceptedSocket :=
  state.across Acceptor.held Worker.held

/-- **What a step does to what is held.** -/
inductive Transfer (state next : Intake) : Option Syscall → Prop where
  | keeps : next.descriptors = state.descriptors → next.held.Perm state.held →
      Transfer state next none
  | opens {fd : Nat} {socket : AcceptedSocket} :
      state.descriptors.openAt fd = some (socket.toDescriptor, next.descriptors) →
        next.held.Perm (socket :: state.held) → Transfer state next none
  | uses {socket : AcceptedSocket} : socket ∈ state.held → next = state →
      Transfer state next (some (.use socket))
  | closes {socket : AcceptedSocket} :
      next.descriptors = state.descriptors.close socket.fd →
        state.held.Perm (socket :: next.held) → Transfer state next (some (.close socket))

/-- The acceptor moves on with what it had. -/
theorem Transfer.acceptor {moved : Acceptor} (same : moved.held = state.acceptor.held)
    (descriptors : next.descriptors = state.descriptors) (acceptor : next.acceptor = moved)
    (work : next.work = state.work) (workers : next.workers = state.workers) :
    Transfer state next none := by
  refine .keeps descriptors ?_
  rw [Intake.held, Intake.across, acceptor, work, workers, same]
  exact .refl _

theorem Intake.mem_held {worker : Nat} {thread : Worker} {socket : AcceptedSocket}
    (found : state.workers[worker]? = some thread) (has : thread.held = [socket]) :
    socket ∈ state.held := by
  refine (across_worker _ _ found).mem_iff.mpr (List.mem_append_left _ ?_)
  rw [has]
  exact List.mem_singleton_self socket

theorem Moves.transfer (moved : Moves maxClients state event output next) :
    Transfer state next output := by
  cases moved with
  | testFlag here | acceptFailed here =>
      refine .acceptor ?_ rfl rfl rfl rfl
      rw [here]
      split_ifs <;> rfl
  | @accept fd ip descriptor _ here opened =>
      refine @Transfer.opens _ _ fd ⟨descriptor, ip⟩ opened ?_
      rw [Intake.held, Intake.held, Intake.across, Intake.across, here]
      exact .refl _
  | load here | atCapacity here _ | belowCapacity here _ | fetchAdd here =>
      exact .acceptor (by rw [here]; rfl) rfl rfl rfl rfl
  | reject here =>
      refine .uses ?_ rfl
      rw [Intake.held, Intake.across, here]
      exact List.mem_cons_self
  | rejectClose here | enqueueClose here _ _ =>
      refine .closes rfl ?_
      rw [Intake.held, Intake.held, Intake.across, Intake.across, here]
      exact .refl _
  | enqueue here _ _ =>
      exact .keeps rfl (Intake.across_enqueue _ _ (by rw [here]; rfl) rfl)
  | dequeue found _ queued => exact .keeps rfl (Intake.across_dequeue _ _ found queued rfl rfl)
  | dequeueNone found _ _ _ | finished found | fetchSub found =>
      exact .keeps rfl (Intake.across_kept _ _ found rfl)
  | useWelcome found | useServing found => exact .uses (Intake.mem_held found rfl) rfl
  | welcomed found =>
      refine .keeps rfl (Intake.across_kept _ _ found ?_)
      split <;> rfl
  | close found => exact .closes rfl (Intake.across_dropped _ _ found rfl rfl)
  | drain _ queued => exact .closes rfl (Intake.across_drain _ _ queued)
  | stopAcceptor | stop _ _ | stopAgain _ _ | stopReturns _ _ => exact .keeps rfl (.refl _)

/-- The connection a step closes. -/
def closedBy (turn : IntakeTurn) : Option Nat :=
  match turn.output with
  | some (.close socket) => some socket.object
  | _ => none

/-- The connections closed, in order. -/
def closedObjects (trace : List IntakeTurn) : List Nat := trace.filterMap closedBy

theorem closedObjects_concat (trace : List IntakeTurn) (turn : IntakeTurn) :
    closedObjects (trace ++ [turn]) = closedObjects trace ++ (closedBy turn).toList :=
  filterMap_concat _ _ _

/-- The descriptors held. -/
def Intake.descriptorsHeld (state : Intake) : List Descriptor :=
  state.held.map AcceptedSocket.toDescriptor

/-- **One step** keeps every connection in one place. -/
theorem Transfer.custody {trace : List IntakeTurn} (transfer : Transfer state next output)
    (custody : Custody state.descriptors state.descriptorsHeld (closedObjects trace)) :
    Custody next.descriptors next.descriptorsHeld
      (closedObjects (trace ++ [⟨state, event, output, next⟩])) := by
  rw [closedObjects_concat]
  cases transfer with
  | keeps descriptors same =>
      rw [descriptors]
      exact (List.append_nil _).symm ▸ custody.moves (same.map _)
  | opens opened same =>
      exact (List.append_nil _).symm ▸ (custody.opens opened).moves (same.map _)
  | uses member same =>
      rw [same]
      exact (List.append_nil _).symm ▸ custody
  | closes descriptors same =>
      rw [descriptors]
      exact (custody.moves (same.map _).symm).closes

/-- **Every connection is in one place**, in every run. -/
theorem custody_of_run {threads : Nat} {trace : List IntakeTurn}
    (run : Run (intake maxClients) (.boot threads) trace state) :
    Custody state.descriptors state.descriptorsHeld (closedObjects trace) := by
  induction run with
  | nil =>
      have nothing : (Intake.boot threads).held = [] :=
        Intake.across_idle _ _ rfl (fun _ => List.eq_of_mem_replicate) rfl
      rw [Intake.descriptorsHeld, nothing]
      exact .empty
  | snoc _ taken ih => exact (moves_of_intake taken).transfer.custody ih

/-! ### The order of the queue -/

/-- The socket a step gives to `enqueue`. -/
def given (turn : IntakeTurn) : Option AcceptedSocket :=
  match turn.event, turn.before.acceptor with
  | .enqueue, .counted socket => some socket
  | _, _ => none

/-- The socket a step's `dequeue` returns. -/
def dequeued (turn : IntakeTurn) : Option AcceptedSocket :=
  match turn.event with
  | .dequeue worker =>
      match turn.after.workers[worker]? with
      | some (.handshake socket) => some socket
      | _ => none
  | _ => none

def givens (trace : List IntakeTurn) : List AcceptedSocket := trace.filterMap given

def dequeueds (trace : List IntakeTurn) : List AcceptedSocket := trace.filterMap dequeued

theorem givens_concat (trace : List IntakeTurn) (turn : IntakeTurn) :
    givens (trace ++ [turn]) = givens trace ++ (given turn).toList :=
  filterMap_concat _ _ _

theorem dequeueds_concat (trace : List IntakeTurn) (turn : IntakeTurn) :
    dequeueds (trace ++ [turn]) = dequeueds trace ++ (dequeued turn).toList :=
  filterMap_concat _ _ _

/-- **The queue is a queue**: what was given to it is what has been taken from it and, until it is
stopped, what it has. -/
structure Lined (entered left : List AcceptedSocket) (work : WorkQueue) : Prop where
  order : ∃ rest, entered = left ++ rest ∧ (work.stopped = false → rest = work.queue)
  stopped_of_draining : work.draining = true → work.stopped = true
  drained : work.stopped = true → work.draining = false → work.queue = []

/-- What a step does to the queue: what it is given, and what is taken from it. -/
inductive Passes (work : WorkQueue) :
    Option AcceptedSocket → Option AcceptedSocket → WorkQueue → Prop where
  | keeps : Passes work none none work
  | pushes {socket : AcceptedSocket} : work.stopped = false →
      Passes work (some socket) none { work with queue := work.queue ++ [socket] }
  | refuses {socket : AcceptedSocket} : work.stopped = true → Passes work (some socket) none work
  | pops {socket : AcceptedSocket} {rest : List AcceptedSocket} : work.draining = false →
      work.queue = socket :: rest → Passes work none (some socket) { work with queue := rest }
  | stops : work.stopped = false →
      Passes work none none { work with stopped := true, draining := true }
  | drains {rest : List AcceptedSocket} : work.draining = true →
      Passes work none none { work with queue := rest }
  | stopReturns : work.queue = [] → Passes work none none { work with draining := false }

theorem Moves.passes (moved : Moves maxClients state event output next) :
    Passes state.work (given ⟨state, event, output, next⟩)
      (dequeued ⟨state, event, output, next⟩) next.work := by
  cases moved with
  | enqueue here _ running =>
      simp only [given, dequeued, here]
      exact .pushes running
  | enqueueClose here _ stopped =>
      simp only [given, dequeued, here]
      exact .refuses stopped
  | dequeue found free queued =>
      obtain ⟨inside, _⟩ := List.getElem?_eq_some_iff.mp found
      simp only [given, dequeued, List.getElem?_set_self inside]
      exact .pops free queued
  | dequeueNone found _ _ _ =>
      obtain ⟨inside, _⟩ := List.getElem?_eq_some_iff.mp found
      simp only [given, dequeued, List.getElem?_set_self inside]
      exact .keeps
  | stop _ running => exact .stops running
  | drain draining _ => exact .drains draining
  | stopReturns _ queued => exact .stopReturns queued
  | _ => exact .keeps

/-- A queue that is stopped and free is empty, so `dequeue` returns nothing. -/
theorem Lined.running {entered left : List AcceptedSocket} {work : WorkQueue}
    (lined : Lined entered left work) (free : work.draining = false) (some : work.queue ≠ []) :
    work.stopped = false := by
  rw [← Bool.not_eq_true]
  intro stopped
  exact some (lined.drained stopped free)

theorem Lined.step {entered left : List AcceptedSocket} {work after : WorkQueue}
    (lined : Lined entered left work) {enters leaves : Option AcceptedSocket}
    (passes : Passes work enters leaves after) :
    Lined (entered ++ enters.toList) (left ++ leaves.toList) after := by
  obtain ⟨rest, rfl, same⟩ := lined.order
  cases passes with
  | keeps => exact ⟨⟨rest, by simp, same⟩, lined.stopped_of_draining, lined.drained⟩
  | @pushes socket running =>
      refine ⟨⟨rest ++ [socket], by simp, fun _ => by rw [same running]⟩,
        lined.stopped_of_draining, fun stopped => ?_⟩
      cases running.symm.trans stopped
  | @refuses socket stopped =>
      refine ⟨⟨rest ++ [socket], by simp, fun running => ?_⟩, lined.stopped_of_draining,
        lined.drained⟩
      cases running.symm.trans stopped
  | @pops socket behind free queued =>
      have running := lined.running free (by rw [queued]; simp)
      refine ⟨⟨behind, ?_, fun _ => rfl⟩, lined.stopped_of_draining, fun stopped => ?_⟩
      · rw [same running, queued]
        simp
      · cases running.symm.trans stopped
  | stops _ => exact ⟨⟨rest, by simp, nofun⟩, fun _ => rfl, fun _ => nofun⟩
  | drains draining =>
      have stopped := lined.stopped_of_draining draining
      refine ⟨⟨rest, by simp, fun running => ?_⟩, fun _ => stopped, fun _ free => ?_⟩
      · cases running.symm.trans stopped
      · cases free.symm.trans draining
  | stopReturns empty => exact ⟨⟨rest, by simp, same⟩, nofun, fun _ _ => empty⟩

theorem lined_of_run {threads : Nat} {trace : List IntakeTurn}
    (run : Run (intake maxClients) (.boot threads) trace state) :
    Lined (givens trace) (dequeueds trace) state.work := by
  induction run with
  | nil => exact ⟨⟨[], rfl, fun _ => rfl⟩, nofun, nofun⟩
  | snoc _ taken ih =>
      rw [givens_concat, dequeueds_concat]
      exact ih.step (moves_of_intake taken).passes

/-- A queue that is stopped gives nothing out. -/
theorem Lined.dequeues_none {entered left : List AcceptedSocket} {work after : WorkQueue}
    (lined : Lined entered left work) {enters leaves : Option AcceptedSocket}
    (passes : Passes work enters leaves after) (stopped : work.stopped = true) :
    leaves = none := by
  cases passes with
  | pops free queued =>
      cases (lined.running free (by rw [queued]; simp)).symm.trans stopped
  | _ => rfl

/-! ### After `stop` -/

theorem Passes.stopped {work after : WorkQueue} {enters leaves : Option AcceptedSocket}
    (passes : Passes work enters leaves after) (stopped : work.stopped = true) :
    after.stopped = true := by
  cases passes with
  | stops _ => rfl
  | _ => exact stopped

/-- A call of `stop` leaves the queue stopped, whether it is the first or not. -/
theorem stopped_of_stop (moved : Moves maxClients state .stop output next) :
    next.work.stopped = true := by
  cases moved with
  | stop _ _ => rfl
  | stopAgain _ stopped => exact stopped

/-- **Nothing is given out after a call of `stop`.** -/
theorem dequeues_none_of_stop {threads : Nat} {earlier later : List IntakeTurn}
    {turn after : IntakeTurn}
    (run : Run (intake maxClients) (.boot threads) (earlier ++ turn :: later) state)
    (stops : turn.event = .stop) (member : after ∈ later) : dequeued after = none := by
  obtain ⟨between, rest, rfl⟩ := List.append_of_mem member
  obtain ⟨-, called, behind⟩ := run.cut
  obtain ⟨since, taken, -⟩ := behind.cut
  have stopped : after.before.work.stopped = true := by
    rw [stops] at called
    refine since.invariant (fun state => state.work.stopped = true)
      (stopped_of_stop (moves_of_intake called)) fun taken => ?_
    exact (moves_of_intake taken).passes.stopped
  exact (lined_of_run run.upTo).dequeues_none (moves_of_intake taken).passes stopped

/-- `stop` has returned, and with the queue emptied. -/
def WorkQueue.Over (work : WorkQueue) : Prop := work.stopped = true ∧ work.draining = false

/-- There is no way back from there. -/
theorem Passes.over {work after : WorkQueue} {enters leaves : Option AcceptedSocket}
    (passes : Passes work enters leaves after) (done : work.Over) : after.Over := by
  cases passes with
  | stops running => cases running.symm.trans done.1
  | drains draining => cases done.2.symm.trans draining
  | stopReturns _ => exact ⟨done.1, rfl⟩
  | _ => exact done

theorem over_of_stopReturns {entered left : List AcceptedSocket}
    (moved : Moves maxClients state .stopReturns output next)
    (lined : Lined entered left state.work) : next.work.Over := by
  cases moved with
  | stopReturns draining _ => exact ⟨lined.stopped_of_draining draining, rfl⟩

/-- The number of threads stays. -/
theorem Moves.workers_length (moved : Moves maxClients state event output next) :
    next.workers.length = state.workers.length := by
  cases moved <;> first | rfl | exact List.length_set

theorem workers_of_run {threads : Nat} {trace : List IntakeTurn}
    (run : Run (intake maxClients) (.boot threads) trace state) :
    state.workers.length = threads :=
  run.invariant (fun state => state.workers.length = threads) List.length_replicate
    fun taken before => (moves_of_intake taken).workers_length.trans before

/-- Without threads nothing is dequeued. -/
theorem threads_pos_of_dequeued {threads : Nat} {trace : List IntakeTurn} {socket : AcceptedSocket}
    (run : Run (intake maxClients) (.boot threads) trace state)
    (member : socket ∈ dequeueds trace) : 0 < threads := by
  obtain ⟨turn, among, taken⟩ := List.mem_filterMap.mp member
  obtain ⟨earlier, later, rfl⟩ := List.append_of_mem among
  obtain ⟨before, stepped, _⟩ := run.cut
  have length := workers_of_run (before.snoc stepped)
  unfold dequeued at taken
  split at taken
  · split at taken
    · rename_i found
      rw [← length]
      exact Nat.zero_lt_of_lt (List.getElem?_eq_some_iff.mp found).1
    · cases taken
  · cases taken

/-- A worker returns when `dequeue` finds the queue stopped and empty. -/
theorem Moves.returned (moved : Moves maxClients state event output next)
    (gone : .returned ∈ next.workers) : .returned ∈ state.workers ∨ next.work.Over := by
  cases moved with
  | dequeueNone _ free _ stopped => exact .inr ⟨stopped, free⟩
  | welcomed _ =>
      refine .inl ((List.mem_or_eq_of_mem_set gone).resolve_right ?_)
      split_ifs <;> nofun
  | dequeue _ _ _ | finished _ | close _ | fetchSub _ =>
      exact .inl ((List.mem_or_eq_of_mem_set gone).resolve_right nofun)
  | _ => exact .inl gone

/-- **A worker that has returned has seen the end of `stop`.** -/
theorem over_of_returned {threads : Nat} {trace : List IntakeTurn}
    (run : Run (intake maxClients) (.boot threads) trace state)
    (gone : .returned ∈ state.workers) : state.work.Over := by
  induction run with
  | nil => cases List.eq_of_mem_replicate gone
  | snoc _ taken ih =>
      have moved := moves_of_intake taken
      exact (moved.returned gone).elim (fun before => moved.passes.over (ih before)) id

/-- `stop` has returned: it was seen to, or there are workers and they are gone. -/
theorem over_of_stop {threads : Nat} {trace : List IntakeTurn}
    (run : Run (intake maxClients) (.boot threads) trace state)
    (returns : threads = 0 → ∃ turn ∈ trace, turn.event = .stopReturns)
    (gone : ∀ worker ∈ state.workers, worker = .returned) : state.work.Over := by
  have length := workers_of_run run
  cases workers : state.workers with
  | cons first rest =>
      rw [workers] at gone
      refine over_of_returned run ?_
      rw [workers, ← gone first List.mem_cons_self]
      exact List.mem_cons_self
  | nil =>
      rw [workers] at length
      obtain ⟨turn, member, event⟩ := returns length.symm
      obtain ⟨earlier, later, rfl⟩ := List.append_of_mem member
      obtain ⟨before, taken, behind⟩ := run.cut
      refine behind.invariant (fun state => state.work.Over) ?_
        fun taken => (moves_of_intake taken).passes.over
      rw [event] at taken
      exact over_of_stopReturns (moves_of_intake taken) (lined_of_run before)

/-! ### What the acceptor has let go -/

/-- The acceptor has one connection at a time, and gives it away once. -/
structure Handed (trace : List IntakeTurn) (state : Intake) : Prop where
  distinct : (givens trace ++ state.acceptor.held).Pairwise fun first second =>
    first.object < second.object
  opened : ∀ socket ∈ givens trace ++ state.acceptor.held,
    socket.object < state.descriptors.opened

/-- The acceptor's part of a step. -/
inductive Hands (state next : Intake) : Option AcceptedSocket → Prop where
  | keeps : next.acceptor.held = state.acceptor.held →
      next.descriptors.opened = state.descriptors.opened → Hands state next none
  | opens {socket : AcceptedSocket} : state.acceptor.held = [] → next.acceptor.held = [socket] →
      socket.object = state.descriptors.opened →
        next.descriptors.opened = state.descriptors.opened + 1 → Hands state next none
  | closes : next.acceptor.held = [] → next.descriptors.opened = state.descriptors.opened →
      Hands state next none
  | gives {socket : AcceptedSocket} : state.acceptor.held = [socket] → next.acceptor.held = [] →
      next.descriptors.opened = state.descriptors.opened → Hands state next (some socket)

theorem Moves.hands (moved : Moves maxClients state event output next) :
    Hands state next (given ⟨state, event, output, next⟩) := by
  cases moved with
  | testFlag here | acceptFailed here =>
      refine .keeps ?_ rfl
      rw [here]
      simp only
      split_ifs <;> rfl
  | @accept fd ip descriptor descriptors here opened =>
      unfold Descriptors.openAt at opened
      split_ifs at opened
      cases opened
      exact .opens (by rw [here]; rfl) rfl rfl rfl
  | load here | atCapacity here _ | belowCapacity here _ | fetchAdd here =>
      exact .keeps (by rw [here]; rfl) rfl
  | rejectClose here => exact .closes rfl rfl
  | enqueue here _ _ | enqueueClose here _ _ =>
      simp only [given, here]
      exact .gives (by rw [here]; rfl) rfl rfl
  | _ => exact .keeps rfl rfl

theorem Handed.step {trace : List IntakeTurn} (handed : Handed trace state) {turn : IntakeTurn}
    (hands : Hands state next (given turn)) : Handed (trace ++ [turn]) next := by
  have distinct := handed.distinct
  have opened := handed.opened
  refine ⟨?_, ?_⟩
  all_goals
    rw [givens_concat]
    generalize given turn = enters at hands ⊢
  · cases hands with
    | keeps held _ =>
        rw [held]
        simpa using distinct
    | opens none held newest _ =>
        rw [none, List.append_nil] at distinct opened
        rw [held, Option.toList_none, List.append_nil, List.pairwise_append]
        refine ⟨distinct, List.pairwise_singleton _ _, ?_⟩
        intro earlier member _ last
        rw [List.mem_singleton.mp last, newest]
        exact opened earlier member
    | closes held _ =>
        rw [held, Option.toList_none, List.append_nil, List.append_nil]
        exact distinct.sublist (List.sublist_append_left _ _)
    | gives had has _ =>
        rw [has, List.append_nil, Option.toList_some, ← had]
        exact distinct
  · cases hands with
    | keeps held same =>
        rw [held, same]
        simpa using opened
    | opens none held newest more =>
        rw [none, List.append_nil] at opened
        rw [held, Option.toList_none, List.append_nil, more]
        intro socket member
        rcases List.mem_append.mp member with earlier | last
        · exact Nat.lt_succ_of_lt (opened socket earlier)
        · rw [List.mem_singleton.mp last, newest]
          exact Nat.lt_succ_self _
    | closes held same =>
        rw [held, Option.toList_none, List.append_nil, List.append_nil, same]
        exact fun socket member => opened socket (List.mem_append_left _ member)
    | gives had has same =>
        rw [has, List.append_nil, Option.toList_some, ← had, same]
        exact opened

theorem handed_of_run {threads : Nat} {trace : List IntakeTurn}
    (run : Run (intake maxClients) (.boot threads) trace state) : Handed trace state := by
  induction run with
  | nil => exact ⟨.nil, nofun⟩
  | snoc _ taken ih => exact ih.step (moves_of_intake taken).hands

/-! ### The result -/

/-- A call on a descriptor is on one that is held. -/
theorem Transfer.mem_held {socket : AcceptedSocket} (transfer : Transfer state next output)
    (called : output = some (.use socket) ∨ output = some (.close socket)) :
    socket ∈ state.held := by
  cases transfer with
  | keeps _ _ => simp at called
  | opens _ _ => simp at called
  | uses member _ =>
      simp only [Option.some.injEq, Syscall.use.injEq, reduceCtorEq, or_false] at called
      exact called ▸ member
  | closes _ same =>
      simp only [Option.some.injEq, Syscall.close.injEq, reduceCtorEq, false_or] at called
      exact same.mem_iff.mpr (called ▸ List.mem_cons_self)

/-- Once the queue is over and the workers are gone, everything given to the queue is closed. -/
theorem closed_once_of_over {threads : Nat} {trace : List IntakeTurn}
    (run : Run (intake maxClients) (.boot threads) trace state) (done : state.work.Over)
    (gone : ∀ worker ∈ state.workers, worker = .returned) {socket : AcceptedSocket}
    (member : socket ∈ givens trace) : (closedObjects trace).count socket.object = 1 := by
  have custody := custody_of_run run
  have handed := handed_of_run run
  refine List.count_eq_one_of_mem custody.nodup_closed ?_
  have inside := handed.opened socket (List.mem_append_left _ member)
  rcases custody.held_or_closed inside with held | closed
  · -- All that is held then is the acceptor's, and what it has is younger.
    have rest := Intake.across_idle Acceptor.held Worker.held rfl gone
      ((lined_of_run run).drained done.1 done.2)
    rw [Intake.descriptorsHeld, Intake.held, rest, List.map_map] at held
    obtain ⟨other, kept, same⟩ := List.mem_map.mp held
    have before := (List.pairwise_append.mp handed.distinct).2.2 socket member other kept
    exact absurd same.symm (Nat.ne_of_lt before)
  · exact closed

/-- **Every accepted socket has one owner.** In every run of the acceptor, the workers and the calls
of `stop`: `dequeue` returns the sockets in the order they were given to `enqueue`, each of them
once, and none after a call of `stop`; every call on a descriptor reaches the connection meant; no
connection is closed twice; and when `stop` has been called and all workers have returned, every
socket given to `enqueue` has been closed exactly once. Without workers nothing but the return of
`stop` itself shows that it is through. -/
theorem sockets_owned_once {threads : Nat} {trace : List IntakeTurn} {finish : Intake}
    (run : Run (intake maxClients) (.boot threads) trace finish) :
    dequeueds trace <+: givens trace ∧
    ((givens trace).map fun socket => socket.object).Nodup ∧
    (∀ earlier turn later, trace = earlier ++ turn :: later → turn.event = .stop →
      ∀ after ∈ later, dequeued after = none) ∧
    (∀ turn ∈ trace, ∀ socket,
      turn.output = some (.use socket) ∨ turn.output = some (.close socket) →
        turn.before.descriptors.Reaches socket.toDescriptor) ∧
    (closedObjects trace).Nodup ∧
    ((∃ turn ∈ trace, turn.event = .stop) →
      (threads = 0 → ∃ turn ∈ trace, turn.event = .stopReturns) →
      (∀ worker ∈ finish.workers, worker = .returned) →
        ∀ socket ∈ givens trace, (closedObjects trace).count socket.object = 1) := by
  refine ⟨?_, ?_, ?_, ?_, (custody_of_run run).nodup_closed, ?_⟩
  · obtain ⟨rest, order, _⟩ := (lined_of_run run).order
    exact ⟨rest, order.symm⟩
  · have ordered := (List.pairwise_append.mp (handed_of_run run).distinct).1
    exact List.pairwise_map.mpr (ordered.imp fun before => Nat.ne_of_lt before)
  · rintro earlier turn later rfl stops after member
    exact dequeues_none_of_stop run stops member
  · intro turn member socket called
    obtain ⟨earlier, later, rfl⟩ := List.append_of_mem member
    obtain ⟨before, taken, _⟩ := run.cut
    have held := (moves_of_intake taken).transfer.mem_held called
    exact (custody_of_run before).reaches _ (List.mem_map_of_mem held)
  · intro _ returns gone socket member
    exact closed_once_of_over run (over_of_stop run returns gone) gone member

/-- The acceptor takes a connection and enqueues it. -/
def admits (fd : Nat) : List IntakeEvent :=
  [.testFlag, .accept fd [], .load, .compare, .fetchAdd, .enqueue]

/-- Of three connections one is served, one is in the queue when it is stopped, and one, under the
number of the second, comes later. -/
def threeSockets : List IntakeEvent :=
  admits 5 ++ [.dequeue 0, .welcomed 0 true, .use 0] ++ admits 6 ++ [.stop, .drain, .stopReturns] ++
    admits 6 ++ [.finished 0, .close 0, .fetchSub 0, .dequeue 0, .dequeue 1]

/-- All three are closed once. -/
theorem sockets_owned_once_three :
    ∃ trace finish, Run (intake 10) (.boot 2) trace finish ∧
      ((givens trace).map fun socket => (socket.fd, socket.object)) = [(5, 0), (6, 1), (6, 2)] ∧
      ∀ socket ∈ givens trace, (closedObjects trace).count socket.object = 1 := by
  let trace := execTrace (intake 10) (.boot 2) threeSockets
  let finish := execFinal (intake 10) (.boot 2) threeSockets
  have facts : (exec (intake 10) (.boot 2) threeSockets).isSome = true ∧
      (∃ turn ∈ trace, turn.event = .stop) ∧ (∀ worker ∈ finish.workers, worker = .returned) ∧
      ((givens trace).map fun socket => (socket.fd, socket.object)) = [(5, 0), (6, 1), (6, 2)] := by
    decide +kernel
  obtain ⟨possible, stops, returned, sockets⟩ := facts
  have run := run_of_possible possible
  exact ⟨trace, finish, run, sockets,
    (sockets_owned_once run).2.2.2.2.2 stops nofun returned⟩

end ExodusOps
