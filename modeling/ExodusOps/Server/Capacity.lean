/-
**Counting connections.**

`activeConnections` goes up in the callback of the acceptor and down in the worker that has closed
the connection. In between, `enqueue` after `stop` and `stop` itself close connections and leave the
count as it is. So the count is never less than the number of counted connections that are open, the
cap is kept and `fetch_sub` never meets a zero (`capacity_kept`); but at the end it is zero exactly
when the queue has closed nothing (`count_balances_iff`). `count_left_over`: one connection waits in
the queue when the server is stopped, and the count stays at one.

* `Intake.owing` — the connections some thread has counted and will still take off the count.
* `Tallies` — how a step moves the count and what is owed together.
-/

import ExodusOps.Server.Sockets

namespace ExodusOps

variable {maxClients : UInt32} {state next : Intake} {event : IntakeEvent} {output : Option Syscall}

/-! ### The count and what is owed -/

/-- The connection the acceptor has counted. -/
def Acceptor.counting : Acceptor → List AcceptedSocket
  | .counted socket => [socket]
  | _ => []

/-- The connection the acceptor has let through. -/
def Acceptor.admitted : Acceptor → List AcceptedSocket
  | .passed socket | .counted socket => [socket]
  | _ => []

/-- The connection a worker has yet to take off the count. -/
def Worker.owing : Worker → List AcceptedSocket
  | .handshake socket | .serving socket | .closing socket | .closed socket => [socket]
  | .waiting | .returned => []

def Intake.owing (state : Intake) : List AcceptedSocket :=
  state.across Acceptor.counting Worker.owing

/-- The connection a step of the queue closes. -/
def dropped (turn : IntakeTurn) : Option AcceptedSocket :=
  match turn.event, turn.output with
  | .drain, some (.close socket) | .enqueue, some (.close socket) => some socket
  | _, _ => none

def droppeds (trace : List IntakeTurn) : List AcceptedSocket := trace.filterMap dropped

theorem droppeds_concat (trace : List IntakeTurn) (turn : IntakeTurn) :
    droppeds (trace ++ [turn]) = droppeds trace ++ (dropped turn).toList :=
  filterMap_concat _ _ _

/-- **How a step moves the count**, and with it what is owed. -/
inductive Tallies (state next : Intake) : Option AcceptedSocket → Prop where
  | keeps : next.activeConnections = state.activeConnections → next.owing.Perm state.owing →
      Tallies state next none
  | adds {socket : AcceptedSocket} : state.acceptor = .passed socket →
      next.acceptor = .counted socket →
        next.activeConnections = state.activeConnections + 1 →
          next.owing.Perm (socket :: state.owing) → Tallies state next none
  | subtracts {socket : AcceptedSocket} :
      next.activeConnections = state.activeConnections - 1 →
        state.owing.Perm (socket :: next.owing) → Tallies state next none
  | drops {socket : AcceptedSocket} : next.activeConnections = state.activeConnections →
      state.owing.Perm (socket :: next.owing) → Tallies state next (some socket)

/-- The acceptor moves on and has counted nothing. -/
theorem Tallies.acceptor (before : state.acceptor.counting = [])
    (after : next.acceptor.counting = [])
    (count : next.activeConnections = state.activeConnections) (work : next.work = state.work)
    (workers : next.workers = state.workers) : Tallies state next none := by
  refine .keeps count ?_
  rw [Intake.owing, Intake.owing, Intake.across, Intake.across, before, after, work, workers]

theorem Moves.tallies (moved : Moves maxClients state event output next) :
    Tallies state next (dropped ⟨state, event, output, next⟩) := by
  cases moved with
  | testFlag here | acceptFailed here =>
      refine .acceptor (by rw [here]; rfl) ?_ rfl rfl rfl
      simp only
      split_ifs <;> rfl
  | accept here _ | load here | atCapacity here _ | belowCapacity here _ | rejectClose here =>
      exact .acceptor (by rw [here]; rfl) rfl rfl rfl rfl
  | fetchAdd here =>
      refine .adds here rfl rfl ?_
      rw [Intake.owing, Intake.owing, Intake.across, Intake.across, here]
      exact .refl _
  | enqueue here _ _ => exact .keeps rfl (Intake.across_enqueue _ _ (by rw [here]; rfl) rfl)
  | enqueueClose here _ _ =>
      refine .drops rfl ?_
      rw [Intake.owing, Intake.owing, Intake.across, Intake.across, here]
      exact .refl _
  | dequeue found _ queued => exact .keeps rfl (Intake.across_dequeue _ _ found queued rfl rfl)
  | dequeueNone found _ _ _ | finished found | close found =>
      exact .keeps rfl (Intake.across_kept _ _ found rfl)
  | welcomed found =>
      refine .keeps rfl (Intake.across_kept _ _ found ?_)
      split <;> rfl
  | fetchSub found => exact .subtracts rfl (Intake.across_dropped _ _ found rfl rfl)
  | drain _ queued => exact .drops rfl (Intake.across_drain _ _ queued)
  | stopAcceptor | reject _ | useWelcome _ | useServing _ | stop _ _ | stopAgain _ _
  | stopReturns _ _ => exact .keeps rfl (.refl _)

/-- How the acceptor gets to compare and to pass. -/
theorem Moves.checks (moved : Moves maxClients state event output next) :
    (∀ socket count, next.acceptor = .loaded socket count →
      state.acceptor = .loaded socket count ∨ count = state.activeConnections) ∧
    (∀ socket, next.acceptor = .passed socket → state.acceptor = .passed socket ∨
      ∃ count, state.acceptor = .loaded socket count ∧ count < maxClients) := by
  cases moved with
  | testFlag here => cases flag : state.stopFlag <;> simp
  | accept here opened => simp
  | @acceptFailed errno here =>
      cases flag : state.stopFlag with
      | true => simp
      | false => by_cases interrupted : errno = .eintr <;> simp [interrupted]
  | load here => simp [eq_comm]
  | atCapacity here _ => simp
  | @belowCapacity socket count here room =>
      refine ⟨by simp, fun _ at_ => ?_⟩
      cases at_
      exact .inr ⟨count, here, UInt32.not_le.mp room⟩
  | rejectClose here => simp
  | fetchAdd here => simp
  | enqueue here _ _ => simp
  | enqueueClose here _ _ => simp
  | _ => exact ⟨fun _ _ => .inl, fun _ => .inl⟩

/-- **The count** is what is owed and what the queue has closed, and the acceptor's view of it holds
until it adds one. -/
structure Counts (maxClients : UInt32) (trace : List IntakeTurn) (state : Intake) : Prop where
  total : state.activeConnections.toNat = state.owing.length + (droppeds trace).length
  bound : state.activeConnections ≤ maxClients
  loaded : ∀ socket count, state.acceptor = .loaded socket count → state.activeConnections ≤ count
  passed : ∀ socket, state.acceptor = .passed socket → state.activeConnections < maxClients

/-- `fetch_sub` on a count that is not zero. -/
theorem pred_toNat (count : UInt32) (positive : 0 < count.toNat) :
    (count - 1).toNat = count.toNat - 1 := by
  refine UInt32.toNat_sub_of_le _ _ ?_
  rw [UInt32.le_iff_toNat_le]
  exact positive

/-- `fetch_add` on a count that is not at its cap. -/
theorem succ_toNat {count cap : UInt32} (below : count < cap) :
    (count + 1).toNat = count.toNat + 1 := by
  rw [UInt32.lt_iff_toNat_lt] at below
  have inside := cap.toNat_lt
  rw [UInt32.toNat_add, show (1 : UInt32).toNat = 1 from rfl]
  omega

theorem Counts.step {trace : List IntakeTurn} (counts : Counts maxClients trace state)
    (moved : Moves maxClients state event output next) :
    Counts maxClients (trace ++ [⟨state, event, output, next⟩]) next := by
  obtain ⟨loads, passes⟩ := moved.checks
  have total := counts.total
  have tallies := moved.tallies
  -- where nothing is added, the count does not grow and the acceptor's view of it stays true
  have view (smaller : next.activeConnections ≤ state.activeConnections) :
      next.activeConnections ≤ maxClients ∧
      (∀ socket count, next.acceptor = .loaded socket count → next.activeConnections ≤ count) ∧
      (∀ socket, next.acceptor = .passed socket → next.activeConnections < maxClients) := by
    refine ⟨UInt32.le_trans smaller counts.bound, fun socket count at_ => ?_, fun socket at_ => ?_⟩
    · rcases loads socket count at_ with before | rfl
      · exact UInt32.le_trans smaller (counts.loaded socket count before)
      · exact smaller
    · rcases passes socket at_ with before | ⟨count, before, room⟩
      · exact UInt32.lt_of_le_of_lt smaller (counts.passed socket before)
      · exact UInt32.lt_of_le_of_lt
          (UInt32.le_trans smaller (counts.loaded socket count before)) room
  have size := droppeds_concat trace ⟨state, event, output, next⟩
  generalize dropped ⟨state, event, output, next⟩ = drop at tallies size
  cases tallies with
  | keeps same owing =>
      obtain ⟨bound, loaded, passed⟩ := view (same ▸ UInt32.le_refl _)
      refine ⟨?_, bound, loaded, passed⟩
      rw [size, same, total, owing.length_eq]
      simp
  | @adds socket before after more owing =>
      have room := counts.passed socket before
      have grown := succ_toNat room
      refine ⟨?_, ?_, ?_, ?_⟩
      · rw [size, more, grown, total, owing.length_eq]
        simp only [List.length_cons, Option.toList_none, List.append_nil]
        omega
      · rw [UInt32.lt_iff_toNat_lt] at room
        rw [more, UInt32.le_iff_toNat_le, grown]
        exact room
      · intro _ _ at_
        cases after.symm.trans at_
      · intro _ at_
        cases after.symm.trans at_
  | subtracts less owing =>
      have some := owing.length_eq
      rw [List.length_cons] at some
      have shrunk := pred_toNat state.activeConnections (by omega)
      obtain ⟨bound, loaded, passed⟩ := view (by
        rw [less, UInt32.le_iff_toNat_le, shrunk]
        omega)
      refine ⟨?_, bound, loaded, passed⟩
      rw [size, less, shrunk]
      simp only [Option.toList_none, List.append_nil]
      omega
  | drops same owing =>
      have some := owing.length_eq
      rw [List.length_cons] at some
      obtain ⟨bound, loaded, passed⟩ := view (same ▸ UInt32.le_refl _)
      refine ⟨?_, bound, loaded, passed⟩
      rw [size, same]
      simp only [Option.toList_some, List.length_append, List.length_singleton]
      omega

theorem counts_of_run {threads : Nat} {trace : List IntakeTurn}
    (run : Run (intake maxClients) (.boot threads) trace state) :
    Counts maxClients trace state := by
  induction run with
  | nil =>
      have nothing : (Intake.boot threads).owing = [] :=
        Intake.across_idle _ _ rfl (fun _ => List.eq_of_mem_replicate) rfl
      refine ⟨?_, UInt32.zero_le, by simp [Intake.boot], by simp [Intake.boot]⟩
      rw [nothing]
      rfl
  | snoc _ taken ih => exact ih.step (moves_of_intake taken)

/-! ### The cap -/

/-- The connection a step lets through. -/
def letThrough (turn : IntakeTurn) : Option AcceptedSocket :=
  match turn.event, turn.after.acceptor with
  | .compare, .passed socket => some socket
  | _, _ => none

/-- The connection a step counts. -/
def countedBy (turn : IntakeTurn) : Option AcceptedSocket :=
  match turn.event, turn.after.acceptor with
  | .fetchAdd, .counted socket => some socket
  | _, _ => none

/-- Those of `sockets` that have not been closed. -/
def stillOpen (trace : List IntakeTurn) (sockets : List AcceptedSocket) : List AcceptedSocket :=
  sockets.filter fun socket => decide (socket.object ∉ closedObjects trace)

theorem Moves.admits (moved : Moves maxClients state event output next) :
    state.acceptor.admitted ++ (letThrough ⟨state, event, output, next⟩).toList =
        (given ⟨state, event, output, next⟩).toList ++ next.acceptor.admitted ∧
    state.acceptor.counting ++ (countedBy ⟨state, event, output, next⟩).toList =
        (given ⟨state, event, output, next⟩).toList ++ next.acceptor.counting := by
  cases moved with
  | testFlag here | acceptFailed here =>
      simp only [here, letThrough, countedBy, given]
      split_ifs <;> exact ⟨rfl, rfl⟩
  | accept here _ | load here | atCapacity here _ | belowCapacity here _ | rejectClose here
  | fetchAdd here | enqueue here _ _ | enqueueClose here _ _ =>
      simp [here, letThrough, countedBy, given, Acceptor.admitted, Acceptor.counting]
  | _ => simp [letThrough, countedBy, given]

/-- What the acceptor has let through and counted: what it has given to the queue, and what it
has. -/
theorem admitted_of_run {threads : Nat} {trace : List IntakeTurn}
    (run : Run (intake maxClients) (.boot threads) trace state) :
    trace.filterMap letThrough = givens trace ++ state.acceptor.admitted ∧
    trace.filterMap countedBy = givens trace ++ state.acceptor.counting := by
  induction run with
  | nil => exact ⟨rfl, rfl⟩
  | @snoc trace state next event output _ taken ih =>
      obtain ⟨through, counted⟩ := (moves_of_intake taken).admits
      rw [filterMap_concat, filterMap_concat, givens_concat, ih.1, ih.2, List.append_assoc,
        List.append_assoc, List.append_assoc, List.append_assoc, through, counted]
      exact ⟨rfl, rfl⟩

/-- **Open connections are somewhere.** What the acceptor has given away or still has, as far as it
is open, is no more than what the threads and the queue have. -/
theorem stillOpen_length_le {threads : Nat} {trace : List IntakeTurn}
    (run : Run (intake maxClients) (.boot threads) trace state)
    (ofAcceptor : Acceptor → List AcceptedSocket)
    (part : (ofAcceptor state.acceptor).Sublist state.acceptor.held) :
    (stillOpen trace (givens trace ++ ofAcceptor state.acceptor)).length ≤
      (state.across ofAcceptor Worker.held).length := by
  have custody := custody_of_run run
  have handed := handed_of_run run
  have distinct : ((stillOpen trace (givens trace ++ ofAcceptor state.acceptor)).map fun socket =>
      socket.object).Nodup := by
    have within : (stillOpen trace (givens trace ++ ofAcceptor state.acceptor)).Sublist
        (givens trace ++ state.acceptor.held) := List.filter_sublist.trans (part.append_left _)
    exact List.pairwise_map.mpr
      ((handed.distinct.sublist within).imp fun before => Nat.ne_of_lt before)
  have present : ((stillOpen trace (givens trace ++ ofAcceptor state.acceptor)).map fun socket =>
      socket.object) ⊆ (state.across ofAcceptor Worker.held).map fun socket => socket.object := by
    intro object member
    obtain ⟨socket, kept, rfl⟩ := List.mem_map.mp member
    obtain ⟨known, opened⟩ := List.mem_filter.mp kept
    rcases List.mem_append.mp known with gave | has
    · -- given away and not closed: the queue or a worker has it
      have inside := handed.opened socket (List.mem_append_left _ gave)
      rcases custody.held_or_closed inside with held | closed
      · rw [Intake.descriptorsHeld, List.map_map] at held
        obtain ⟨other, place, same⟩ := List.mem_map.mp held
        rcases List.mem_append.mp place with acceptor | elsewhere
        · have before := (List.pairwise_append.mp handed.distinct).2.2 socket gave other acceptor
          exact absurd same.symm (Nat.ne_of_lt before)
        · exact List.mem_map.mpr ⟨other, List.mem_append_right _ elsewhere, same⟩
      · exact absurd closed (of_decide_eq_true opened)
    · exact List.mem_map.mpr ⟨socket, List.mem_append_left _ has, rfl⟩
  have shorter := (List.subperm_of_subset distinct present).length_le
  rwa [List.length_map, List.length_map] at shorter

theorem held_length_le_owing (workers : List Worker) :
    (workers.flatMap Worker.held).length ≤ (workers.flatMap Worker.owing).length := by
  induction workers with
  | nil => exact Nat.le_refl _
  | cons worker others ih =>
      have one : worker.held.length ≤ worker.owing.length := by
        cases worker <;> simp [Worker.held, Worker.owing]
      simp only [List.flatMap_cons, List.length_append]
      omega

/-- A worker at its `fetch_sub` owes one itself. -/
theorem Moves.owes {worker : Nat}
    (moved : Moves maxClients state (.fetchSub worker) output next) : 0 < state.owing.length := by
  cases moved with
  | fetchSub found =>
      rw [Intake.owing, (Intake.across_worker _ _ found).length_eq, List.length_append]
      exact Nat.lt_add_right _ Nat.zero_lt_one

/-- **The cap is kept and the count does not go below zero.** In every run of the acceptor, the
workers and the calls of `stop`: at most `maxClients` connections have passed the check and are
open, the count is at least the number of counted connections that are open, and no `fetch_sub`
meets a zero. -/
theorem capacity_kept {threads : Nat} {trace : List IntakeTurn} {finish : Intake}
    (run : Run (intake maxClients) (.boot threads) trace finish) :
    (stillOpen trace (trace.filterMap letThrough)).length ≤ maxClients.toNat ∧
    (stillOpen trace (trace.filterMap countedBy)).length ≤ finish.activeConnections.toNat ∧
    ∀ turn ∈ trace, ∀ worker, turn.event = .fetchSub worker →
      turn.before.activeConnections ≠ 0 := by
  obtain ⟨through, counted⟩ := admitted_of_run run
  have counts := counts_of_run run
  have total := counts.total
  have bound := UInt32.le_iff_toNat_le.mp counts.bound
  have fewer := held_length_le_owing finish.workers
  simp only [Intake.owing, Intake.across, List.length_append] at total
  refine ⟨?_, ?_, ?_⟩
  · rw [through]
    have places := stillOpen_length_le run Acceptor.admitted (by
      cases finish.acceptor <;> simp [Acceptor.admitted, Acceptor.held])
    refine places.trans ?_
    simp only [Intake.across, List.length_append]
    cases here : finish.acceptor with
    | passed socket =>
        have room := UInt32.lt_iff_toNat_lt.mp (counts.passed socket here)
        rw [here] at total
        simp only [Acceptor.admitted, Acceptor.counting, List.length_singleton,
          List.length_nil] at total ⊢
        omega
    | _ =>
        rw [here] at total
        simp only [Acceptor.admitted, Acceptor.counting, List.length_singleton,
          List.length_nil] at total ⊢
        omega
  · rw [counted]
    have places := stillOpen_length_le run Acceptor.counting (by
      cases finish.acceptor <;> simp [Acceptor.counting, Acceptor.held])
    refine places.trans ?_
    simp only [Intake.across, List.length_append]
    omega
  · intro turn member worker subtracts zero
    obtain ⟨earlier, later, rfl⟩ := List.append_of_mem member
    obtain ⟨before, taken, _⟩ := run.cut
    have owed := (counts_of_run before).total
    have some := (subtracts ▸ moves_of_intake taken).owes
    rw [zero, UInt32.toNat_zero] at owed
    omega

/-- A cap of one: the first connection is served, the second is rejected, and the number the first
had is given to the third. -/
def capOfOne : List IntakeEvent :=
  admits 5 ++ [.dequeue 0, .welcomed 0 true, .testFlag, .accept 6 [], .load, .compare, .reject,
    .rejectClose, .finished 0, .close 0, .fetchSub 0] ++ admits 5

theorem capacity_kept_one :
    ∃ trace finish, Run (intake 1) (.boot 1) trace finish ∧
      ((trace.filterMap letThrough).map fun socket => socket.object) = [0, 2] ∧
      finish.activeConnections = 1 ∧
      (stillOpen trace (trace.filterMap letThrough)).length ≤ (1 : UInt32).toNat := by
  let trace := execTrace (intake 1) (.boot 1) capOfOne
  let finish := execFinal (intake 1) (.boot 1) capOfOne
  have facts : (exec (intake 1) (.boot 1) capOfOne).isSome = true ∧
      ((trace.filterMap letThrough).map fun socket => socket.object) = [0, 2] ∧
      finish.activeConnections = 1 := by decide +kernel
  obtain ⟨possible, through, count⟩ := facts
  have run := run_of_possible possible
  exact ⟨trace, finish, run, through, count, (capacity_kept run).1⟩

/-! ### The balance -/

/-- While `stop` is emptying the queue, only it touches the queue. -/
theorem Moves.draining_kept (moved : Moves maxClients state event output next)
    (draining : state.work.draining = true) (some : state.work.queue ≠ [])
    (nothing : dropped ⟨state, event, output, next⟩ = none) : next.work = state.work := by
  cases moved with
  | enqueue _ free _ => cases free.symm.trans draining
  | dequeue _ free _ => cases free.symm.trans draining
  | stop free _ => cases free.symm.trans draining
  | drain _ queued => cases nothing
  | stopReturns _ empty => exact absurd empty some
  | _ => rfl

/-- A queue that is stopped with something in it has to close it before `stop` returns. -/
theorem drops_of_draining {start : Intake} {trace : List IntakeTurn}
    (run : Run (intake maxClients) start trace state) (draining : start.work.draining = true)
    (some : start.work.queue ≠ []) (nothing : ∀ turn ∈ trace, dropped turn = none) :
    state.work = start.work := by
  induction run with
  | nil => rfl
  | snoc _ taken ih =>
      have same := ih fun turn member => nothing turn (List.mem_append_left _ member)
      have kept := (moves_of_intake taken).draining_kept (by rw [same]; exact draining)
        (by rw [same]; exact some) (nothing _ (List.mem_append_right _ List.mem_cons_self))
      exact kept.trans same

theorem Moves.stops (moved : Moves maxClients state .stop output next)
    (running : state.work.stopped = false) :
    next.work.draining = true ∧ next.work.queue = state.work.queue := by
  cases moved with
  | stop _ _ => exact ⟨rfl, rfl⟩
  | stopAgain _ stopped => cases running.symm.trans stopped

theorem Moves.enqueues (moved : Moves maxClients state .enqueue output next)
    (nothing : dropped ⟨state, .enqueue, output, next⟩ = none) : state.work.stopped = false := by
  cases moved with
  | enqueue _ _ running => exact running
  | enqueueClose _ _ _ => cases nothing

/-- **The queue has closed nothing**: it was empty when it was stopped, and nothing came later. -/
def NothingDropped (turn : IntakeTurn) : Prop :=
  (turn.event = .stop → turn.before.work.stopped = false → turn.before.work.queue = []) ∧
  (turn.event = .enqueue → turn.before.work.stopped = false)

theorem nothingDropped_of_droppeds {threads : Nat} {trace : List IntakeTurn}
    (run : Run (intake maxClients) (.boot threads) trace state)
    (free : state.work.draining = false) (none : droppeds trace = []) :
    ∀ turn ∈ trace, NothingDropped turn := by
  have nothing : ∀ turn ∈ trace, dropped turn = Option.none := fun turn member =>
    List.filterMap_eq_nil_iff.mp none turn member
  intro turn member
  refine ⟨fun stops running => ?_, fun enters => ?_⟩
  · obtain ⟨earlier, later, rfl⟩ := List.append_of_mem member
    obtain ⟨_, taken, rest⟩ := run.cut
    obtain ⟨draining, queue⟩ := (stops ▸ moves_of_intake taken).stops running
    by_contra some
    have same := drops_of_draining rest draining (queue ▸ some) fun other inside =>
      nothing other (List.mem_append_right _ (List.mem_cons_of_mem _ inside))
    rw [same, draining] at free
    cases free
  · obtain ⟨before, event, output, after⟩ := turn
    subst enters
    exact (moves_of_intake (run.taken member)).enqueues (nothing _ member)

/-- Where nothing is dropped, `stop` finds the queue empty. -/
theorem droppeds_of_nothingDropped {threads : Nat} {trace : List IntakeTurn}
    (run : Run (intake maxClients) (.boot threads) trace state)
    (nothing : ∀ turn ∈ trace, NothingDropped turn) :
    (state.work.draining = true → state.work.queue = []) ∧ droppeds trace = [] := by
  induction run with
  | nil => exact ⟨by simp [Intake.boot, WorkQueue.empty], rfl⟩
  | @snoc trace state next event output _ taken ih =>
      obtain ⟨empty, none⟩ := ih fun turn member => nothing turn (List.mem_append_left _ member)
      obtain ⟨stops, enters⟩ := nothing _ (List.mem_append_right _ List.mem_cons_self)
      rw [droppeds_concat, none]
      cases moves_of_intake taken with
      | enqueue _ free _ =>
          refine ⟨fun draining => ?_, rfl⟩
          cases free.symm.trans draining
      | enqueueClose _ _ stopped => cases (enters rfl).symm.trans stopped
      | dequeue _ free _ =>
          refine ⟨fun draining => ?_, rfl⟩
          cases free.symm.trans draining
      | stop _ running => exact ⟨fun _ => stops rfl running, rfl⟩
      | drain draining queued => cases queued.symm.trans (empty draining)
      | stopReturns _ queued => exact ⟨fun _ => queued, rfl⟩
      | _ => exact ⟨empty, rfl⟩

/-- **When the count balances.** Once the acceptor, `stop` and all workers have returned, the count
is zero exactly when the queue was empty at the moment it was stopped and nothing was enqueued
afterwards. -/
theorem count_balances_iff {threads : Nat} {trace : List IntakeTurn} {finish : Intake}
    (run : Run (intake maxClients) (.boot threads) trace finish)
    (accepts : finish.acceptor = .returned) (stopped : finish.work.stopped = true)
    (free : finish.work.draining = false)
    (returned : ∀ worker ∈ finish.workers, worker = .returned) :
    finish.activeConnections = 0 ↔ ∀ turn ∈ trace, NothingDropped turn := by
  have settled : finish.owing = [] := by
    rw [Intake.owing, Intake.across_idle _ _ rfl returned ((lined_of_run run).drained stopped free),
      accepts]
    rfl
  have total := (counts_of_run run).total
  rw [settled, List.length_nil, Nat.zero_add] at total
  rw [← UInt32.toNat_inj, total]
  refine ⟨fun none => ?_, fun nothing => ?_⟩
  · exact nothingDropped_of_droppeds run free (List.length_eq_zero_iff.mp none)
  · rw [(droppeds_of_nothingDropped run nothing).2]
    rfl

/-- A connection is served and ends, and then the server is stopped. -/
def quietShutdown : List IntakeEvent :=
  admits 5 ++ [.dequeue 0, .welcomed 0 true, .use 0, .finished 0, .close 0, .fetchSub 0,
    .stopAcceptor, .testFlag, .stop, .stopReturns, .dequeue 0]

theorem count_balances_iff_quiet :
    ∃ trace finish, Run (intake 10) (.boot 1) trace finish ∧ finish.activeConnections = 0 ∧
      ∀ turn ∈ trace, NothingDropped turn := by
  let finish := execFinal (intake 10) (.boot 1) quietShutdown
  have facts : (exec (intake 10) (.boot 1) quietShutdown).isSome = true ∧
      finish.acceptor = .returned ∧ finish.work.stopped = true ∧ finish.work.draining = false ∧
      (∀ worker ∈ finish.workers, worker = .returned) ∧ finish.activeConnections = 0 := by
    decide +kernel
  obtain ⟨possible, accepts, stopped, free, returned, zero⟩ := facts
  have run := run_of_possible possible
  exact ⟨_, finish, run, zero,
    (count_balances_iff run accepts stopped free returned).mp zero⟩

/-- A connection is in the queue when the server is stopped. -/
def queuedAtShutdown : List IntakeEvent :=
  admits 5 ++ [.stopAcceptor, .testFlag, .stop, .drain, .stopReturns, .dequeue 0]

/-- **The count is left at one** after everything has returned. -/
theorem count_left_over :
    ∃ trace finish, Run (intake 10) (.boot 1) trace finish ∧ finish.acceptor = .returned ∧
      finish.work.stopped = true ∧ finish.work.draining = false ∧
      (∀ worker ∈ finish.workers, worker = .returned) ∧ closedObjects trace = [0] ∧
      finish.activeConnections = 1 := by
  let trace := execTrace (intake 10) (.boot 1) queuedAtShutdown
  let finish := execFinal (intake 10) (.boot 1) queuedAtShutdown
  have facts : (exec (intake 10) (.boot 1) queuedAtShutdown).isSome = true ∧
      finish.acceptor = .returned ∧ finish.work.stopped = true ∧ finish.work.draining = false ∧
      (∀ worker ∈ finish.workers, worker = .returned) ∧ closedObjects trace = [0] ∧
      finish.activeConnections = 1 := by decide +kernel
  obtain ⟨possible, rest⟩ := facts
  exact ⟨trace, finish, run_of_possible possible, rest⟩

end ExodusOps
