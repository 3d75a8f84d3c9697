/-
**From `accept` to `close`.**

`SocketAcceptor::acceptLoop` with the callback of `main`, the `WorkQueue` behind it,
`ThreadPool::workerLoop`, and of `ConnectionWorker::handleConnection` what it does to the descriptor
and to the count of connections: all its reads and writes are uses of the descriptor, and at the end
`TeardownGuard` closes it and then takes one off the count. A step is one access to what the threads
share, so the runs of `intake` are all interleavings. The numbers `accept` gives out come from a
descriptor table: any that is free, a closed one too.

* `Moves` — what each step does, as a relation; `moves_of_intake` is the inversion of the step
  function.
* `Intake.across` — what the threads and the queue have between them.
-/

import ExodusOps.Lib.Descriptors
import ExodusOps.Lib.History
import ExodusOps.Lib.Machine
import ExodusOps.Wire.MessageSerializer

namespace ExodusOps

open MessageSerializer

/-! ### The queue -/

structure AcceptedSocket extends Descriptor where
  ip : Bytes
  deriving DecidableEq, Repr

/-- The queue with its flag. `draining` is `stop` inside its critical section; no other thread can
then take the mutex. -/
structure WorkQueue where
  queue : List AcceptedSocket
  stopped : Bool
  draining : Bool
  deriving DecidableEq, Repr

namespace WorkQueue

def empty : WorkQueue := ⟨[], false, false⟩

/-- `enqueue`: the socket it closes, if the queue is stopped. -/
def enqueue (work : WorkQueue) (socket : AcceptedSocket) :
    Option (Option AcceptedSocket × WorkQueue) :=
  if work.draining then none
  else if work.stopped then some (some socket, work)
  else some (none, { work with queue := work.queue ++ [socket] })

/-- `dequeue` with the wait before it: not possible until there is a socket or the queue is
stopped. -/
def dequeue (work : WorkQueue) : Option (Option AcceptedSocket × WorkQueue) :=
  if work.draining then none
  else
    match work.queue with
    | socket :: rest => some (some socket, { work with queue := rest })
    | [] => if work.stopped then some (none, work) else none

/-- `stop` takes the mutex; a second call returns at once. -/
def stop (work : WorkQueue) : Option WorkQueue :=
  if work.draining then none
  else if work.stopped then some work
  else some { work with stopped := true, draining := true }

/-- One turn of the loop in `stop`: the socket it closes. -/
def drain (work : WorkQueue) : Option (AcceptedSocket × WorkQueue) :=
  if work.draining then
    match work.queue with
    | socket :: rest => some (socket, { work with queue := rest })
    | [] => none
  else none

/-- `stop` leaves its critical section. -/
def stopReturns (work : WorkQueue) : Option WorkQueue :=
  if work.draining ∧ work.queue = [] then some { work with draining := false } else none

variable {work after : WorkQueue}

theorem enqueue_cases {socket : AcceptedSocket} {refused : Option AcceptedSocket}
    (entered : work.enqueue socket = some (refused, after)) : work.draining = false ∧
      ((work.stopped = true ∧ refused = some socket ∧ after = work) ∨
      (work.stopped = false ∧ refused = none ∧
        after = { work with queue := work.queue ++ [socket] })) := by
  unfold enqueue at entered
  split_ifs at entered with draining stopped
  · cases entered
    exact ⟨Bool.eq_false_of_not_eq_true draining, .inl ⟨stopped, rfl, rfl⟩⟩
  · cases entered
    exact ⟨Bool.eq_false_of_not_eq_true draining,
      .inr ⟨Bool.eq_false_of_not_eq_true stopped, rfl, rfl⟩⟩

theorem dequeue_cases {given : Option AcceptedSocket}
    (left : work.dequeue = some (given, after)) : work.draining = false ∧
      ((∃ socket rest, work.queue = socket :: rest ∧ given = some socket ∧
        after = { work with queue := rest }) ∨
      (work.queue = [] ∧ work.stopped = true ∧ given = none ∧ after = work)) := by
  cases queued : work.queue with
  | nil =>
      simp only [dequeue, queued] at left
      split_ifs at left with draining stopped
      cases left
      exact ⟨Bool.eq_false_of_not_eq_true draining, .inr ⟨rfl, stopped, rfl, rfl⟩⟩
  | cons socket rest =>
      simp only [dequeue, queued] at left
      split_ifs at left with draining
      cases left
      exact ⟨Bool.eq_false_of_not_eq_true draining, .inl ⟨socket, rest, rfl, rfl, rfl⟩⟩

theorem stop_cases (called : work.stop = some after) : work.draining = false ∧
    ((work.stopped = true ∧ after = work) ∨
    (work.stopped = false ∧ after = { work with stopped := true, draining := true })) := by
  unfold stop at called
  split_ifs at called with draining stopped
  · cases called
    exact ⟨Bool.eq_false_of_not_eq_true draining, .inl ⟨stopped, rfl⟩⟩
  · cases called
    exact ⟨Bool.eq_false_of_not_eq_true draining,
      .inr ⟨Bool.eq_false_of_not_eq_true stopped, rfl⟩⟩

theorem drain_cases {socket : AcceptedSocket} (drained : work.drain = some (socket, after)) :
    work.draining = true ∧ ∃ rest, work.queue = socket :: rest ∧
      after = { work with queue := rest } := by
  unfold drain at drained
  split_ifs at drained with draining
  split at drained
  · rename_i rest queued
    cases drained
    exact ⟨draining, rest, queued, rfl⟩
  · cases drained

end WorkQueue

/-! ### The threads -/

/-- Where the thread of `acceptLoop` is. -/
inductive Acceptor where
  /-- At the condition of the loop. -/
  | testing
  /-- In `accept`. -/
  | accepting
  | accepted (socket : AcceptedSocket)
  /-- It has read the count of connections. -/
  | loaded (socket : AcceptedSocket) (currentCount : UInt32)
  /-- Over capacity: it sends the error and closes. -/
  | rejecting (socket : AcceptedSocket)
  /-- In `onAccept`, before `fetch_add`. -/
  | passed (socket : AcceptedSocket)
  /-- In `onAccept`, before `enqueue`. -/
  | counted (socket : AcceptedSocket)
  | returned
  deriving DecidableEq, Repr

/-- Where a thread of `workerLoop` is. -/
inductive Worker where
  /-- In `dequeue`. -/
  | waiting
  /-- Sending the welcome. -/
  | handshake (socket : AcceptedSocket)
  /-- In `handleConnection`. -/
  | serving (socket : AcceptedSocket)
  /-- The welcome could not be sent, or `handleConnection` is in the destructor of its guard: the
  descriptor is closed next. -/
  | closing (socket : AcceptedSocket)
  /-- The descriptor is closed and `fetch_sub` is next. -/
  | closed (socket : AcceptedSocket)
  | returned
  deriving DecidableEq, Repr

structure Intake where
  descriptors : Descriptors
  /-- `m_stopFlag` of the acceptor. -/
  stopFlag : Bool
  acceptor : Acceptor
  work : WorkQueue
  workers : List Worker
  activeConnections : UInt32

/-- The server after `main` has started `threads` workers and the acceptor. -/
def Intake.boot (threads : Nat) : Intake :=
  ⟨.empty, false, .testing, .empty, List.replicate threads .waiting, 0⟩

/-! ### Steps -/

inductive IntakeEvent where
  /-- `SocketAcceptor::stop` sets the flag. -/
  | stopAcceptor
  | testFlag
  /-- `accept` returns a number, or fails. -/
  | accept (fd : Nat) (ip : Bytes)
  | acceptFailed (errno : Errno)
  | load
  | compare
  /-- A call on the descriptor while the connection is rejected. -/
  | reject
  | rejectClose
  | fetchAdd
  | enqueue
  | dequeue (worker : Nat)
  /-- A call on the descriptor: the welcome's `send`, `setsockopt`, `recv`, `send`. -/
  | use (worker : Nat)
  /-- The outcome of the welcome. -/
  | welcomed (worker : Nat) (sent : Bool)
  /-- The body of `handleConnection` is done, in one way or another. -/
  | finished (worker : Nat)
  | close (worker : Nat)
  | fetchSub (worker : Nat)
  | stop
  | drain
  | stopReturns
  deriving DecidableEq, Repr

/-- A call on a descriptor. -/
inductive Syscall where
  | use (socket : AcceptedSocket)
  | close (socket : AcceptedSocket)
  deriving DecidableEq, Repr

namespace Intake

/-- Close a descriptor. -/
def closed (state : Intake) (socket : AcceptedSocket) : Option Syscall × Intake :=
  (some (.close socket), { state with descriptors := state.descriptors.close socket.fd })

/-- A worker moves on. -/
def put (state : Intake) (worker : Nat) (moved : Worker) : Intake :=
  { state with workers := state.workers.set worker moved }

end Intake

/-- The steps of `acceptLoop` and `onAccept`. -/
def acceptLoop (maxClients : UInt32) (state : Intake) :
    IntakeEvent → Option (Option Syscall × Intake)
  | .testFlag =>
      match state.acceptor with
      | .testing =>
          some (none, { state with acceptor := if state.stopFlag then .returned else .accepting })
      | _ => none
  | .accept fd ip =>
      match state.acceptor, state.descriptors.openAt fd with
      | .accepting, some (descriptor, descriptors) =>
          some (none, { state with
            descriptors := descriptors, acceptor := .accepted ⟨descriptor, ip⟩ })
      | _, _ => none
  | .acceptFailed errno =>
      match state.acceptor with
      | .accepting => some (none, { state with
          acceptor := if state.stopFlag then .returned
            else if errno = .eintr then .testing else .returned })
      | _ => none
  | .load =>
      match state.acceptor with
      | .accepted socket =>
          some (none, { state with acceptor := .loaded socket state.activeConnections })
      | _ => none
  | .compare =>
      match state.acceptor with
      | .loaded socket currentCount => some (none, { state with
          acceptor := if currentCount ≥ maxClients then .rejecting socket else .passed socket })
      | _ => none
  | .reject =>
      match state.acceptor with
      | .rejecting socket => some (some (.use socket), state)
      | _ => none
  | .rejectClose =>
      match state.acceptor with
      | .rejecting socket => some ({ state with acceptor := .testing }.closed socket)
      | _ => none
  | .fetchAdd =>
      match state.acceptor with
      | .passed socket => some (none, { state with
          acceptor := .counted socket, activeConnections := state.activeConnections + 1 })
      | _ => none
  | .enqueue =>
      match state.acceptor with
      | .counted socket =>
          match state.work.enqueue socket with
          | some (some refused, work) =>
              some ({ state with acceptor := .testing, work := work }.closed refused)
          | some (none, work) => some (none, { state with acceptor := .testing, work := work })
          | none => none
      | _ => none
  | _ => none

/-- The steps of `workerLoop`. -/
def workerLoop (state : Intake) : IntakeEvent → Option (Option Syscall × Intake)
  | .dequeue worker =>
      match state.workers[worker]?, state.work.dequeue with
      | some .waiting, some (some socket, work) =>
          some (none, { state with work := work }.put worker (.handshake socket))
      | some .waiting, some (none, work) =>
          some (none, { state with work := work }.put worker .returned)
      | _, _ => none
  | .use worker =>
      match state.workers[worker]? with
      | some (.handshake socket) | some (.serving socket) => some (some (.use socket), state)
      | _ => none
  | .welcomed worker sent =>
      match state.workers[worker]? with
      | some (.handshake socket) =>
          some (none, state.put worker (if sent then .serving socket else .closing socket))
      | _ => none
  | .finished worker =>
      match state.workers[worker]? with
      | some (.serving socket) => some (none, state.put worker (.closing socket))
      | _ => none
  | .close worker =>
      match state.workers[worker]? with
      | some (.closing socket) => some ((state.put worker (.closed socket)).closed socket)
      | _ => none
  | .fetchSub worker =>
      match state.workers[worker]? with
      | some (.closed _) => some (none, { state with
          activeConnections := state.activeConnections - 1 }.put worker .waiting)
      | _ => none
  | _ => none

/-- **One step** of the acceptor, a worker, or a thread that stops them. -/
def intake (maxClients : UInt32) (state : Intake) (event : IntakeEvent) :
    Option (Option Syscall × Intake) :=
  match event with
  | .stopAcceptor => some (none, { state with stopFlag := true })
  | .stop => state.work.stop.map fun work => (none, { state with work := work })
  | .drain => state.work.drain.map fun (socket, work) => { state with work := work }.closed socket
  | .stopReturns => state.work.stopReturns.map fun work => (none, { state with work := work })
  | .dequeue _ | .use _ | .welcomed _ _ | .finished _ | .close _ | .fetchSub _ =>
      workerLoop state event
  | _ => acceptLoop maxClients state event

/-! ### Inversion -/

/-- **What a step does.** -/
inductive Moves (maxClients : UInt32) (state : Intake) :
    IntakeEvent → Option Syscall → Intake → Prop where
  | stopAcceptor : Moves maxClients state .stopAcceptor none { state with stopFlag := true }
  | testFlag : state.acceptor = .testing → Moves maxClients state .testFlag none
      { state with acceptor := if state.stopFlag then .returned else .accepting }
  | accept {fd : Nat} {ip : Bytes} {descriptor : Descriptor} {descriptors : Descriptors} :
      state.acceptor = .accepting → state.descriptors.openAt fd = some (descriptor, descriptors) →
        Moves maxClients state (.accept fd ip) none
          { state with descriptors := descriptors, acceptor := .accepted ⟨descriptor, ip⟩ }
  | acceptFailed {errno : Errno} : state.acceptor = .accepting →
      Moves maxClients state (.acceptFailed errno) none { state with
        acceptor := if state.stopFlag then .returned
          else if errno = .eintr then .testing else .returned }
  | load {socket : AcceptedSocket} : state.acceptor = .accepted socket →
      Moves maxClients state .load none
        { state with acceptor := .loaded socket state.activeConnections }
  | atCapacity {socket : AcceptedSocket} {currentCount : UInt32} :
      state.acceptor = .loaded socket currentCount → currentCount ≥ maxClients →
        Moves maxClients state .compare none { state with acceptor := .rejecting socket }
  | belowCapacity {socket : AcceptedSocket} {currentCount : UInt32} :
      state.acceptor = .loaded socket currentCount → ¬ currentCount ≥ maxClients →
        Moves maxClients state .compare none { state with acceptor := .passed socket }
  | reject {socket : AcceptedSocket} : state.acceptor = .rejecting socket →
      Moves maxClients state .reject (some (.use socket)) state
  | rejectClose {socket : AcceptedSocket} : state.acceptor = .rejecting socket →
      Moves maxClients state .rejectClose (some (.close socket)) { state with
        acceptor := .testing, descriptors := state.descriptors.close socket.fd }
  | fetchAdd {socket : AcceptedSocket} : state.acceptor = .passed socket →
      Moves maxClients state .fetchAdd none { state with
        acceptor := .counted socket, activeConnections := state.activeConnections + 1 }
  | enqueue {socket : AcceptedSocket} : state.acceptor = .counted socket →
      state.work.draining = false → state.work.stopped = false →
        Moves maxClients state .enqueue none { state with
          acceptor := .testing
          work := { state.work with queue := state.work.queue ++ [socket] } }
  | enqueueClose {socket : AcceptedSocket} : state.acceptor = .counted socket →
      state.work.draining = false → state.work.stopped = true →
        Moves maxClients state .enqueue (some (.close socket)) { state with
          acceptor := .testing, descriptors := state.descriptors.close socket.fd }
  | dequeue {worker : Nat} {socket : AcceptedSocket} {rest : List AcceptedSocket} :
      state.workers[worker]? = some .waiting → state.work.draining = false →
        state.work.queue = socket :: rest →
        Moves maxClients state (.dequeue worker) none { state with
          work := { state.work with queue := rest }
          workers := state.workers.set worker (.handshake socket) }
  | dequeueNone {worker : Nat} : state.workers[worker]? = some .waiting →
      state.work.draining = false → state.work.queue = [] → state.work.stopped = true →
        Moves maxClients state (.dequeue worker) none
          { state with workers := state.workers.set worker .returned }
  | useWelcome {worker : Nat} {socket : AcceptedSocket} :
      state.workers[worker]? = some (.handshake socket) →
        Moves maxClients state (.use worker) (some (.use socket)) state
  | useServing {worker : Nat} {socket : AcceptedSocket} :
      state.workers[worker]? = some (.serving socket) →
        Moves maxClients state (.use worker) (some (.use socket)) state
  | welcomed {worker : Nat} {sent : Bool} {socket : AcceptedSocket} :
      state.workers[worker]? = some (.handshake socket) →
        Moves maxClients state (.welcomed worker sent) none { state with
          workers := state.workers.set worker (if sent then .serving socket else .closing socket) }
  | finished {worker : Nat} {socket : AcceptedSocket} :
      state.workers[worker]? = some (.serving socket) →
        Moves maxClients state (.finished worker) none
          { state with workers := state.workers.set worker (.closing socket) }
  | close {worker : Nat} {socket : AcceptedSocket} :
      state.workers[worker]? = some (.closing socket) →
        Moves maxClients state (.close worker) (some (.close socket)) { state with
          workers := state.workers.set worker (.closed socket)
          descriptors := state.descriptors.close socket.fd }
  | fetchSub {worker : Nat} {socket : AcceptedSocket} :
      state.workers[worker]? = some (.closed socket) →
        Moves maxClients state (.fetchSub worker) none { state with
          workers := state.workers.set worker .waiting
          activeConnections := state.activeConnections - 1 }
  | stop : state.work.draining = false → state.work.stopped = false →
      Moves maxClients state .stop none
        { state with work := { state.work with stopped := true, draining := true } }
  | stopAgain : state.work.draining = false → state.work.stopped = true →
      Moves maxClients state .stop none state
  | drain {socket : AcceptedSocket} {rest : List AcceptedSocket} : state.work.draining = true →
      state.work.queue = socket :: rest →
        Moves maxClients state .drain (some (.close socket)) { state with
          work := { state.work with queue := rest }
          descriptors := state.descriptors.close socket.fd }
  | stopReturns : state.work.draining = true → state.work.queue = [] →
      Moves maxClients state .stopReturns none
        { state with work := { state.work with draining := false } }

section Inversion

variable {maxClients : UInt32} {state next : Intake} {output : Option Syscall}

theorem moves_of_acceptLoop {event : IntakeEvent}
    (taken : acceptLoop maxClients state event = some (output, next)) :
    Moves maxClients state event output next := by
  cases event with
  | testFlag =>
      simp only [acceptLoop] at taken
      split at taken <;> cases taken
      exact .testFlag (by assumption)
  | accept fd ip =>
      simp only [acceptLoop] at taken
      split at taken <;> cases taken
      exact .accept (by assumption) (by assumption)
  | acceptFailed errno =>
      simp only [acceptLoop] at taken
      split at taken <;> cases taken
      exact .acceptFailed (by assumption)
  | load =>
      simp only [acceptLoop] at taken
      split at taken <;> cases taken
      exact .load (by assumption)
  | compare =>
      simp only [acceptLoop] at taken
      split at taken
      · rename_i socket currentCount at_
        by_cases full : currentCount ≥ maxClients
        · rw [if_pos full] at taken
          cases taken
          exact .atCapacity at_ full
        · rw [if_neg full] at taken
          cases taken
          exact .belowCapacity at_ full
      · cases taken
  | reject =>
      simp only [acceptLoop] at taken
      split at taken <;> cases taken
      exact .reject (by assumption)
  | rejectClose =>
      simp only [acceptLoop] at taken
      split at taken <;> cases taken
      exact .rejectClose (by assumption)
  | fetchAdd =>
      simp only [acceptLoop] at taken
      split at taken <;> cases taken
      exact .fetchAdd (by assumption)
  | enqueue =>
      simp only [acceptLoop] at taken
      split at taken
      · split at taken <;> cases taken
        · rename_i entered
          obtain ⟨free, ⟨stopped, same, rfl⟩ | ⟨_, none, _⟩⟩ := WorkQueue.enqueue_cases entered
          · cases same
            exact .enqueueClose (by assumption) free stopped
          · cases none
        · rename_i entered
          obtain ⟨free, ⟨_, some, _⟩ | ⟨open_, _, rfl⟩⟩ := WorkQueue.enqueue_cases entered
          · cases some
          · exact .enqueue (by assumption) free open_
      · cases taken
  | _ => cases taken

theorem moves_of_workerLoop {event : IntakeEvent}
    (taken : workerLoop state event = some (output, next)) :
    Moves maxClients state event output next := by
  cases event with
  | dequeue worker =>
      simp only [workerLoop] at taken
      split at taken
      · rename_i waiting left
        cases taken
        obtain ⟨free, ⟨_, rest, queued, same, rfl⟩ | ⟨_, _, none, _⟩⟩ :=
          WorkQueue.dequeue_cases left
        · cases same
          exact .dequeue waiting free queued
        · cases none
      · rename_i waiting left
        cases taken
        obtain ⟨free, ⟨_, _, _, some, _⟩ | ⟨queued, stopped, _, rfl⟩⟩ :=
          WorkQueue.dequeue_cases left
        · cases some
        · exact .dequeueNone waiting free queued stopped
      · cases taken
  | use worker =>
      simp only [workerLoop] at taken
      split at taken <;> cases taken
      · exact .useWelcome (by assumption)
      · exact .useServing (by assumption)
  | welcomed worker sent =>
      simp only [workerLoop] at taken
      split at taken <;> cases taken
      exact .welcomed (by assumption)
  | finished worker =>
      simp only [workerLoop] at taken
      split at taken <;> cases taken
      exact .finished (by assumption)
  | close worker =>
      simp only [workerLoop] at taken
      split at taken <;> cases taken
      exact .close (by assumption)
  | fetchSub worker =>
      simp only [workerLoop] at taken
      split at taken <;> cases taken
      exact .fetchSub (by assumption)
  | _ => cases taken

/-- **Inversion of a step.** -/
theorem moves_of_intake {event : IntakeEvent}
    (taken : intake maxClients state event = some (output, next)) :
    Moves maxClients state event output next := by
  cases event with
  | stopAcceptor =>
      cases taken
      exact .stopAcceptor
  | stop =>
      obtain ⟨work, called, same⟩ := Option.map_eq_some_iff.mp taken
      cases same
      obtain ⟨free, ⟨stopped, rfl⟩ | ⟨running, rfl⟩⟩ := WorkQueue.stop_cases called
      · exact .stopAgain free stopped
      · exact .stop free running
  | drain =>
      obtain ⟨⟨socket, work⟩, drained, same⟩ := Option.map_eq_some_iff.mp taken
      cases same
      obtain ⟨draining, rest, queued, rfl⟩ := WorkQueue.drain_cases drained
      exact .drain draining queued
  | stopReturns =>
      obtain ⟨work, returned, same⟩ := Option.map_eq_some_iff.mp taken
      cases same
      unfold WorkQueue.stopReturns at returned
      split_ifs at returned with done
      cases returned
      exact .stopReturns done.1 done.2
  | _ => first | exact moves_of_acceptLoop taken | exact moves_of_workerLoop taken

end Inversion

/-! ### What the threads have between them -/

namespace Intake

variable (ofAcceptor : Acceptor → List AcceptedSocket) (ofWorker : Worker → List AcceptedSocket)

/-- The sockets of the acceptor, the queue and the workers. -/
def across (state : Intake) : List AcceptedSocket :=
  ofAcceptor state.acceptor ++ (state.work.queue ++ state.workers.flatMap ofWorker)

/-- All of them but one worker's. -/
def beside (state : Intake) (worker : Nat) : List AcceptedSocket :=
  ofAcceptor state.acceptor ++
    (state.work.queue ++ (state.workers.eraseIdx worker).flatMap ofWorker)

variable {state : Intake} {worker : Nat} {thread : Worker}

theorem across_worker (found : state.workers[worker]? = some thread) :
    (state.across ofAcceptor ofWorker).Perm
      (ofWorker thread ++ state.beside ofAcceptor ofWorker worker) := by
  have split := flatMap_eraseIdx_perm ofWorker found
  refine ((split.append_left _).append_left _).trans ?_
  refine ((List.perm_append_comm_assoc _ _ _).append_left _).trans ?_
  exact List.perm_append_comm_assoc _ _ _

theorem across_put (found : state.workers[worker]? = some thread) (moved : Worker) :
    ((state.put worker moved).across ofAcceptor ofWorker).Perm
      (ofWorker moved ++ state.beside ofAcceptor ofWorker worker) := by
  have split := flatMap_set_perm ofWorker found moved
  refine ((split.append_left _).append_left _).trans ?_
  refine ((List.perm_append_comm_assoc _ _ _).append_left _).trans ?_
  exact List.perm_append_comm_assoc _ _ _

/-- A worker moves on with what it had. -/
theorem across_kept (found : state.workers[worker]? = some thread) {moved : Worker}
    (same : ofWorker moved = ofWorker thread) :
    ((state.put worker moved).across ofAcceptor ofWorker).Perm
      (state.across ofAcceptor ofWorker) := by
  have after := across_put ofAcceptor ofWorker found moved
  rw [same] at after
  exact after.trans (across_worker ofAcceptor ofWorker found).symm

/-- A worker gives one up. -/
theorem across_dropped (found : state.workers[worker]? = some thread) {moved : Worker}
    {socket : AcceptedSocket} (had : ofWorker thread = [socket]) (has : ofWorker moved = []) :
    (state.across ofAcceptor ofWorker).Perm
      (socket :: (state.put worker moved).across ofAcceptor ofWorker) := by
  have before := across_worker ofAcceptor ofWorker found
  have after := across_put ofAcceptor ofWorker found moved
  rw [had] at before
  rw [has] at after
  exact before.trans (after.symm.cons socket)

/-- The first in the queue is gone. -/
theorem across_drain {socket : AcceptedSocket} {rest : List AcceptedSocket}
    (queued : state.work.queue = socket :: rest) :
    (state.across ofAcceptor ofWorker).Perm (socket ::
      { state with work := { state.work with queue := rest } }.across ofAcceptor ofWorker) := by
  rw [across, queued, List.cons_append]
  exact List.perm_middle

/-- A worker takes the first in the queue. -/
theorem across_dequeue (found : state.workers[worker]? = some thread) {moved : Worker}
    {socket : AcceptedSocket} {rest : List AcceptedSocket}
    (queued : state.work.queue = socket :: rest) (had : ofWorker thread = [])
    (has : ofWorker moved = [socket]) :
    (({ state with work := { state.work with queue := rest } }.put worker moved).across
      ofAcceptor ofWorker).Perm (state.across ofAcceptor ofWorker) := by
  let popped : Intake := { state with work := { state.work with queue := rest } }
  have before := @across_worker ofAcceptor ofWorker popped worker thread found
  have after := @across_put ofAcceptor ofWorker popped worker thread found moved
  rw [had] at before
  rw [has] at after
  exact after.trans
    ((before.symm.cons socket).trans (across_drain ofAcceptor ofWorker queued).symm)

/-- The acceptor puts its socket into the queue. -/
theorem across_enqueue {socket : AcceptedSocket} {moved : Acceptor}
    (had : ofAcceptor state.acceptor = [socket]) (has : ofAcceptor moved = []) :
    ({ state with
        acceptor := moved
        work := { state.work with queue := state.work.queue ++ [socket] } }.across
      ofAcceptor ofWorker).Perm (state.across ofAcceptor ofWorker) := by
  rw [across, across, had, has, List.nil_append, List.append_assoc]
  exact List.perm_middle

/-- What there is when every worker is idle and the queue is empty. -/
theorem across_idle {idle : Worker} (none : ofWorker idle = [])
    (all : ∀ worker ∈ state.workers, worker = idle) (empty : state.work.queue = []) :
    state.across ofAcceptor ofWorker = ofAcceptor state.acceptor := by
  have nothing : state.workers.flatMap ofWorker = [] := by
    rw [List.flatMap_eq_nil_iff]
    intro worker member
    rw [all worker member, none]
  rw [across, empty, nothing]
  exact List.append_nil _

end Intake

end ExodusOps
