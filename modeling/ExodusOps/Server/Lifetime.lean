/-
**What the threads of the process rely on.**

`main` joins the thread of the acceptor before it closes the listening socket and destroys the
acceptor, and the workers before it destroys anything they use; so what a thread uses is there.

* `objects_outlive_threads` — **no thread uses an object that has been destroyed**, or one that has
  not been constructed yet.
* `every_socket_closed_once` — every call on a descriptor reaches the socket it was meant for, and
  when `main` returns all that were opened have been closed, once.
* `server_refines_intake` — **a run of the process is a run of `intake`**, if `main` and the
  listening socket are left out.
-/

import ExodusOps.Server.Lifecycle

namespace ExodusOps.Lifecycle

open ServerConfig (Fields)

variable {config : Fields} {state next : Server} {event : ServerEvent} {effect : Effect}
  {outcome : Outcome}

/-! ### Objects and threads -/

/-- The objects a step uses. The thread of `acceptLoop` has the callback of `main`; a worker has
all that a connection needs. -/
def uses (place : Main) : ServerEvent → List Object
  | .acceptor _ => [.acceptor, .activeConnections, .workQueue, .config, .logger]
  | .worker _ => [.threadPool, .connectionWorker, .workQueue, .activeConnections, .sessionManager,
      .registry, .config, .logger]
  | .main _ =>
      match place with
      | .spawning => [.threadPool, .config, .workQueue]
      | .booting => [.logger, .config, .threadPool]
      | .setup _ | .announcing | .clearing | .launching | .failing _ =>
          [.acceptor, .config, .logger]
      | .refused | .readying | .reporting _ | .completing => [.logger, .config]
      | .flagging _ | .shutting _ | .awaiting _ | .resetting _ => [.acceptor]
      | .stopping _ | .draining _ => [.threadPool, .workQueue]
      | .arming _ | .joining _ _ => [.threadPool]
      | _ => []
  | _ => []

/-- `main` has what it uses. -/
theorem main_uses (place : Main) (outcome : Outcome) :
    uses place (.main outcome) ⊆ place.alive := by
  cases place <;> simp [uses, Main.alive, objects]

theorem Down.idle (down : Down state) : state.thread ≠ .running := by
  rcases down with ⟨other, -⟩ | ⟨other, -⟩ <;> rw [other] <;> nofun

/-- Where the thread of the acceptor runs. -/
theorem door_of_running (sound : Sound state) (runs : state.thread = .running) :
    (state.main.door = .serving ∨ state.main.door = .flagged ∨ state.main.door = .closing) ∧
      state.listener ≠ none := by
  have door := sound.door
  cases place : state.main.door <;> rw [place] at door
  case absent | opened | joined | left =>
    have other := door.1
    rw [runs] at other
    cases other
  case serving => exact ⟨.inl rfl, door.2⟩
  case flagged => exact ⟨.inr (.inl rfl), door.2.1⟩
  case closing => exact ⟨.inr (.inr rfl), door.2.1⟩
  case down => exact absurd runs (Down.idle door)
  case gone => exact absurd runs door.1.idle

/-- As long as the thread of the acceptor has not been joined everything is alive. -/
theorem alive_of_running (sound : Sound state) (runs : state.thread = .running) :
    state.main.alive = objects := by
  obtain ⟨door, -⟩ := door_of_running sound runs
  cases place : state.main with
  | constructing _ _ | spawning | booting | arming _ =>
      rw [place] at door
      simp [Main.door] at door
  | unwinding code left =>
      rw [place, Main.door] at door
      split_ifs at door <;> simp at door
  | stopping code | draining code | joining code _ =>
      rw [place] at door
      cases code <;> simp [Main.door] at door
  | _ => rfl

/-- As long as a worker has not returned everything but the acceptor is. -/
theorem alive_of_worker (sound : Sound state) {index : Nat} {worker : Worker}
    (found : state.intake.workers[index]? = some worker) (working : worker ≠ .returned) :
    objects.tail ⊆ state.main.alive := by
  cases place : state.main with
  | constructing _ _ =>
      rw [sound.empty (by rw [place]; rfl)] at found
      cases found
  | unwinding code left =>
      have pool := sound.pool
      have order := sound.order
      rw [place] at pool order
      by_cases inside : Object.threadPool ∈ left
      · exact (suffix_of_objects order).2.2 inside
      · rw [Main.settled, if_neg inside] at pool
        exact absurd (pool index (List.getElem?_eq_some_iff.mp found).1 worker found) working
  | spawning | booting | stopping _ | draining _ | arming _ | joining _ _ =>
      exact List.Subset.refl _
  | _ => exact List.tail_subset _

/-- What takes a step of a worker has not returned. -/
theorem working_of_moves {maxClients : UInt32} {before after : Intake} {event : IntakeEvent}
    {call : Option Syscall} (moved : Moves maxClients before event call after)
    (mine : ofWorker event = true) :
    ∃ (index : Nat) (worker : Worker),
      before.workers[index]? = some worker ∧ worker ≠ .returned := by
  cases moved with
  | dequeue found _ _ | dequeueNone found _ _ _ | useWelcome found | useServing found
  | welcomed found | finished found | close found | fetchSub found =>
      exact ⟨_, _, found, nofun⟩
  | _ => cases mine

/-- **No thread uses an object that has been destroyed**, or one that has not been constructed. -/
theorem objects_outlive_threads {trace : List ServerTurn}
    (run : Run (server config) .boot trace state) :
    ∀ turn ∈ trace, ∀ object ∈ uses turn.before.main turn.event,
      object ∈ turn.before.main.alive := by
  intro turn member
  obtain ⟨earlier, later, rfl⟩ := List.append_of_mem member
  obtain ⟨before, taken, -⟩ := run.cut
  have sound := sound_of_run before
  obtain ⟨start, event, effect, finish⟩ := turn
  change server config start event = some (effect, finish) at taken
  obtain ⟨-, turns⟩ := turns_of_step taken
  -- the thread of the acceptor
  have all (runs : start.thread = .running) (object : Object) : object ∈ start.main.alive := by
    rw [alive_of_running sound runs]
    cases object <;> decide
  cases turns with
  | main _ =>
      exact fun _ used => main_uses _ _ used
  | accept runs _ _ _ => exact fun object _ => all runs object
  | acceptFailed runs _ => exact fun object _ => all runs object
  | acceptor runs _ _ _ => exact fun object _ => all runs object
  | worker mine moves =>
      obtain ⟨index, worker, found, working⟩ := working_of_moves moves mine
      exact fun _ used => alive_of_worker sound found working used
  | _ =>
      intro object used
      cases used

theorem objects_outlive_threads_whole :
    (execTrace (server oneWorker) .boot wholeLife).map Transition.event = wholeLife ∧
    ∀ turn ∈ execTrace (server oneWorker) .boot wholeLife,
      ∀ object ∈ uses turn.before.main turn.event, object ∈ turn.before.main.alive := by
  have possible : (exec (server oneWorker) .boot wholeLife).isSome = true := by decide +kernel
  exact ⟨execTrace_events possible, objects_outlive_threads (run_of_possible possible)⟩

/-! ### Descriptors -/

/-- The socket a step closes. -/
def closedSocket (turn : ServerTurn) : Option Nat :=
  match turn.output with
  | .client (.close socket) => some socket.object
  | .closes descriptor => some descriptor.object
  | _ => none

/-- The sockets closed, in order. -/
def closedSockets (trace : List ServerTurn) : List Nat := trace.filterMap closedSocket

/-- What the process has open: the listening socket, and the connections its threads have. -/
def Server.held (state : Server) : List Descriptor :=
  state.listener.toList ++ state.intake.descriptorsHeld

/-- The connection a call closes. -/
def closes : Option Syscall → List Nat
  | some (.close socket) => [socket.object]
  | _ => []

theorem closedSocket_of (before after : Server) (event : ServerEvent) (call : Option Syscall) :
    (closedSocket ⟨before, event, .of call, after⟩).toList = closes call := by
  cases call with
  | none => rfl
  | some call => cases call <;> rfl

/-- The threads move, and the listening socket stays where it is. -/
theorem transfer_custody {before after : Intake} {call : Option Syscall} {extra : List Descriptor}
    {closed : List Nat} (transfer : Transfer before after call)
    (custody : Custody before.descriptors (extra ++ before.descriptorsHeld) closed) :
    Custody after.descriptors (extra ++ after.descriptorsHeld) (closed ++ closes call) := by
  cases transfer with
  | keeps descriptors same =>
      show Custody after.descriptors _ (closed ++ [])
      rw [descriptors, List.append_nil]
      exact custody.moves ((same.map _).append_left _)
  | opens opened same =>
      show Custody after.descriptors _ (closed ++ [])
      rw [List.append_nil]
      refine (custody.opens opened).moves ?_
      exact ((same.map _).append_left _).trans List.perm_middle
  | uses _ same =>
      show Custody after.descriptors _ (closed ++ [])
      rw [same, List.append_nil]
      exact custody
  | @closes socket descriptors same =>
      rw [descriptors]
      refine Custody.closes (custody.moves ?_)
      exact (((same.map _).append_left _).trans List.perm_middle).symm

/-- A step of `main` that opens and closes nothing. -/
theorem custody_kept {next : Server} {closed : List Nat}
    (custody : Custody state.intake.descriptors state.held closed)
    (descriptors : next.intake.descriptors = state.intake.descriptors)
    (held : next.intake.held.Perm state.intake.held) (listener : next.listener = state.listener) :
    Custody next.intake.descriptors next.held closed := by
  rw [descriptors, Server.held, listener]
  exact custody.moves ((held.map _).append_left _)

theorem custody_acts (acts : Acts config state outcome effect next) (sound : Sound state)
    {trace : List ServerTurn}
    (custody : Custody state.intake.descriptors state.held (closedSockets trace)) :
    Custody next.intake.descriptors next.held
      (closedSockets (trace ++ [⟨state, .main outcome, effect, next⟩])) := by
  rw [closedSockets, filterMap_concat]
  cases acts with
  | opens here opened =>
      have door := sound.door
      rw [here] at door
      rw [Server.held, door.2.2] at custody
      rw [show closedSocket _ = none from rfl, Option.toList_none, List.append_nil]
      exact custody.opens opened
  | @resets _ descriptor _ listens =>
      rw [Server.held, listens] at custody
      exact Custody.closes custody
  | @drains _ socket work _ drained =>
      obtain ⟨draining, rest, queued, rfl⟩ := WorkQueue.drain_cases drained
      have moves : Moves config.maxClients state.intake .drain _ _ := .drain draining queued
      exact transfer_custody moves.transfer custody
  | spawn _ _ =>
      rw [show closedSocket _ = none from rfl, Option.toList_none, List.append_nil]
      refine custody_kept custody rfl ?_ rfl
      rw [Intake.held, Intake.held, Intake.across, Intake.across, List.flatMap_append,
        List.flatMap_singleton]
      exact .of_eq (by rw [show Worker.held .waiting = [] from rfl, List.append_nil])
  | stops _ stopped =>
      rw [show closedSocket _ = none from rfl, Option.toList_none, List.append_nil]
      obtain ⟨-, ⟨-, rfl⟩ | ⟨-, rfl⟩⟩ := WorkQueue.stop_cases stopped
      · exact custody_kept custody rfl (.refl _) rfl
      · exact custody_kept custody rfl (.refl _) rfl
  | drained _ _ returned =>
      rw [show closedSocket _ = none from rfl, Option.toList_none, List.append_nil]
      obtain ⟨-, same⟩ := Option.ite_none_right_eq_some.mp returned
      cases same
      exact custody_kept custody rfl (.refl _) rfl
  | _ =>
      rw [show closedSocket _ = none from rfl, Option.toList_none, List.append_nil]
      exact custody

theorem custody_of_run {trace : List ServerTurn} (run : Run (server config) .boot trace state) :
    Custody state.intake.descriptors state.held (closedSockets trace) := by
  induction run with
  | nil => exact .empty
  | @snoc trace state next event effect before taken ih =>
      obtain ⟨-, turns⟩ := turns_of_step taken
      -- a thread takes a step
      have thread {event : ServerEvent} {call : Option Syscall} {moved : Intake}
          (transfer : Transfer state.intake moved call) :
          Custody moved.descriptors (state.listener.toList ++ moved.descriptorsHeld)
            (closedSockets
              (trace ++ [⟨state, event, .of call, { state with intake := moved }⟩])) := by
        rw [closedSockets, filterMap_concat, closedSocket_of]
        exact transfer_custody transfer ih
      cases turns with
      | main acts => exact custody_acts acts (sound_of_run before) ih
      | accept _ _ _ moves =>
          have moved := transfer_custody moves.transfer ih
          rw [closedSockets, filterMap_concat]
          exact moved
      | acceptFailed _ moves =>
          have moved := transfer_custody moves.transfer ih
          rw [closedSockets, filterMap_concat]
          exact moved
      | acceptor _ _ _ moves => exact thread moves.transfer
      | worker _ moves => exact thread moves.transfer
      | _ =>
          rw [closedSockets, filterMap_concat, show closedSocket _ = none from rfl,
            Option.toList_none, List.append_nil]
          exact ih

/-- The descriptor a call is made on. -/
def Effect.on : Effect → Option (Option Descriptor)
  | .listener _ descriptor => some descriptor
  | .closes descriptor => some (some descriptor)
  | .client (.use socket) | .client (.close socket) => some (some socket.toDescriptor)
  | _ => none

theorem mem_held_of_listener (there : state.listener ≠ none) :
    ∃ one ∈ state.held, state.listener = some one := by
  obtain ⟨one, same⟩ := Option.ne_none_iff_exists'.mp there
  refine ⟨one, ?_, same⟩
  rw [Server.held, same]
  exact List.mem_cons_self

/-- A call of a thread is made on a connection it has. -/
theorem held_of_transfer {moved : Intake} {call : Option Syscall} {descriptor : Option Descriptor}
    (transfer : Transfer state.intake moved call) (made : (Effect.of call).on = some descriptor) :
    ∃ one ∈ state.held, descriptor = some one := by
  have held {socket : AcceptedSocket} (member : socket ∈ state.intake.held) :
      socket.toDescriptor ∈ state.held :=
    List.mem_append_right _ (List.mem_map_of_mem member)
  cases transfer with
  | keeps _ _ => cases made
  | opens _ _ => cases made
  | uses member _ =>
      cases made
      exact ⟨_, held member, rfl⟩
  | closes _ same =>
      cases made
      exact ⟨_, held (same.mem_iff.mpr List.mem_cons_self), rfl⟩

/-- A call is made on a socket the process has. -/
theorem held_of_turns {descriptor : Option Descriptor}
    (turns : Turns config state event effect next) (sound : Sound state)
    (made : effect.on = some descriptor) : ∃ one ∈ state.held, descriptor = some one := by
  have listens {one : Descriptor} (same : state.listener = some one) :
      ∃ other ∈ state.held, some one = some other := by
    obtain ⟨other, held, there⟩ := mem_held_of_listener (by rw [same]; nofun)
    exact ⟨other, held, same.symm.trans there⟩
  -- `start` has opened the socket on which it makes its other calls
  have opened {step : Setup} (here : state.main = .setup step) (other : step ≠ .socket) :
      ∃ one ∈ state.held, state.listener = some one := by
    have door := sound.door
    rw [here] at door
    cases step with
    | socket => exact absurd rfl other
    | setsockopt | bind | listen => exact mem_held_of_listener door.2.2
  cases turns with
  | main acts =>
      cases acts with
      | setup here other =>
          cases made
          exact opened here other
      | setupFails here other =>
          cases made
          exact opened here other
      | shuts _ same =>
          cases made
          exact listens same
      | resets _ same =>
          cases made
          exact listens same
      | drains _ drained =>
          obtain ⟨draining, rest, queued, rfl⟩ := WorkQueue.drain_cases drained
          have moves : Moves config.maxClients state.intake .drain _ _ := .drain draining queued
          exact held_of_transfer moves.transfer made
      | _ => cases made
  | accept runs _ _ _ =>
      cases made
      exact mem_held_of_listener (door_of_running sound runs).2
  | acceptFailed runs _ =>
      cases made
      exact mem_held_of_listener (door_of_running sound runs).2
  | acceptor _ _ _ moves => exact held_of_transfer moves.transfer made
  | worker _ moves => exact held_of_transfer moves.transfer made
  | _ => cases made

/-- A process that has returned has nothing open. -/
theorem held_of_returned {code : Nat} (sound : Sound state)
    (gone : state.main = .unwinding code []) : state.held = [] := by
  have returned := sound.idle gone
  obtain ⟨door, hatch, -, -, -⟩ := sound
  rw [gone] at door hatch
  have threads : state.intake.held = state.intake.acceptor.held :=
    Intake.across_idle _ _ rfl returned hatch.2.2
  have acceptor : state.intake.acceptor.held = [] := by
    rcases door.1 with ⟨-, here⟩ | ⟨-, here⟩ <;> rw [here] <;> rfl
  rw [Server.held, door.2, Intake.descriptorsHeld, threads, acceptor]
  rfl

/-- **Every socket is closed once.** Whatever the threads do, a call on a descriptor, of `main` or
of a thread, reaches the socket it was meant for, the listening one or a connection; nothing is
closed twice, and when `main` returns every socket that was opened has been closed. -/
theorem every_socket_closed_once {trace : List ServerTurn}
    (run : Run (server config) .boot trace state) :
    (∀ turn ∈ trace, ∀ descriptor, turn.output.on = some descriptor →
      ∃ one, descriptor = some one ∧ turn.before.intake.descriptors.Reaches one) ∧
    (closedSockets trace).Nodup ∧
    ∀ code, state.ended = some (.returned code) →
      (closedSockets trace).Perm (List.range state.intake.descriptors.opened) := by
  have custody := custody_of_run run
  refine ⟨fun turn member descriptor made => ?_, custody.nodup_closed, fun code ended => ?_⟩
  · obtain ⟨earlier, later, rfl⟩ := List.append_of_mem member
    obtain ⟨before, taken, -⟩ := run.cut
    obtain ⟨one, held, same⟩ :=
      held_of_turns (turns_of_step taken).2 (sound_of_run before) made
    exact ⟨one, same, (custody_of_run before).reaches one held⟩
  · have account := custody.account
    rw [held_of_returned (sound_of_run run) (returned_of_run run ended)] at account
    exact account

/-- The listening socket and the connection. -/
theorem every_socket_closed_once_two :
    (closedSockets (execTrace (server oneWorker) .boot wholeLife)).Perm [0, 1] := by
  have facts : (exec (server oneWorker) .boot wholeLife).isSome = true ∧
      (execFinal (server oneWorker) .boot wholeLife).ended = some (.returned 0) ∧
      (execFinal (server oneWorker) .boot wholeLife).intake.descriptors.opened = 2 := by
    decide +kernel
  obtain ⟨possible, ended, opened⟩ := facts
  have closed := (every_socket_closed_once (run_of_possible possible)).2.2 0 ended
  rw [opened] at closed
  exact closed

/-! ### The threads alone -/

/-- A connection, numbered without the listening socket, which is the first one opened. -/
def numbered (socket : AcceptedSocket) : AcceptedSocket :=
  { socket with object := socket.object - 1 }

def numberedAcceptor : Acceptor → Acceptor
  | .testing => .testing
  | .accepting => .accepting
  | .accepted socket => .accepted (numbered socket)
  | .loaded socket currentCount => .loaded (numbered socket) currentCount
  | .rejecting socket => .rejecting (numbered socket)
  | .passed socket => .passed (numbered socket)
  | .counted socket => .counted (numbered socket)
  | .returned => .returned

def numberedWorker : Worker → Worker
  | .waiting => .waiting
  | .handshake socket => .handshake (numbered socket)
  | .serving socket => .serving (numbered socket)
  | .closing socket => .closing (numbered socket)
  | .closed socket => .closed (numbered socket)
  | .returned => .returned

def numberedCall : Syscall → Syscall
  | .use socket => .use (numbered socket)
  | .close socket => .close (numbered socket)

/-- The descriptor table without the listening socket. -/
def connections (descriptors : Descriptors) : Descriptors where
  table fd := (descriptors.table fd).bind fun object =>
    if object = 0 then none else some (object - 1)
  opened := descriptors.opened - 1

/-- The threads as `intake` has them: the workers that are still to be spawned wait. -/
def behind (threads : Nat) (state : Intake) : Intake where
  descriptors := connections state.descriptors
  stopFlag := state.stopFlag
  acceptor := numberedAcceptor state.acceptor
  work := { state.work with queue := state.work.queue.map numbered }
  workers := state.workers.map numberedWorker ++
    List.replicate (threads - state.workers.length) .waiting
  activeConnections := state.activeConnections

section Refinement

variable {threads : Nat} {maxClients : UInt32}

theorem connections_close (descriptors : Descriptors) (fd : Nat) :
    connections (descriptors.close fd) = (connections descriptors).close fd := by
  unfold connections Descriptors.close
  congr 1
  funext other
  by_cases same : other = fd
  · subst same
    simp
  · simp [Function.update_of_ne same]

/-- A connection is opened behind the listening socket. -/
theorem connections_open {descriptors after : Descriptors} {fd : Nat} {descriptor : Descriptor}
    (opened : descriptors.openAt fd = some (descriptor, after)) (listens : 0 < descriptors.opened) :
    (connections descriptors).openAt fd =
      some ({ descriptor with object := descriptor.object - 1 }, connections after) := by
  obtain ⟨free, rfl, rfl⟩ := Descriptors.openAt_eq_some opened
  have here : (connections descriptors).table fd = none := by
    simp [connections, free]
  have table : Function.update (connections descriptors).table fd (some (descriptors.opened - 1)) =
      (connections ⟨Function.update descriptors.table fd (some descriptors.opened),
        descriptors.opened + 1⟩).table := by
    funext other
    by_cases same : other = fd
    · subst same
      simp [connections, listens.ne']
    · simp [connections, Function.update_of_ne same]
  have count : descriptors.opened - 1 + 1 = descriptors.opened + 1 - 1 := by omega
  rw [Descriptors.openAt, if_pos here]
  simp only [connections] at table ⊢
  rw [table, count]

theorem behind_worker {before : Intake} {index : Nat} {worker : Worker}
    (found : before.workers[index]? = some worker) :
    (behind threads before).workers[index]? = some (numberedWorker worker) := by
  obtain ⟨inside, rfl⟩ := List.getElem?_eq_some_iff.mp found
  rw [behind, List.getElem?_append_left (by rwa [List.length_map]), List.getElem?_map, found]
  rfl

theorem behind_put {before : Intake} {index : Nat} {worker : Worker}
    (found : before.workers[index]? = some worker) (moved : Worker) :
    behind threads (before.put index moved) =
      (behind threads before).put index (numberedWorker moved) := by
  obtain ⟨inside, -⟩ := List.getElem?_eq_some_iff.mp found
  simp only [behind, Intake.put]
  rw [List.set_append_left _ _ (by rwa [List.length_map]), List.map_set, List.length_set]

/-- **A step of a thread is a step of `intake`.** -/
theorem intake_behind {before after : Intake} {event : IntakeEvent} {call : Option Syscall}
    (moved : Moves maxClients before event call after)
    (listens : ∀ fd ip, event = .accept fd ip → 0 < before.descriptors.opened) :
    intake maxClients (behind threads before) event =
      some (call.map numberedCall, behind threads after) := by
  cases moved with
  | stopAcceptor => rfl
  | testFlag here =>
      cases flag : before.stopFlag <;>
        simp [intake, acceptLoop, behind, here, flag, numberedAcceptor]
  | accept here opened =>
      simp [intake, acceptLoop, behind, here, numberedAcceptor,
        connections_open opened (listens _ _ rfl), numbered]
  | @acceptFailed errno here =>
      cases flag : before.stopFlag <;> by_cases interrupted : errno = .eintr <;>
        simp [intake, acceptLoop, behind, here, flag, interrupted, numberedAcceptor]
  | load here => simp [intake, acceptLoop, behind, here, numberedAcceptor]
  | atCapacity here full => simp [intake, acceptLoop, behind, here, full, numberedAcceptor]
  | belowCapacity here free => simp [intake, acceptLoop, behind, here, free, numberedAcceptor]
  | reject here => simp [intake, acceptLoop, behind, here, numberedAcceptor, numberedCall]
  | rejectClose here =>
      simp [intake, acceptLoop, behind, here, numberedAcceptor, numberedCall, Intake.closed,
        connections_close, numbered]
  | fetchAdd here => simp [intake, acceptLoop, behind, here, numberedAcceptor]
  | enqueue here free open_ =>
      simp [intake, acceptLoop, behind, here, numberedAcceptor, WorkQueue.enqueue, free, open_]
  | enqueueClose here free stopped =>
      simp [intake, acceptLoop, behind, here, numberedAcceptor, numberedCall, WorkQueue.enqueue,
        free, stopped, Intake.closed, connections_close, numbered]
  | @dequeue worker socket rest found free queued =>
      let popped : Intake := { before with work := { before.work with queue := rest } }
      have work : (behind threads before).work.dequeue =
          some (some (numbered socket), (behind threads popped).work) := by
        simp [popped, behind, WorkQueue.dequeue, free, queued]
      have put := @behind_put threads popped worker .waiting found (.handshake socket)
      show _ = some (none, behind threads (popped.put worker (.handshake socket)))
      rw [put]
      simp only [intake, workerLoop, behind_worker found, work, numberedWorker]
      rfl
  | @dequeueNone worker found free empty stopped =>
      have work : (behind threads before).work.dequeue =
          some (none, (behind threads before).work) := by
        simp [behind, WorkQueue.dequeue, free, empty, stopped]
      show _ = some (none, behind threads (before.put worker .returned))
      rw [behind_put found]
      simp only [intake, workerLoop, behind_worker found, work, numberedWorker]
  | useWelcome found | useServing found =>
      simp only [intake, workerLoop, behind_worker found, numberedWorker]
      rfl
  | @welcomed worker sent socket found =>
      show _ = some (none, behind threads (before.put worker _))
      rw [behind_put found]
      simp only [intake, workerLoop, behind_worker found, numberedWorker]
      cases sent <;> rfl
  | @finished worker socket found =>
      show _ = some (none, behind threads (before.put worker (.closing socket)))
      rw [behind_put found]
      simp only [intake, workerLoop, behind_worker found, numberedWorker]
  | @close worker socket found =>
      have closed : behind threads ((before.put worker (.closed socket)).closed socket).2 =
          ((behind threads (before.put worker (.closed socket))).closed (numbered socket)).2 := by
        simp [behind, Intake.closed, connections_close, numbered]
      show _ = some (some (Syscall.close (numbered socket)),
        behind threads ((before.put worker (.closed socket)).closed socket).2)
      rw [closed, behind_put found]
      simp only [intake, workerLoop, behind_worker found, numberedWorker]
      rfl
  | @fetchSub worker socket found =>
      let counted : Intake := { before with activeConnections := before.activeConnections - 1 }
      have put := @behind_put threads counted worker (.closed socket) found .waiting
      show _ = some (none, behind threads (counted.put worker .waiting))
      rw [put]
      simp only [intake, workerLoop, behind_worker found, numberedWorker]
      rfl
  | stop free running => simp [intake, behind, WorkQueue.stop, free, running]
  | stopAgain free stopped => simp [intake, behind, WorkQueue.stop, free, stopped]
  | drain draining queued =>
      simp [intake, behind, WorkQueue.drain, draining, queued, Intake.closed, connections_close,
        numbered, numberedCall]
  | stopReturns draining empty => simp [intake, behind, WorkQueue.stopReturns, draining, empty]

/-- Nothing is opened before the listening socket, and the flag is not set before it serves. -/
structure First (state : Server) : Prop where
  absent : state.main.door = .absent → state.intake.descriptors.opened = 0
  calm : state.main.door = .absent ∨ state.main.door = .opened → state.intake.stopFlag = false
  listener : ∀ descriptor, state.listener = some descriptor → descriptor.object = 0

theorem first_acts (acts : Acts config state outcome effect next) (first : First state) :
    First next := by
  obtain ⟨absent, calm, listener⟩ := first
  cases acts with
  | construct here | constructed here | spawnFails here | spawned here _ | boots here =>
      exact ⟨fun _ => absent (by rw [here]; rfl), fun _ => calm (.inl (by rw [here]; rfl)),
        listener⟩
  | @stops code work here _ =>
      have before (again : Main.door (if work.draining then .draining code else afterQueue code) =
          .absent ∨ Main.door (if work.draining then .draining code else afterQueue code) =
            .opened) : state.main.door = .absent := by
        rw [here]
        cases code with
        | none => rfl
        | some code =>
            cases draining : work.draining <;> simp [draining, Main.door, afterQueue] at again
      exact ⟨fun again => absent (before (.inl again)), fun again => calm (.inl (before again)),
        listener⟩
  | @drained code _ here _ _ | @joins code _ here _ =>
      cases code with
      | none =>
          exact ⟨fun _ => absent (by rw [here]; rfl), fun _ => calm (.inl (by rw [here]; rfl)),
            listener⟩
      | some code =>
          exact ⟨(fun again => by cases again),
            fun again => by simp [Main.door, afterQueue] at again, listener⟩
  | spawn _ _ | drains _ _ | launchFails _ | returns _ | armFails _ | throws _ _ =>
      exact ⟨absent, calm, listener⟩
  | opens here opened =>
      obtain ⟨-, rfl, rfl⟩ := Descriptors.openAt_eq_some opened
      refine ⟨(fun again => by cases again), fun _ => calm (.inl (by rw [here]; rfl)),
        fun descriptor same => ?_⟩
      cases same
      exact absent (by rw [here]; rfl)
  | @setup step here other =>
      have before : state.main.door = .opened := by
        rw [here]
        cases step with
        | socket => exact absurd rfl other
        | setsockopt | bind | listen => rfl
      refine ⟨fun again => ?_, fun _ => calm (.inr before), listener⟩
      cases step with
      | socket => exact absurd rfl other
      | setsockopt | bind | listen => cases again
  | announces here =>
      exact ⟨(fun again => by cases again), fun _ => calm (.inr (by rw [here]; rfl)), listener⟩
  | clears _ => exact ⟨(fun again => by cases again), fun _ => rfl, listener⟩
  | @resets code _ _ _ =>
      cases code <;>
        exact ⟨(fun again => by cases again),
          fun again => by simp [Main.door, afterStop, objects] at again,
          fun _ same => by cases same⟩
  | @resetsNothing code _ _ | @flags code _ | @shuts code _ _ _ | @shutsNothing code _ _
  | @joinsAcceptor code _ _ _ | @joinsNothing code _ _ =>
      cases code <;>
        exact ⟨(fun again => by cases again),
          fun again => by simp [Main.door, afterStop, objects] at again, listener⟩
  | destroys _ _ _ | refuses _ | completes _ | joined _ _ =>
      refine ⟨fun again => ?_, fun again => ?_, listener⟩ <;> simp only [Main.door] at again <;>
        split_ifs at again <;> simp at again
  | _ =>
      exact ⟨(fun again => by cases again),
        fun again => by simp [Main.door] at again, listener⟩

theorem first_of_run {trace : List ServerTurn} (run : Run (server config) .boot trace state) :
    First state := by
  induction run with
  | nil => exact ⟨fun _ => rfl, fun _ => rfl, nofun⟩
  | @snoc trace state next event effect before taken first =>
      -- the threads open connections only
      have thread {inner : IntakeEvent} {call : Option Syscall} {moved : Intake}
          (moves : Moves config.maxClients state.intake inner call moved)
          (other : ∀ fd ip, inner ≠ .accept fd ip)
          (flag : moved.stopFlag = state.intake.stopFlag) :
          First { state with intake := moved } := by
        have same : moved.descriptors.opened = state.intake.descriptors.opened := by
          cases moves with
          | accept _ _ => exact absurd rfl (other _ _)
          | _ => rfl
        exact ⟨fun absent => same.trans (first.absent absent),
          fun calm => flag.trans (first.calm calm), first.listener⟩
      cases (turns_of_step taken).2 with
      | main acts => exact first_acts acts first
      | accept runs _ _ _ =>
          obtain ⟨door, -⟩ := door_of_running (sound_of_run before) runs
          have serving : state.main.door ≠ .absent ∧ state.main.door ≠ .opened := by
            rcases door with same | same | same <;> rw [same] <;> simp
          exact ⟨fun absent => absurd absent serving.1,
            fun calm => (calm.elim serving.1 serving.2).elim, first.listener⟩
      | acceptFailed _ moves =>
          exact thread moves (fun _ _ => nofun) (acceptor_keeps moves rfl).2.1
      | acceptor _ mine other moves => exact thread moves other (acceptor_keeps moves mine).2.1
      | @worker inner _ _ mine moves =>
          refine thread moves (fun fd ip same => ?_) (worker_keeps moves mine).2.1
          subst same
          cases mine
      | _ => exact ⟨first.absent, first.calm, first.listener⟩

/-- The step of `intake` a step is, if it is one: that of a thread, or of `main` where it stops
them. -/
def intakeEvent (before : Server) : ServerEvent → Option IntakeEvent
  | .acceptor event | .worker event => some event
  | .main _ =>
      match before.main with
      | .flagging _ => some .stopAcceptor
      | .stopping _ => some .stop
      | .draining _ => some (if before.intake.work.queue = [] then .stopReturns else .drain)
      | _ => none
  | _ => none

/-- The call on a connection. -/
def connectionCall : Effect → Option Syscall
  | .client call => some (numberedCall call)
  | _ => none

def intakeMove (threads : Nat) (turn : ServerTurn) : Option IntakeTurn :=
  (intakeEvent turn.before turn.event).map fun event =>
    ⟨behind threads turn.before.intake, event, connectionCall turn.output,
      behind threads turn.after.intake⟩

theorem connectionCall_of (call : Option Syscall) :
    connectionCall (.of call) = call.map numberedCall := by
  cases call <;> rfl

/-- A worker that is spawned was there, waiting. -/
theorem behind_spawn {before : Intake} (more : before.workers.length < threads) :
    behind threads { before with workers := before.workers ++ [.waiting] } =
      behind threads before := by
  have count : threads - before.workers.length =
      threads - (before.workers.length + 1) + 1 := by omega
  simp only [behind, List.map_append, List.length_append, List.length_singleton, List.append_assoc,
    List.map_cons, List.map_nil, count, List.replicate_succ]
  rfl

/-- The listening socket is opened. -/
theorem connections_listen {descriptors after : Descriptors} {fd : Nat} {descriptor : Descriptor}
    (opened : descriptors.openAt fd = some (descriptor, after)) (none : descriptors.opened = 0) :
    connections after = connections descriptors := by
  obtain ⟨free, rfl, rfl⟩ := Descriptors.openAt_eq_some opened
  unfold connections
  congr 1
  · funext other
    by_cases same : other = fd
    · subst same
      simp [none, free]
    · simp [Function.update_of_ne same]
  · show descriptors.opened + 1 - 1 = descriptors.opened - 1
    omega

/-- It is closed. -/
theorem connections_unlisten {descriptors : Descriptors} {fd : Nat}
    (listens : descriptors.table fd = some 0) :
    connections (descriptors.close fd) = connections descriptors := by
  have gone : (connections descriptors).table fd = none := by simp [connections, listens]
  rw [connections_close]
  unfold Descriptors.close
  rw [← gone, Function.update_eq_self]

/-- **A step of `main`** is one of `intake`, or is not seen by the threads. -/
theorem main_behind (acts : Acts config state outcome effect next) (first : First state)
    (custody : ∀ descriptor, state.listener = some descriptor →
      state.intake.descriptors.Reaches descriptor) :
    match intakeEvent state (.main outcome) with
    | none => behind config.threadPoolSize.toNat next.intake =
        behind config.threadPoolSize.toNat state.intake
    | some event =>
        intake config.maxClients (behind config.threadPoolSize.toNat state.intake) event =
          some (connectionCall effect, behind config.threadPoolSize.toNat next.intake) := by
  cases acts with
  | spawn here more =>
      simp only [intakeEvent, here]
      exact behind_spawn more
  | opens here opened =>
      simp only [intakeEvent, here, behind,
        connections_listen opened (first.absent (by rw [here]; rfl))]
  | clears here =>
      have calm := first.calm (.inr (by rw [here]; rfl))
      simp only [intakeEvent, here, behind, calm]
  | flags here =>
      simp only [intakeEvent, here]
      rfl
  | @resets _ descriptor here listens =>
      have reaches := custody descriptor listens
      rw [Descriptors.Reaches, first.listener descriptor listens] at reaches
      simp only [intakeEvent, here, behind, connections_unlisten reaches]
  | stops here stopped =>
      simp only [intakeEvent, here]
      obtain ⟨free, ⟨again, rfl⟩ | ⟨running, rfl⟩⟩ := WorkQueue.stop_cases stopped
      · exact intake_behind (.stopAgain free again) (by simp)
      · exact intake_behind (.stop free running) (by simp)
  | drains here drained =>
      obtain ⟨draining, rest, queued, rfl⟩ := WorkQueue.drain_cases drained
      simp only [intakeEvent, here, queued, List.cons_ne_nil, if_false]
      exact intake_behind (.drain draining queued) (by simp)
  | drained here _ returned =>
      obtain ⟨⟨draining, empty⟩, same⟩ := Option.ite_none_right_eq_some.mp returned
      cases same
      simp only [intakeEvent, here, if_pos empty]
      exact intake_behind (.stopReturns draining empty) (by simp)
  | construct here | constructed here | spawnFails here | spawned here _ | boots here
  | setup here _ | openFails here | setupFails here _ | announces here | launches here
  | launchFails here | fails here | refuses here | readies here | goesOn here _ | leaves here _
  | wakes here | loads here | reports here | shuts here _ | shutsNothing here _
  | joinsAcceptor here _ _ | joinsNothing here _ | resetsNothing here _ | completes here
  | destroysAcceptor here | destroysPool here | destroys here _ _ | returns here | arms here
  | armFails here | joins here _ | joined here _ | throws here _ =>
      simp only [intakeEvent, here]

/-- **`main` and its threads refine the threads alone.** A run of the process is, without `main`
and the listening socket, a run of `intake` with as many workers as are configured: that these are
spawned one by one, that the acceptor is started later, that it is stopped before the queue, and
that the listening socket has a number of its own, is nothing the threads can see. -/
theorem server_refines_intake {trace : List ServerTurn}
    (run : Run (server config) .boot trace state) :
    Run (intake config.maxClients) (.boot config.threadPoolSize.toNat)
      (trace.filterMap (intakeMove config.threadPoolSize.toNat))
      (behind config.threadPoolSize.toNat state.intake) := by
  induction run with
  | nil => exact .nil
  | @snoc trace state next event effect before taken ih =>
      rw [filterMap_concat]
      have listens (descriptor : Descriptor) (same : state.listener = some descriptor) :
          state.intake.descriptors.Reaches descriptor := by
        refine (custody_of_run before).reaches descriptor ?_
        rw [Server.held, same]
        exact List.mem_cons_self
      cases (turns_of_step taken).2 with
      | main acts =>
          have seen := main_behind acts (first_of_run before) listens
          rw [intakeMove]
          cases moved : intakeEvent state (.main _) with
          | none =>
              rw [moved] at seen
              simp only [Option.map_none, Option.toList_none, List.append_nil]
              exact seen ▸ ih
          | some inner =>
              rw [moved] at seen
              simp only [Option.map_some, Option.toList_some]
              exact ih.snoc seen
      | accept runs _ _ moves =>
          refine ih.snoc (intake_behind moves fun _ _ _ => ?_)
          obtain ⟨one, held, -⟩ :=
            mem_held_of_listener (door_of_running (sound_of_run before) runs).2
          have numbers := (custody_of_run before).account.mem_iff.mp
            (List.mem_append_left _ (List.mem_map_of_mem held))
          exact (Nat.zero_le _).trans_lt (List.mem_range.mp numbers)
      | acceptFailed _ moves => exact ih.snoc (intake_behind moves nofun)
      | acceptor _ _ other moves =>
          have stepped := @intake_behind config.threadPoolSize.toNat _ _ _ _ _ moves
            fun fd ip same => absurd same (other fd ip)
          rw [← connectionCall_of] at stepped
          exact ih.snoc stepped
      | @worker inner call moved mine moves =>
          have stepped := @intake_behind config.threadPoolSize.toNat _ _ _ _ _ moves
            fun fd ip same => by
              subst same
              cases mine
          rw [← connectionCall_of] at stepped
          exact ih.snoc stepped
      | storeSignal | storeRunning _ | pass | expire _ _ => exact (List.append_nil _).symm ▸ ih

theorem server_refines_intake_whole :
    Run (intake 10) (.boot 1)
      ((execTrace (server oneWorker) .boot wholeLife).filterMap (intakeMove 1))
      (behind 1 (execFinal (server oneWorker) .boot wholeLife).intake) := by
  have possible : (exec (server oneWorker) .boot wholeLife).isSome = true := by decide +kernel
  exact server_refines_intake (run_of_possible possible)

end Refinement

end ExodusOps.Lifecycle
