/-
**The life of the process.**

`main`, from the moment its signal handlers are installed: it constructs its objects one after the
other, the thread pool with its workers and the acceptor with its listening socket, waits for a
signal, stops the acceptor and returns; then the objects are destroyed in the opposite order, and
with them the acceptor is stopped once more, the queue is emptied, the watchdog set off and the
workers joined. A step is one of `main`, of a signal handler, of the thread of `acceptLoop`, of a
worker, of the watchdog or of the clock. The steps of the threads are those of `intake`, on one
descriptor table with the listening socket.

* `turns_of_step` — what a step can do.
* `sound_of_run` — **what is true where `main` is**: of the acceptor's thread and its socket, of the
  queue and of the workers, whatever the threads have done in between.
-/

import ExodusOps.Server.Config
import ExodusOps.Server.Sockets
import ExodusOps.Server.Watchdog
import Mathlib.Data.List.Infix

namespace ExodusOps.Lifecycle

open ServerConfig (Fields)
open MessageSerializer (Errno)

/-! ### What `main` has and says -/

/-- The objects of `main` with which the threads have to do. -/
inductive Object where
  | logger | config | registry | sessionManager | activeConnections | workQueue | connectionWorker
  | threadPool | acceptor
  deriving DecidableEq, Repr

/-- In the order in which they are destroyed. -/
def objects : List Object :=
  [.acceptor, .threadPool, .connectionWorker, .workQueue, .activeConnections, .sessionManager,
    .registry, .config, .logger]

inductive Signal where
  | sigint | sigterm
  deriving DecidableEq, Repr

/-- The calls of `SocketAcceptor::start`. -/
inductive Setup where
  | socket | setsockopt | bind | listen
  deriving DecidableEq, Repr

/-- The calls on the listening socket. -/
inductive Call where
  | setup (step : Setup)
  | accept
  | shutdown
  deriving DecidableEq, Repr

/-- What `main` and `start` write. -/
inductive Line where
  | booting
  | setupFailed (step : Setup) (errno : Errno)
  | listening
  | bindFailed
  | ready
  | shutdownInitiated (signal : Option Signal)
  | shutdownComplete
  deriving DecidableEq, Repr

/-! ### The state -/

/-- Where `main` is. An exit code goes with what is done in a destructor; in `stopping`, `draining`
and `joining` there is none if the constructor of the pool has failed. -/
inductive Main where
  | constructing (built todo : List Object)
  /-- In the constructor of the pool. -/
  | spawning
  | booting
  -- `SocketAcceptor::start`
  | setup (step : Setup)
  | announcing
  | clearing
  | launching
  | failing (line : Line)
  /-- `start` has returned false. -/
  | refused
  | readying
  -- the loop
  | testing
  | sleeping
  | loading
  | reporting (signal : Option Signal)
  -- `SocketAcceptor::stop`
  | flagging (code : Option Nat)
  | shutting (code : Option Nat)
  | awaiting (code : Option Nat)
  | resetting (code : Option Nat)
  | completing
  /-- `main` has returned; the objects that are left. -/
  | unwinding (code : Nat) (left : List Object)
  -- `ThreadPool::shutdown`
  | stopping (code : Option Nat)
  | draining (code : Option Nat)
  | arming (code : Nat)
  | joining (code : Option Nat) (index : Nat)
  deriving DecidableEq, Repr

/-- `m_acceptThread`. -/
inductive Launch where
  | unborn | running | joined
  deriving DecidableEq, Repr

inductive Ending where
  | returned (code : Nat)
  /-- `std::terminate`: there was no thread to be had. -/
  | aborted
  /-- The watchdog has called `_Exit(0)`. -/
  | exited
  deriving DecidableEq, Repr

structure Server where
  intake : Intake
  main : Main
  /-- `m_listenFd`. -/
  listener : Option Descriptor
  /-- `shutdown` has been called on the listening socket. -/
  shut : Bool
  thread : Launch
  /-- `g_signal_received`. -/
  signal : Option Signal
  /-- `g_running`. -/
  running : Bool
  /-- The signal handlers between their two stores. -/
  handlers : Nat
  now : Nat
  watchdog : Option Nat
  ended : Option Ending

/-- The signal handlers have just been installed. -/
def Server.boot : Server where
  intake := .boot 0
  main := .constructing [.logger]
    [.config, .registry, .sessionManager, .activeConnections, .workQueue, .connectionWorker]
  listener := none
  shut := false
  thread := .unborn
  signal := none
  running := true
  handlers := 0
  now := 0
  watchdog := none
  ended := none

/-- The objects that are alive. The workers are spawned by a pool whose members are. -/
def Main.alive : Main → List Object
  | .constructing built _ => built
  | .spawning | .booting | .stopping _ | .draining _ | .arming _ | .joining _ _ => objects.tail
  | .unwinding _ left => left
  | _ => objects

/-! ### Steps -/

/-- How a call of `main` ends. -/
inductive Outcome where
  | done
  | opened (fd : Nat)
  | failed (errno : Errno)
  deriving DecidableEq, Repr

inductive ServerEvent where
  | main (outcome : Outcome)
  | acceptor (event : IntakeEvent)
  | worker (event : IntakeEvent)
  -- `signalHandler`
  | storeSignal (signal : Signal)
  | storeRunning
  | pass (elapsed : Nat)
  /-- The watchdog has slept long enough. -/
  | expire
  deriving DecidableEq, Repr

inductive Effect where
  | nothing
  | client (call : Syscall)
  | opens (descriptor : Descriptor)
  | listener (call : Call) (descriptor : Option Descriptor)
  | closes (descriptor : Descriptor)
  | writes (line : Line)
  deriving DecidableEq, Repr

def Effect.of : Option Syscall → Effect
  | none => .nothing
  | some call => .client call

/-- A step of `acceptLoop` and `onAccept`. -/
def ofAcceptor : IntakeEvent → Bool
  | .testFlag | .accept _ _ | .acceptFailed _ | .load | .compare | .reject | .rejectClose
  | .fetchAdd | .enqueue => true
  | _ => false

/-- A step of `workerLoop`. -/
def ofWorker : IntakeEvent → Bool
  | .dequeue _ | .use _ | .welcomed _ _ | .finished _ | .close _ | .fetchSub _ => true
  | _ => false

/-- What `start` does next. -/
def Setup.next : Setup → Main
  | .socket => .setup .setsockopt
  | .setsockopt => .setup .bind
  | .bind => .setup .listen
  | .listen => .announcing

/-- Behind `stop` of the acceptor: in `main`, or at the end of its destructor. -/
def afterStop : Option Nat → Main
  | none => .completing
  | some code => .unwinding code objects.tail

/-- Behind `stop` of the queue: in the constructor of the pool, or in `shutdown`. -/
def afterQueue : Option Nat → Main
  | none => .joining none 0
  | some code => .arming code

/-- `main` goes on. -/
def Server.goes (state : Server) (place : Main) : Option (Effect × Server) :=
  some (.nothing, { state with main := place })

/-- `main` does something and goes on. -/
def Server.acts (state : Server) (effect : Effect) (place : Main) : Option (Effect × Server) :=
  some (effect, { state with main := place })

section Step

variable (config : Fields)

/-- **A step of `main`.** -/
def mainStep (state : Server) (outcome : Outcome) : Option (Effect × Server) :=
  match state.main, outcome with
  | .constructing built (object :: todo), .done => state.goes (.constructing (object :: built) todo)
  | .constructing _ [], .done => state.goes .spawning
  | .spawning, .done =>
      if state.intake.workers.length < config.threadPoolSize.toNat then
        some (.nothing, { state with intake := { state.intake with
          workers := state.intake.workers ++ [.waiting] } })
      else state.goes .booting
  | .spawning, .failed _ =>
      if state.intake.workers.length < config.threadPoolSize.toNat then
        state.goes (.stopping none)
      else none
  | .booting, .done => state.acts (.writes .booting) (.setup .socket)
  | .setup .socket, .opened fd =>
      (state.intake.descriptors.openAt fd).map fun (descriptor, descriptors) =>
        (.opens descriptor, { state with
          intake := { state.intake with descriptors }
          listener := some descriptor
          main := Setup.socket.next })
  | .setup .socket, .done => none
  | .setup step, .done => state.acts (.listener (.setup step) state.listener) step.next
  | .setup .socket, .failed errno => state.goes (.failing (.setupFailed .socket errno))
  | .setup step, .failed errno =>
      state.acts (.listener (.setup step) state.listener) (.failing (.setupFailed step errno))
  | .announcing, .done => state.acts (.writes .listening) .clearing
  | .clearing, .done =>
      some (.nothing, { state with
        intake := { state.intake with stopFlag := false }, main := .launching })
  | .launching, .done => some (.nothing, { state with thread := .running, main := .readying })
  | .launching, .failed _ => some (.nothing, { state with ended := some .aborted })
  | .failing line, .done => state.acts (.writes line) .refused
  | .refused, .done => state.acts (.writes .bindFailed) (.unwinding 1 objects)
  | .readying, .done => state.acts (.writes .ready) .testing
  | .testing, .done => state.goes (if state.running then .sleeping else .loading)
  | .sleeping, .done => state.goes .testing
  | .loading, .done => state.goes (.reporting state.signal)
  | .reporting signal, .done =>
      state.acts (.writes (.shutdownInitiated signal)) (.flagging none)
  | .flagging code, .done =>
      some (.nothing, { state with
        intake := { state.intake with stopFlag := true }, main := .shutting code })
  | .shutting code, .done =>
      match state.listener with
      | some descriptor => some (.listener .shutdown (some descriptor),
          { state with shut := true, main := .awaiting code })
      | none => state.goes (.awaiting code)
  | .awaiting code, .done =>
      match state.thread with
      | .running =>
          if state.intake.acceptor = .returned then
            some (.nothing, { state with thread := .joined, main := .resetting code })
          else none
      | _ => state.goes (.resetting code)
  | .resetting code, .done =>
      match state.listener with
      | some descriptor => some (.closes descriptor, { state with
          intake := { state.intake with
            descriptors := state.intake.descriptors.close descriptor.fd }
          listener := none
          main := afterStop code })
      | none => state.goes (afterStop code)
  | .completing, .done => state.acts (.writes .shutdownComplete) (.unwinding 0 objects)
  | .unwinding code (.acceptor :: _), .done => state.goes (.flagging (some code))
  | .unwinding code (.threadPool :: _), .done => state.goes (.stopping (some code))
  | .unwinding code (_ :: left), .done => state.goes (.unwinding code left)
  | .unwinding code [], .done => some (.nothing, { state with ended := some (.returned code) })
  | .stopping code, .done =>
      state.intake.work.stop.map fun work => (.nothing, { state with
        intake := { state.intake with work }
        main := if work.draining then .draining code else afterQueue code })
  | .draining code, .done =>
      match state.intake.work.drain with
      | some (socket, work) => some (.client (.close socket), { state with
          intake := { state.intake with
            work, descriptors := state.intake.descriptors.close socket.fd } })
      | none => state.intake.work.stopReturns.map fun work => (.nothing, { state with
          intake := { state.intake with work }, main := afterQueue code })
  | .arming code, .done =>
      some (.nothing, { state with watchdog := some state.now, main := .joining (some code) 0 })
  | .arming _, .failed _ => some (.nothing, { state with ended := some .aborted })
  | .joining code index, .done =>
      match state.intake.workers[index]?, code with
      | some .returned, _ => state.goes (.joining code (index + 1))
      | some _, _ => none
      | none, some code => state.goes (.unwinding code (objects.drop 2))
      | none, none => some (.nothing, { state with ended := some .aborted })
  | _, _ => none

/-- A step of the thread of `acceptLoop`. A socket on which `shutdown` has been called accepts
nothing. -/
def acceptorStep (state : Server) (event : IntakeEvent) : Option (Effect × Server) :=
  if state.thread = .running ∧ ofAcceptor event = true then
    match event with
    | .accept _ _ =>
        if state.listener = none ∨ state.shut = true then none
        else (intake config.maxClients state.intake event).map fun (_, moved) =>
          (.listener .accept state.listener, { state with intake := moved })
    | .acceptFailed _ =>
        (intake config.maxClients state.intake event).map fun (_, moved) =>
          (.listener .accept state.listener, { state with intake := moved })
    | _ =>
        (intake config.maxClients state.intake event).map fun (call, moved) =>
          (.of call, { state with intake := moved })
  else none

/-- **One step.** -/
def server (state : Server) (event : ServerEvent) : Option (Effect × Server) :=
  if state.ended = none then
    match event with
    | .main outcome => mainStep config state outcome
    | .acceptor event => acceptorStep config state event
    | .worker event =>
        if ofWorker event then
          (intake config.maxClients state.intake event).map fun (call, moved) =>
            (.of call, { state with intake := moved })
        else none
    | .storeSignal signal =>
        some (.nothing, { state with signal := some signal, handlers := state.handlers + 1 })
    | .storeRunning =>
        if state.handlers = 0 then none
        else some (.nothing, { state with running := false, handlers := state.handlers - 1 })
    | .pass elapsed => some (.nothing, { state with now := state.now + elapsed })
    | .expire =>
        match state.watchdog with
        | some since =>
            if since + ThreadPool.gracefulShutdownTimeout ≤ state.now then
              some (.nothing, { state with ended := some .exited })
            else none
        | none => none
  else none

/-! ### Inversion -/

/-- **What a step of `main` does.** -/
inductive Acts (state : Server) : Outcome → Effect → Server → Prop where
  | construct {object : Object} {built todo : List Object} :
      state.main = .constructing built (object :: todo) →
        Acts state .done .nothing { state with main := .constructing (object :: built) todo }
  | constructed {built : List Object} : state.main = .constructing built [] →
      Acts state .done .nothing { state with main := .spawning }
  | spawn : state.main = .spawning →
      state.intake.workers.length < config.threadPoolSize.toNat →
        Acts state .done .nothing { state with intake := { state.intake with
          workers := state.intake.workers ++ [.waiting] } }
  | spawnFails {errno : Errno} : state.main = .spawning →
      Acts state (.failed errno) .nothing { state with main := .stopping none }
  | spawned : state.main = .spawning →
      ¬ state.intake.workers.length < config.threadPoolSize.toNat →
        Acts state .done .nothing { state with main := .booting }
  | boots : state.main = .booting →
      Acts state .done (.writes .booting) { state with main := .setup .socket }
  | opens {fd : Nat} {descriptor : Descriptor} {descriptors : Descriptors} :
      state.main = .setup .socket →
      state.intake.descriptors.openAt fd = some (descriptor, descriptors) →
        Acts state (.opened fd) (.opens descriptor) { state with
          intake := { state.intake with descriptors }
          listener := some descriptor
          main := .setup .setsockopt }
  | setup {step : Setup} : state.main = .setup step → step ≠ .socket →
      Acts state .done (.listener (.setup step) state.listener) { state with main := step.next }
  | openFails {errno : Errno} : state.main = .setup .socket →
      Acts state (.failed errno) .nothing
        { state with main := .failing (.setupFailed .socket errno) }
  | setupFails {step : Setup} {errno : Errno} : state.main = .setup step → step ≠ .socket →
      Acts state (.failed errno) (.listener (.setup step) state.listener)
        { state with main := .failing (.setupFailed step errno) }
  | announces : state.main = .announcing →
      Acts state .done (.writes .listening) { state with main := .clearing }
  | clears : state.main = .clearing →
      Acts state .done .nothing { state with
        intake := { state.intake with stopFlag := false }, main := .launching }
  | launches : state.main = .launching →
      Acts state .done .nothing { state with thread := .running, main := .readying }
  | launchFails {errno : Errno} : state.main = .launching →
      Acts state (.failed errno) .nothing { state with ended := some .aborted }
  | fails {line : Line} : state.main = .failing line →
      Acts state .done (.writes line) { state with main := .refused }
  | refuses : state.main = .refused →
      Acts state .done (.writes .bindFailed) { state with main := .unwinding 1 objects }
  | readies : state.main = .readying →
      Acts state .done (.writes .ready) { state with main := .testing }
  | goesOn : state.main = .testing → state.running = true →
      Acts state .done .nothing { state with main := .sleeping }
  | leaves : state.main = .testing → state.running = false →
      Acts state .done .nothing { state with main := .loading }
  | wakes : state.main = .sleeping →
      Acts state .done .nothing { state with main := .testing }
  | loads : state.main = .loading →
      Acts state .done .nothing { state with main := .reporting state.signal }
  | reports {signal : Option Signal} : state.main = .reporting signal →
      Acts state .done (.writes (.shutdownInitiated signal)) { state with main := .flagging none }
  | flags {code : Option Nat} : state.main = .flagging code →
      Acts state .done .nothing { state with
        intake := { state.intake with stopFlag := true }, main := .shutting code }
  | shuts {code : Option Nat} {descriptor : Descriptor} : state.main = .shutting code →
      state.listener = some descriptor →
        Acts state .done (.listener .shutdown (some descriptor))
          { state with shut := true, main := .awaiting code }
  | shutsNothing {code : Option Nat} : state.main = .shutting code → state.listener = none →
      Acts state .done .nothing { state with main := .awaiting code }
  | joinsAcceptor {code : Option Nat} : state.main = .awaiting code → state.thread = .running →
      state.intake.acceptor = .returned →
        Acts state .done .nothing { state with thread := .joined, main := .resetting code }
  | joinsNothing {code : Option Nat} : state.main = .awaiting code → state.thread ≠ .running →
      Acts state .done .nothing { state with main := .resetting code }
  | resets {code : Option Nat} {descriptor : Descriptor} : state.main = .resetting code →
      state.listener = some descriptor →
        Acts state .done (.closes descriptor) { state with
          intake := { state.intake with
            descriptors := state.intake.descriptors.close descriptor.fd }
          listener := none
          main := afterStop code }
  | resetsNothing {code : Option Nat} : state.main = .resetting code → state.listener = none →
      Acts state .done .nothing { state with main := afterStop code }
  | completes : state.main = .completing →
      Acts state .done (.writes .shutdownComplete) { state with main := .unwinding 0 objects }
  | destroysAcceptor {code : Nat} {left : List Object} :
      state.main = .unwinding code (.acceptor :: left) →
        Acts state .done .nothing { state with main := .flagging (some code) }
  | destroysPool {code : Nat} {left : List Object} :
      state.main = .unwinding code (.threadPool :: left) →
        Acts state .done .nothing { state with main := .stopping (some code) }
  | destroys {code : Nat} {object : Object} {left : List Object} :
      state.main = .unwinding code (object :: left) → object ≠ .acceptor →
      object ≠ .threadPool →
        Acts state .done .nothing { state with main := .unwinding code left }
  | returns {code : Nat} : state.main = .unwinding code [] →
      Acts state .done .nothing { state with ended := some (.returned code) }
  | stops {code : Option Nat} {work : WorkQueue} : state.main = .stopping code →
      state.intake.work.stop = some work →
        Acts state .done .nothing { state with
          intake := { state.intake with work }
          main := if work.draining then .draining code else afterQueue code }
  | drains {code : Option Nat} {socket : AcceptedSocket} {work : WorkQueue} :
      state.main = .draining code → state.intake.work.drain = some (socket, work) →
        Acts state .done (.client (.close socket)) { state with
          intake := { state.intake with
            work, descriptors := state.intake.descriptors.close socket.fd } }
  | drained {code : Option Nat} {work : WorkQueue} : state.main = .draining code →
      state.intake.work.drain = none → state.intake.work.stopReturns = some work →
        Acts state .done .nothing { state with
          intake := { state.intake with work }, main := afterQueue code }
  | arms {code : Nat} : state.main = .arming code →
      Acts state .done .nothing
        { state with watchdog := some state.now, main := .joining (some code) 0 }
  | armFails {code : Nat} {errno : Errno} : state.main = .arming code →
      Acts state (.failed errno) .nothing { state with ended := some .aborted }
  | joins {code : Option Nat} {index : Nat} : state.main = .joining code index →
      state.intake.workers[index]? = some .returned →
        Acts state .done .nothing { state with main := .joining code (index + 1) }
  | joined {code index : Nat} : state.main = .joining (some code) index →
      state.intake.workers[index]? = none →
        Acts state .done .nothing { state with main := .unwinding code (objects.drop 2) }
  | throws {index : Nat} : state.main = .joining none index →
      state.intake.workers[index]? = none →
        Acts state .done .nothing { state with ended := some .aborted }

variable {config} {state next : Server} {effect : Effect}

theorem acts_of_step {outcome : Outcome}
    (taken : mainStep config state outcome = some (effect, next)) :
    Acts config state outcome effect next := by
  unfold mainStep Server.goes Server.acts at taken
  split at taken
  next built object todo here => cases taken; exact .construct here
  next built here => cases taken; exact .constructed here
  next here =>
    split_ifs at taken with more
    · cases taken; exact .spawn here more
    · cases taken; exact .spawned here more
  next errno here =>
    split_ifs at taken
    cases taken
    exact .spawnFails here
  next here => cases taken; exact .boots here
  next fd here =>
    obtain ⟨⟨descriptor, descriptors⟩, opened, same⟩ := Option.map_eq_some_iff.mp taken
    cases same
    exact .opens here opened
  next => cases taken
  next step other here => cases taken; exact .setup here (fun same => other same)
  next errno here => cases taken; exact .openFails here
  next step errno other here => cases taken; exact .setupFails here (fun same => other same)
  next here => cases taken; exact .announces here
  next here => cases taken; exact .clears here
  next here => cases taken; exact .launches here
  next errno here => cases taken; exact .launchFails here
  next line here => cases taken; exact .fails here
  next here => cases taken; exact .refuses here
  next here => cases taken; exact .readies here
  next here =>
    by_cases running : state.running = true
    · rw [if_pos running] at taken
      cases taken
      exact .goesOn here running
    · rw [if_neg running] at taken
      cases taken
      exact .leaves here (Bool.eq_false_of_not_eq_true running)
  next here => cases taken; exact .wakes here
  next here => cases taken; exact .loads here
  next signal here => cases taken; exact .reports here
  next code here => cases taken; exact .flags here
  next code here =>
    split at taken
    next descriptor listens => cases taken; exact .shuts here listens
    next listens => cases taken; exact .shutsNothing here listens
  next code here =>
    split at taken
    next runs =>
      split_ifs at taken with returned
      cases taken
      exact .joinsAcceptor here runs returned
    next other => cases taken; exact .joinsNothing here other
  next code here =>
    split at taken
    next descriptor listens => cases taken; exact .resets here listens
    next listens => cases taken; exact .resetsNothing here listens
  next here => cases taken; exact .completes here
  next code left here => cases taken; exact .destroysAcceptor here
  next code left here => cases taken; exact .destroysPool here
  next code object left notAcceptor notPool here =>
    cases taken
    exact .destroys here notAcceptor notPool
  next code here => cases taken; exact .returns here
  next code here =>
    obtain ⟨work, stopped, same⟩ := Option.map_eq_some_iff.mp taken
    cases same
    exact .stops here stopped
  next code here =>
    split at taken
    next socket work drained => cases taken; exact .drains here drained
    next empty =>
      obtain ⟨work, returned, same⟩ := Option.map_eq_some_iff.mp taken
      cases same
      exact .drained here empty returned
  next code here => cases taken; exact .arms here
  next code errno here => cases taken; exact .armFails here
  next code index here =>
    split at taken
    next returned => cases taken; exact .joins here returned
    next => cases taken
    next code gone => cases taken; exact .joined here gone
    next gone => cases taken; exact .throws here gone
  next => cases taken

variable (config) in
/-- **What a step does.** -/
inductive Turns (state : Server) : ServerEvent → Effect → Server → Prop where
  | main {outcome : Outcome} {effect : Effect} {next : Server} :
      Acts config state outcome effect next → Turns state (.main outcome) effect next
  | accept {fd : Nat} {ip : Bytes} {moved : Intake} : state.thread = .running →
      state.listener ≠ none → state.shut = false →
      Moves config.maxClients state.intake (.accept fd ip) none moved →
        Turns state (.acceptor (.accept fd ip)) (.listener .accept state.listener)
          { state with intake := moved }
  | acceptFailed {errno : Errno} {moved : Intake} : state.thread = .running →
      Moves config.maxClients state.intake (.acceptFailed errno) none moved →
        Turns state (.acceptor (.acceptFailed errno)) (.listener .accept state.listener)
          { state with intake := moved }
  | acceptor {event : IntakeEvent} {call : Option Syscall} {moved : Intake} :
      state.thread = .running → ofAcceptor event = true →
      (∀ fd ip, event ≠ .accept fd ip) → Moves config.maxClients state.intake event call moved →
        Turns state (.acceptor event) (.of call) { state with intake := moved }
  | worker {event : IntakeEvent} {call : Option Syscall} {moved : Intake} :
      ofWorker event = true → Moves config.maxClients state.intake event call moved →
        Turns state (.worker event) (.of call) { state with intake := moved }
  | storeSignal {signal : Signal} : Turns state (.storeSignal signal) .nothing
      { state with signal := some signal, handlers := state.handlers + 1 }
  | storeRunning : state.handlers ≠ 0 → Turns state .storeRunning .nothing
      { state with running := false, handlers := state.handlers - 1 }
  | pass {elapsed : Nat} :
      Turns state (.pass elapsed) .nothing { state with now := state.now + elapsed }
  | expire {since : Nat} : state.watchdog = some since →
      since + ThreadPool.gracefulShutdownTimeout ≤ state.now →
        Turns state .expire .nothing { state with ended := some .exited }

theorem turns_of_acceptorStep {event : IntakeEvent}
    (taken : acceptorStep config state event = some (effect, next)) :
    Turns config state (.acceptor event) effect next := by
  obtain ⟨⟨runs, mine⟩, taken⟩ := Option.ite_none_right_eq_some.mp taken
  split at taken
  next fd ip =>
    obtain ⟨open_, taken⟩ := Option.ite_none_left_eq_some.mp taken
    obtain ⟨⟨call, moved⟩, stepped, same⟩ := Option.map_eq_some_iff.mp taken
    cases same
    have moves := moves_of_intake stepped
    obtain ⟨listens, notShut⟩ := not_or.mp open_
    cases moves with
    | accept here opened =>
        exact .accept runs listens (Bool.eq_false_of_not_eq_true notShut) (.accept here opened)
  next errno =>
    obtain ⟨⟨call, moved⟩, stepped, same⟩ := Option.map_eq_some_iff.mp taken
    cases same
    have moves := moves_of_intake stepped
    cases moves with
    | acceptFailed here => exact .acceptFailed runs (.acceptFailed here)
  next notAccept notFailed =>
    obtain ⟨⟨call, moved⟩, stepped, same⟩ := Option.map_eq_some_iff.mp taken
    cases same
    exact .acceptor runs mine notAccept (moves_of_intake stepped)

/-- **Inversion of a step**: the process has not ended, and what the step does. -/
theorem turns_of_step {event : ServerEvent}
    (taken : server config state event = some (effect, next)) :
    state.ended = none ∧ Turns config state event effect next := by
  obtain ⟨live, taken⟩ := Option.ite_none_right_eq_some.mp taken
  refine ⟨live, ?_⟩
  cases event with
  | main outcome => exact .main (acts_of_step taken)
  | acceptor event => exact turns_of_acceptorStep taken
  | worker event =>
      obtain ⟨mine, taken⟩ := Option.ite_none_right_eq_some.mp taken
      obtain ⟨⟨call, moved⟩, stepped, same⟩ := Option.map_eq_some_iff.mp taken
      cases same
      exact .worker mine (moves_of_intake stepped)
  | storeSignal signal =>
      cases taken
      exact .storeSignal
  | storeRunning =>
      obtain ⟨some, same⟩ := Option.ite_none_left_eq_some.mp taken
      cases same
      exact .storeRunning some
  | pass elapsed =>
      cases taken
      exact .pass
  | expire =>
      simp only at taken
      split at taken
      next since armed =>
        obtain ⟨late, same⟩ := Option.ite_none_right_eq_some.mp taken
        cases same
        exact .expire armed late
      next => cases taken

end Step

/-! ### What the threads leave alone -/

section Threads

variable {maxClients : UInt32} {state next : Intake} {event : IntakeEvent}
  {call : Option Syscall}

/-- A step of the acceptor. -/
theorem acceptor_keeps (moved : Moves maxClients state event call next)
    (mine : ofAcceptor event = true) :
    next.workers = state.workers ∧ next.stopFlag = state.stopFlag ∧
      next.work.stopped = state.work.stopped ∧ next.work.draining = state.work.draining ∧
      (state.work.stopped = true → next.work.queue = state.work.queue) := by
  cases moved with
  | enqueue _ _ open_ =>
      refine ⟨rfl, rfl, rfl, rfl, fun stopped => ?_⟩
      rw [open_] at stopped
      cases stopped
  | stopAcceptor | stop _ _ | stopAgain _ _ | drain _ _ | stopReturns _ _ => cases mine
  | dequeue _ _ _ | dequeueNone _ _ _ _ | useWelcome _ | useServing _ | welcomed _ | finished _
  | close _ | fetchSub _ => cases mine
  | _ => exact ⟨rfl, rfl, rfl, rfl, fun _ => rfl⟩

/-- The first workers have returned. -/
def Settled (workers : List Worker) (count : Nat) : Prop :=
  ∀ index < count, ∀ worker, workers[index]? = some worker → worker = .returned

/-- A worker moves, and it is not one that has returned. -/
theorem Settled.set {workers : List Worker} {count index : Nat} {before after : Worker}
    (settled : Settled workers count) (found : workers[index]? = some before)
    (alive : before ≠ .returned) : Settled (workers.set index after) count := by
  intro other inside worker there
  by_cases same : index = other
  · subst same
    exact absurd (settled index inside before found) alive
  · rw [List.getElem?_set_ne same] at there
    exact settled other inside worker there

/-- A step of a worker. -/
theorem worker_keeps (moved : Moves maxClients state event call next)
    (mine : ofWorker event = true) :
    next.acceptor = state.acceptor ∧ next.stopFlag = state.stopFlag ∧
      next.work.stopped = state.work.stopped ∧ next.work.draining = state.work.draining ∧
      (state.work.queue = [] → next.work.queue = []) ∧
      next.workers.length = state.workers.length ∧
      ∀ count, Settled state.workers count → Settled next.workers count := by
  cases moved with
  | dequeue found _ queued =>
      refine ⟨rfl, rfl, rfl, rfl, fun empty => ?_, List.length_set,
        fun _ settled => settled.set found nofun⟩
      rw [queued] at empty
      cases empty
  | dequeueNone found _ _ _ | welcomed found | finished found | close found | fetchSub found =>
      exact ⟨rfl, rfl, rfl, rfl, id, List.length_set, fun _ settled => settled.set found nofun⟩
  | useWelcome _ | useServing _ => exact ⟨rfl, rfl, rfl, rfl, id, rfl, fun _ => id⟩
  | _ => cases mine

end Threads

/-! ### What is true where `main` is -/

/-- The acceptor, as `main` knows it. -/
inductive Door where
  /-- There is no listening socket yet. -/
  | absent
  /-- There is one, and no thread. -/
  | opened
  | serving
  | flagged
  /-- Nothing is accepted any more. -/
  | closing
  /-- The thread has been joined. -/
  | joined
  /-- And the listening socket is closed. -/
  | left
  /-- There is no thread, or it has been joined. -/
  | down
  /-- And no listening socket. -/
  | gone
  deriving DecidableEq, Repr

/-- The thread has not been created, or has been joined. -/
def Down (state : Server) : Prop :=
  state.thread = .unborn ∧ state.intake.acceptor = .testing ∨
    state.thread = .joined ∧ state.intake.acceptor = .returned

def Door.Holds (state : Server) : Door → Prop
  | .absent => state.thread = .unborn ∧ state.intake.acceptor = .testing ∧ state.listener = none
  | .opened => state.thread = .unborn ∧ state.intake.acceptor = .testing ∧ state.listener ≠ none
  | .serving => state.thread = .running ∧ state.listener ≠ none
  | .flagged => state.thread = .running ∧ state.listener ≠ none ∧ state.intake.stopFlag = true
  | .closing => state.thread = .running ∧ state.listener ≠ none ∧ state.intake.stopFlag = true ∧
      state.shut = true
  | .joined => state.thread = .joined ∧ state.intake.acceptor = .returned
  | .left => state.thread = .joined ∧ state.intake.acceptor = .returned ∧ state.listener = none
  | .down => Down state
  | .gone => Down state ∧ state.listener = none

/-- The queue, as `main` knows it. -/
inductive Hatch where
  | ready | draining | closed
  deriving DecidableEq, Repr

def Hatch.Holds (work : WorkQueue) : Hatch → Prop
  | .ready => work.stopped = false ∧ work.draining = false
  | .draining => work.stopped = true ∧ work.draining = true
  | .closed => work.stopped = true ∧ work.draining = false ∧ work.queue = []

namespace Main

def door : Main → Door
  | .constructing _ _ | .spawning | .booting | .setup .socket => .absent
  | .setup _ | .announcing | .clearing | .launching => .opened
  | .readying | .testing | .sleeping | .loading | .reporting _ | .flagging none => .serving
  | .shutting none => .flagged
  | .awaiting none => .closing
  | .resetting none => .joined
  | .completing => .left
  | .failing _ | .refused | .flagging (some _) | .shutting (some _) | .awaiting (some _)
  | .resetting (some _) => .down
  | .unwinding _ left => if .acceptor ∈ left then .down else .gone
  | .stopping none | .draining none | .joining none _ => .absent
  | .stopping (some _) | .draining (some _) | .arming _ | .joining (some _) _ => .gone

def hatch : Main → Hatch
  | .draining _ => .draining
  | .arming _ | .joining _ _ => .closed
  | .unwinding _ left => if .threadPool ∈ left then .ready else .closed
  | _ => .ready

/-- How many workers are known to have returned. -/
def settled (workers : List Worker) : Main → Nat
  | .joining _ index => index
  | .unwinding _ left => if .threadPool ∈ left then 0 else workers.length
  | _ => 0

/-- The objects are constructed and destroyed in order. -/
def Orderly : Main → Prop
  | .constructing built todo => todo.reverse ++ built = objects.drop 2
  | .unwinding _ left => left <:+ objects
  | _ => True

def isConstructing : Main → Bool
  | .constructing _ _ => true
  | _ => false

end Main

/-- **What is true where `main` is.** -/
structure Sound (state : Server) : Prop where
  door : state.main.door.Holds state
  hatch : state.main.hatch.Holds state.intake.work
  pool : Settled state.intake.workers (state.main.settled state.intake.workers)
  empty : state.main.isConstructing = true → state.intake.workers = []
  order : state.main.Orderly

section Invariant

variable {config : Fields} {state next : Server} {event : ServerEvent} {effect : Effect}
  {outcome : Outcome}

theorem sound_boot : Sound .boot := by
  exact ⟨⟨rfl, rfl, rfl⟩, ⟨rfl, rfl⟩, nofun, fun _ => rfl, rfl⟩

/-- Behind the destructor of the pool every worker has returned. -/
theorem Sound.idle (sound : Sound state) {code : Nat} (gone : state.main = .unwinding code []) :
    ∀ worker ∈ state.intake.workers, worker = .returned := by
  have pool := sound.pool
  rw [gone] at pool
  intro worker member
  obtain ⟨index, inside, same⟩ := List.getElem_of_mem member
  exact pool index inside worker (List.getElem?_eq_some_iff.mpr ⟨inside, same⟩)

/-- The objects that can be left. -/
theorem suffix_of_objects {left : List Object} (suffix : left <:+ objects) :
    (.acceptor ∈ left → .threadPool ∈ left) ∧
      (left.head? = some .threadPool → .acceptor ∉ left) ∧
      (.threadPool ∈ left → objects.tail ⊆ left) := by
  have every : ∀ left ∈ objects.tails, (Object.acceptor ∈ left → .threadPool ∈ left) ∧
      (left.head? = some .threadPool → .acceptor ∉ left) ∧
      (.threadPool ∈ left → ∀ object ∈ objects.tail, object ∈ left) := by decide
  exact every left ((List.mem_tails _ _).mpr suffix)

theorem down_thread {moved : Intake}
    (acceptor : state.thread ≠ .running → moved.acceptor = state.intake.acceptor)
    (down : Down state) : Down { state with intake := moved } := by
  rcases down with ⟨unborn, here⟩ | ⟨joined, here⟩
  · exact .inl ⟨unborn, (acceptor (by rw [unborn]; nofun)).trans here⟩
  · exact .inr ⟨joined, (acceptor (by rw [joined]; nofun)).trans here⟩

theorem settled_zero (workers : List Worker) : Settled workers 0 := nofun

theorem sound_acts (acts : Acts config state outcome effect next) (sound : Sound state) :
    Sound next := by
  obtain ⟨door, hatch, pool, empty, order⟩ := sound
  cases acts with
  | construct here =>
      rw [here] at door hatch pool empty order
      refine ⟨door, hatch, pool, empty, ?_⟩
      rw [Main.Orderly, List.reverse_cons, List.append_assoc] at order
      exact order
  | constructed here | spawnFails here | spawned here _ | boots here | announces here
  | readies here | goesOn here _ | leaves here _ | wakes here | loads here | reports here =>
      rw [here] at door hatch
      exact ⟨door, hatch, settled_zero _, nofun, trivial⟩
  | spawn here _ =>
      refine ⟨?_, ?_, ?_, ?_, ?_⟩ <;> rw [here] at door hatch <;> simp only [here]
      · exact door
      · exact hatch
      · exact settled_zero _
      · exact nofun
      · trivial
  | opens here _ =>
      rw [here] at door hatch
      exact ⟨⟨door.1, door.2.1, nofun⟩, hatch, settled_zero _, nofun, trivial⟩
  | @setup step here other =>
      rw [here] at door hatch
      cases step with
      | socket => exact absurd rfl other
      | setsockopt | bind | listen => exact ⟨door, hatch, settled_zero _, nofun, trivial⟩
  | openFails here =>
      rw [here] at door hatch
      exact ⟨.inl ⟨door.1, door.2.1⟩, hatch, settled_zero _, nofun, trivial⟩
  | @setupFails step _ here other =>
      rw [here] at door hatch
      cases step with
      | socket => exact absurd rfl other
      | setsockopt | bind | listen =>
          exact ⟨.inl ⟨door.1, door.2.1⟩, hatch, settled_zero _, nofun, trivial⟩
  | clears here =>
      rw [here] at door hatch
      exact ⟨door, hatch, settled_zero _, nofun, trivial⟩
  | launches here =>
      rw [here] at door hatch
      exact ⟨⟨rfl, door.2.2⟩, hatch, settled_zero _, nofun, trivial⟩
  | launchFails _ | returns _ | armFails _ | throws _ _ => exact ⟨door, hatch, pool, empty, order⟩
  | fails here =>
      rw [here] at door hatch
      exact ⟨door, hatch, settled_zero _, nofun, trivial⟩
  | refuses here =>
      rw [here] at door hatch
      exact ⟨door, hatch, settled_zero _, nofun, List.suffix_refl _⟩
  | @flags code here =>
      rw [here] at door hatch
      cases code with
      | none => exact ⟨⟨door.1, door.2, rfl⟩, hatch, settled_zero _, nofun, trivial⟩
      | some code => exact ⟨door, hatch, settled_zero _, nofun, trivial⟩
  | @shuts code _ here _ =>
      rw [here] at door hatch
      cases code with
      | none => exact ⟨⟨door.1, door.2.1, door.2.2, rfl⟩, hatch, settled_zero _, nofun, trivial⟩
      | some code => exact ⟨door, hatch, settled_zero _, nofun, trivial⟩
  | @shutsNothing code here absent =>
      rw [here] at door hatch
      cases code with
      | none => exact absurd absent door.2.1
      | some code => exact ⟨door, hatch, settled_zero _, nofun, trivial⟩
  | @joinsAcceptor code here _ returned =>
      rw [here] at hatch
      cases code with
      | none => exact ⟨⟨rfl, returned⟩, hatch, settled_zero _, nofun, trivial⟩
      | some code => exact ⟨.inr ⟨rfl, returned⟩, hatch, settled_zero _, nofun, trivial⟩
  | @joinsNothing code here idle =>
      rw [here] at door hatch
      cases code with
      | none => exact absurd door.1 idle
      | some code => exact ⟨door, hatch, settled_zero _, nofun, trivial⟩
  | @resets code _ here _ =>
      rw [here] at door hatch
      cases code with
      | none => exact ⟨⟨door.1, door.2, rfl⟩, hatch, settled_zero _, nofun, trivial⟩
      | some code => exact ⟨⟨door, rfl⟩, hatch, settled_zero _, nofun, List.suffix_cons _ _⟩
  | @resetsNothing code here absent =>
      rw [here] at door hatch
      cases code with
      | none => exact ⟨⟨door.1, door.2, absent⟩, hatch, settled_zero _, nofun, trivial⟩
      | some code => exact ⟨⟨door, absent⟩, hatch, settled_zero _, nofun, List.suffix_cons _ _⟩
  | completes here =>
      rw [here] at door hatch
      exact ⟨.inr ⟨door.1, door.2.1⟩, hatch, settled_zero _, nofun, List.suffix_refl _⟩
  | destroysAcceptor here =>
      rw [here] at door hatch order
      have both := (suffix_of_objects order).1 List.mem_cons_self
      rw [Main.door, if_pos List.mem_cons_self] at door
      rw [Main.hatch, if_pos both] at hatch
      exact ⟨door, hatch, settled_zero _, nofun, trivial⟩
  | destroysPool here =>
      rw [here] at door hatch order
      have alone := (suffix_of_objects order).2.1 rfl
      rw [Main.door, if_neg alone] at door
      rw [Main.hatch, if_pos List.mem_cons_self] at hatch
      exact ⟨door, hatch, settled_zero _, nofun, trivial⟩
  | @destroys code object left here notAcceptor notPool =>
      rw [here] at door hatch pool order
      have first : Object.acceptor ∈ object :: left ↔ .acceptor ∈ left := by
        rw [List.mem_cons, or_iff_right notAcceptor.symm]
      have second : Object.threadPool ∈ object :: left ↔ .threadPool ∈ left := by
        rw [List.mem_cons, or_iff_right notPool.symm]
      simp only [Main.door, Main.hatch, Main.settled, first, second] at door hatch pool
      exact ⟨door, hatch, pool, nofun, (List.suffix_cons _ _).trans order⟩
  | @stops code work here stopped =>
      rw [here] at door hatch
      obtain ⟨-, ⟨again, -⟩ | ⟨-, rfl⟩⟩ := WorkQueue.stop_cases stopped
      · rw [hatch.1] at again
        cases again
      · cases code with
        | none => exact ⟨door, ⟨rfl, rfl⟩, settled_zero _, nofun, trivial⟩
        | some code => exact ⟨door, ⟨rfl, rfl⟩, settled_zero _, nofun, trivial⟩
  | @drains code socket work here drained =>
      obtain ⟨draining, rest, queued, rfl⟩ := WorkQueue.drain_cases drained
      refine ⟨?_, ?_, ?_, ?_, ?_⟩ <;> rw [here] at door hatch <;> simp only [here]
      · cases code with
        | none => exact door
        | some code => exact door
      · exact hatch
      · exact settled_zero _
      · exact nofun
      · trivial
  | @drained code work here _ returned =>
      rw [here] at door hatch
      obtain ⟨⟨-, nothing⟩, same⟩ := Option.ite_none_right_eq_some.mp returned
      cases same
      cases code with
      | none => exact ⟨door, ⟨hatch.1, rfl, nothing⟩, settled_zero _, nofun, trivial⟩
      | some code => exact ⟨door, ⟨hatch.1, rfl, nothing⟩, settled_zero _, nofun, trivial⟩
  | arms here =>
      rw [here] at door hatch
      exact ⟨door, hatch, settled_zero _, nofun, trivial⟩
  | @joins code index here returned =>
      rw [here] at door hatch pool
      have more : Settled state.intake.workers (index + 1) := by
        intro other inside worker there
        rcases Nat.lt_succ_iff_lt_or_eq.mp inside with earlier | rfl
        · exact pool other earlier worker there
        · rw [returned] at there
          cases there
          rfl
      cases code with
      | none => exact ⟨door, hatch, more, nofun, trivial⟩
      | some code => exact ⟨door, hatch, more, nofun, trivial⟩
  | joined here none =>
      rw [here] at door hatch pool
      have all : Settled state.intake.workers state.intake.workers.length :=
        fun index inside => pool index (inside.trans_le (List.getElem?_eq_none_iff.mp none))
      exact ⟨door, hatch, all, nofun, List.drop_suffix _ _⟩

/-- **A step of a thread** leaves it true. -/
theorem sound_thread {moved : Intake} (sound : Sound state)
    (acceptor : state.thread ≠ .running → moved.acceptor = state.intake.acceptor)
    (flag : moved.stopFlag = state.intake.stopFlag)
    (stopped : moved.work.stopped = state.intake.work.stopped)
    (draining : moved.work.draining = state.intake.work.draining)
    (queue : state.intake.work.stopped = true → state.intake.work.queue = [] →
      moved.work.queue = [])
    (length : moved.workers.length = state.intake.workers.length)
    (settled : ∀ count, Settled state.intake.workers count → Settled moved.workers count) :
    Sound { state with intake := moved } := by
  obtain ⟨door, hatch, pool, empty, order⟩ := sound
  refine ⟨?_, ?_, ?_, ?_, order⟩
  · show state.main.door.Holds { state with intake := moved }
    cases place : state.main.door with
    | absent =>
        rw [place] at door
        exact ⟨door.1, (acceptor (by rw [door.1]; nofun)).trans door.2.1, door.2.2⟩
    | opened =>
        rw [place] at door
        exact ⟨door.1, (acceptor (by rw [door.1]; nofun)).trans door.2.1, door.2.2⟩
    | serving =>
        rw [place] at door
        exact door
    | flagged =>
        rw [place] at door
        exact ⟨door.1, door.2.1, flag.trans door.2.2⟩
    | closing =>
        rw [place] at door
        exact ⟨door.1, door.2.1, flag.trans door.2.2.1, door.2.2.2⟩
    | joined =>
        rw [place] at door
        exact ⟨door.1, (acceptor (by rw [door.1]; nofun)).trans door.2⟩
    | left =>
        rw [place] at door
        exact ⟨door.1, (acceptor (by rw [door.1]; nofun)).trans door.2.1, door.2.2⟩
    | down =>
        rw [place] at door
        exact down_thread acceptor door
    | gone =>
        rw [place] at door
        exact ⟨down_thread acceptor door.1, door.2⟩
  · show state.main.hatch.Holds moved.work
    cases place : state.main.hatch with
    | ready =>
        rw [place] at hatch
        exact ⟨stopped.trans hatch.1, draining.trans hatch.2⟩
    | draining =>
        rw [place] at hatch
        exact ⟨stopped.trans hatch.1, draining.trans hatch.2⟩
    | closed =>
        rw [place] at hatch
        exact ⟨stopped.trans hatch.1, draining.trans hatch.2.1, queue hatch.1 hatch.2.2⟩
  · show Settled moved.workers (state.main.settled moved.workers)
    have same : state.main.settled moved.workers = state.main.settled state.intake.workers := by
      cases place : state.main with
      | unwinding code left => simp only [Main.settled, length]
      | _ => rfl
    rw [same]
    exact settled _ pool
  · intro constructing
    rw [← List.length_eq_zero_iff] at empty ⊢
    exact length.trans (empty constructing)

theorem sound_step (taken : server config state event = some (effect, next))
    (sound : Sound state) : Sound next := by
  obtain ⟨-, turns⟩ := turns_of_step taken
  -- a step of the acceptor
  have ofAcceptor {event : IntakeEvent} {call : Option Syscall} {moved : Intake}
      (runs : state.thread = .running) (mine : ofAcceptor event = true)
      (moves : Moves config.maxClients state.intake event call moved) :
      Sound { state with intake := moved } := by
    obtain ⟨workers, flag, stopped, draining, queue⟩ := acceptor_keeps moves mine
    refine sound_thread sound (absurd runs) flag stopped draining ?_ (by rw [workers]) ?_
    · exact fun closed empty => (queue closed).trans empty
    · rw [workers]
      exact fun _ => id
  cases turns with
  | main acts => exact sound_acts acts sound
  | accept runs _ _ moves => exact ofAcceptor runs rfl moves
  | acceptFailed runs moves => exact ofAcceptor runs rfl moves
  | acceptor runs mine _ moves => exact ofAcceptor runs mine moves
  | worker mine moves =>
      obtain ⟨acceptor, flag, stopped, draining, queue, length, settled⟩ := worker_keeps moves mine
      exact sound_thread sound (fun _ => acceptor) flag stopped draining (fun _ => queue) length
        settled
  | storeSignal => exact ⟨sound.door, sound.hatch, sound.pool, sound.empty, sound.order⟩
  | storeRunning _ => exact ⟨sound.door, sound.hatch, sound.pool, sound.empty, sound.order⟩
  | pass => exact ⟨sound.door, sound.hatch, sound.pool, sound.empty, sound.order⟩
  | expire _ _ => exact ⟨sound.door, sound.hatch, sound.pool, sound.empty, sound.order⟩

abbrev ServerTurn := Transition Server ServerEvent Effect

theorem sound_of_run {trace : List ServerTurn} (run : Run (server config) .boot trace state) :
    Sound state :=
  run.invariant Sound sound_boot sound_step

/-- A process that has returned has destroyed everything. -/
theorem returned_of_run {trace : List ServerTurn} (run : Run (server config) .boot trace state)
    {code : Nat} (ended : state.ended = some (.returned code)) :
    state.main = .unwinding code [] := by
  cases run with
  | nil => cases ended
  | snoc _ taken =>
      obtain ⟨live, turns⟩ := turns_of_step taken
      -- no step changes it from a code, for there is none after the end
      have same {effect : Option Ending} (kept : effect = none)
          (ended : effect = some (.returned code)) : False := by
        rw [kept] at ended
        cases ended
      cases turns with
      | main acts =>
          cases acts with
          | returns here =>
              cases ended
              exact here
          | launchFails _ | armFails _ | throws _ _ => cases ended
          | _ => exact (same live ended).elim
      | expire _ _ => cases ended
      | _ => exact (same live ended).elim

/-- A server with one worker. -/
def oneWorker : Fields := ⟨9026, 9464, 30, 1, 10, 5⟩

/-- It accepts a connection, and SIGTERM comes while the connection is being served. -/
def untilSignal : List ServerEvent :=
  List.replicate 10 (.main .done) ++ .main (.opened 3) :: List.replicate 8 (.main .done) ++
    [.acceptor .testFlag, .acceptor (.accept 4 []), .acceptor .load, .acceptor .compare,
      .acceptor .fetchAdd, .acceptor .enqueue, .worker (.dequeue 0), .worker (.use 0),
      .worker (.welcomed 0 true), .storeSignal .sigterm, .storeRunning]

/-- The acceptor is stopped, the connection ends, and `main` returns. -/
def sinceSignal : List ServerEvent :=
  List.replicate 6 (.main .done) ++ .acceptor .testFlag :: List.replicate 12 (.main .done) ++
    [.worker (.finished 0), .worker (.close 0), .worker (.fetchSub 0), .worker (.dequeue 0)] ++
      List.replicate 10 (.main .done)

/-- The run to its end. -/
def wholeLife : List ServerEvent := untilSignal ++ sinceSignal

end Invariant

end ExodusOps.Lifecycle
