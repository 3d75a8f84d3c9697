/-
**The server, system call by system call.**

The threads of the pool with what they do on a connection: drawing its session id, the welcome,
`handleConnection` with every `recv` and every `send` of it, the handlers' access to the registry,
the metrics, and the teardown. A step is one system call or one access to what the threads share,
so the runs of `service` are all interleavings at that grain: while one thread is in the middle of a
frame, others serve theirs. The acceptor, the queue and the descriptors are those of `intake`.

* `Activation` — one pass through the loop of `workerLoop`, with its local variables. Connections
  are numbered in the order in which they draw their session ids.
* `Advances` — what a step of such a pass does, as a relation; `advances_of_advance` is the
  inversion of the step function.
-/

import ExodusOps.Lib.JsonFlat
import ExodusOps.Server.Intake
import ExodusOps.Server.Output
import ExodusOps.Wire.RecvCalls

namespace ExodusOps.Serving

open MessageSerializer

/-! ### Metrics -/

/-- The index of a message type in the arrays of counters and histograms. -/
def messageTypeIndex (messageType : MessageType) : Nat :=
  if messageType = .register then 0
  else if messageType = .queryNode then 1
  else if messageType = .listNodes then 2
  else if messageType = .heartbeat then 3
  else 4

/-- The metrics: what each counter has been raised to, and what each histogram has observed, in
nanoseconds. -/
structure Metrics where
  counters : Nat → Nat
  histograms : Nat → List Nat

namespace Metrics

def zero : Metrics := ⟨fun _ => 0, fun _ => []⟩

/-- The first half of `recordMessage`. -/
def increment (metrics : Metrics) (messageType : MessageType) : Metrics :=
  let idx := messageTypeIndex messageType
  { metrics with counters := Function.update metrics.counters idx (metrics.counters idx + 1) }

/-- The second half. -/
def observe (metrics : Metrics) (messageType : MessageType) (elapsed : Nat) : Metrics :=
  let idx := messageTypeIndex messageType
  { metrics with
    histograms := Function.update metrics.histograms idx (metrics.histograms idx ++ [elapsed]) }

end Metrics

/-! ### State -/

/-- One pass through the loop of `workerLoop`, from the session id on. -/
inductive Activation where
  | named (sessionId : Bytes)
  /-- In `sendAll` with the welcome. -/
  | welcoming (welcome : Bytes) (loop : SendLoop)
  /-- In `handleConnection`, before `applyReceiveTimeout`. -/
  | entered
  /-- In `readFrame`. -/
  | reading (activeNodeId : Bytes) (loop : ReadLoop)
  /-- `readFrame` has returned a frame. -/
  | handling (activeNodeId : Bytes) (frame : Frame)
  /-- In `sendAll` with the answer to a message of this type. -/
  | answering (activeNodeId : Bytes) (messageType : MessageType) (answer : Bytes)
      (loop : SendLoop)
  /-- Before `Increment`. -/
  | counting (activeNodeId : Bytes) (messageType : MessageType)
  /-- Before `Observe`. -/
  | observing (activeNodeId : Bytes) (messageType : MessageType)
  /-- Before `markOfflineIfKnown`; `none` is `applyReceiveTimeout` that failed. -/
  | leaving (activeNodeId : Bytes) (status : Option FrameReadStatus)
  /-- At the end of `handleConnection`, before the destructor of its guard. -/
  | left
  /-- Back in `workerLoop`, which closes or has the guard close the descriptor. -/
  | done

/-- What a thread of the pool is doing. -/
inductive Job where
  /-- In `dequeue`, or with a descriptor that is closed next. -/
  | idle
  /-- With a socket, before `nextSessionId`. -/
  | dequeued
  | serving (conn : Nat)
  deriving DecidableEq, Repr

/-- What the passes share. -/
structure Shared where
  registry : NodeRegistry
  sessionCounter : UInt64
  messageCounter : UInt32
  metrics : Metrics

structure Service where
  intake : Intake
  shared : Shared
  /-- Of each thread. -/
  jobs : List Job
  activations : List Activation

/-- The server after `main` has started it, with a registry. -/
def Service.boot (threads : Nat) (registry : NodeRegistry) : Service :=
  ⟨.boot threads, ⟨registry, 0, 0, .zero⟩, List.replicate threads .idle, []⟩

/-! ### Steps -/

/-- A step on a connection. -/
inductive Activity where
  /-- `nextMessageId`; the welcome is built with the clock's reading. -/
  | nextMessageId (now : Time)
  | send (result : SendResult)
  /-- `workerLoop` looks at what `sendAll` has returned. -/
  | welcomed
  | applyReceiveTimeout (applied : Bool)
  | recv (result : RecvResult)
  /-- The handler's access to the registry; `listing` is what `listNodes` gives a LIST_NODES. -/
  | handle (now : Time) (listing : List NodeEntry)
  | increment
  | observe (elapsed : Nat)
  | markOffline (now : Time)
  | finished
  deriving DecidableEq

inductive ServiceEvent where
  /-- A step of the acceptor, of `stop`, or of a worker that closes its descriptor. -/
  | thread (event : IntakeEvent)
  | dequeue (worker : Nat)
  | nextSessionId (worker : Nat)
  | act (worker : Nat) (activity : Activity)
  deriving DecidableEq

/-- What a step does that can be seen on the connection. -/
inductive Traffic where
  | sent (bytes : Bytes)
  | received (bytes : Bytes)
  /-- The frame has had its effect on the registry. -/
  | handled (frame : Frame)
  deriving DecidableEq

/-- Behind a call of `recv`. -/
def afterRecv (activeNodeId : Bytes) : ReadLoop → Activation
  | .returned (.ok frame) => .handling activeNodeId frame
  | .returned (.error status) => .leaving activeNodeId (some status)
  | loop => .reading activeNodeId loop

/-- Behind a call of `send` with an answer: what `sendAll` returns is dropped. -/
def afterSend (activeNodeId : Bytes) (messageType : MessageType) (answer : Bytes) :
    SendLoop → Activation
  | .returned _ _ => .counting activeNodeId messageType
  | loop => .answering activeNodeId messageType answer loop

/-- The bytes `sendAll` is given; none if the message cannot be written, which ends the process. -/
def replyBytes (codec : JsonCodec) (reply : Reply) : Option Bytes := do
  let frame ← reply.frame codec
  buildFrame frame.messageType frame.messageId frame.payload

/-- Behind a handler's access to the registry. -/
def afterHandle (codec : JsonCodec) (served : Served) (messageType : MessageType) :
    Option Activation :=
  match served.reply with
  | none => some (.counting served.activeNodeId messageType)
  | some reply => (replyBytes codec reply).map fun answer =>
      .answering served.activeNodeId messageType answer (sendLoop answer 0)

/-- **One step on a connection.** -/
def advance (codec : JsonCodec) (shared : Shared) (activation : Activation)
    (activity : Activity) : Option (Option Traffic × Activation × Shared) :=
  match activation, activity with
  | .named sessionId, .nextMessageId now =>
      let messageId := shared.messageCounter + 1
      (replyBytes codec (welcomeReply messageId now sessionId)).map fun welcome =>
        (none, .welcoming welcome (sendLoop welcome 0), { shared with messageCounter := messageId })
  | .welcoming welcome loop, .send result =>
      (sendCall welcome loop result).map fun (accepted, loop) =>
        (some (.sent accepted), .welcoming welcome loop, shared)
  | .welcoming _ (.returned sent _), .welcomed =>
      some (none, if sent then .entered else .done, shared)
  | .entered, .applyReceiveTimeout applied =>
      some (none, if applied then .reading [] .start else .leaving [] none, shared)
  | .reading activeNodeId loop, .recv result =>
      (recvCall loop result).map fun (bytes, loop) =>
        (some (.received bytes), afterRecv activeNodeId loop, shared)
  | .handling activeNodeId frame, .handle now listing =>
      if frame.messageType = .listNodes → shared.registry.IsSnapshot listing then
        let served := dispatch codec shared.registry activeNodeId frame now listing
        (afterHandle codec served frame.messageType).map fun activation =>
          (some (.handled frame), activation, { shared with registry := served.registry })
      else none
  | .answering activeNodeId messageType answer loop, .send result =>
      (sendCall answer loop result).map fun (accepted, loop) =>
        (some (.sent accepted), afterSend activeNodeId messageType answer loop, shared)
  | .counting activeNodeId messageType, .increment =>
      some (none, .observing activeNodeId messageType,
        { shared with metrics := shared.metrics.increment messageType })
  | .observing activeNodeId messageType, .observe elapsed =>
      some (none, .reading activeNodeId .start,
        { shared with metrics := shared.metrics.observe messageType elapsed })
  | .leaving activeNodeId _, .markOffline now =>
      some (none, .left,
        { shared with registry := markOfflineIfKnown shared.registry activeNodeId now })
  | .left, .finished => some (none, .done, shared)
  | _, _ => none

/-- What such a step is for `intake`: a call on the descriptor, or the end of one of its phases. -/
def intakeActivity (worker : Nat) (activation : Activation) : Activity → Option IntakeEvent
  | .send _ | .recv _ | .applyReceiveTimeout _ => some (.use worker)
  | .welcomed =>
      match activation with
      | .welcoming _ (.returned sent _) => some (.welcomed worker sent)
      | _ => none
  | .finished => some (.finished worker)
  | _ => none

/-- The steps of `intake` that are part of a step of a pass. -/
def ofPass : IntakeEvent → Bool
  | .dequeue _ | .use _ | .welcomed _ _ | .finished _ => true
  | _ => false

/-- A worker whose pass is over has no connection any more. -/
def afterPass (conn : Nat) : Activation → Job
  | .done => .idle
  | _ => .serving conn

def intakeOr (maxClients : UInt32) (state : Intake) : Option IntakeEvent → Option Intake
  | none => some state
  | some event => (intake maxClients state event).map Prod.snd

/-- **One step of the server.** -/
def service (codec : JsonCodec) (maxClients : UInt32) (state : Service) :
    ServiceEvent → Option (Option (Nat × Traffic) × Service)
  | .thread event =>
      if ofPass event then none
      else (intake maxClients state.intake event).map fun (_, intake) =>
        (none, { state with intake := intake })
  | .dequeue worker =>
      (intake maxClients state.intake (.dequeue worker)).map fun (_, intake) =>
        (none, { state with
          intake := intake
          jobs := state.jobs.set worker
            (if intake.workers[worker]? = some .returned then .idle else .dequeued) })
  | .nextSessionId worker =>
      match state.jobs[worker]? with
      | some .dequeued =>
          let id := state.shared.sessionCounter + 1
          some (none, { state with
            shared := { state.shared with sessionCounter := id }
            jobs := state.jobs.set worker (.serving state.activations.length)
            activations := state.activations ++ [.named (sessionIdText id)] })
      | _ => none
  | .act worker activity =>
      match state.jobs[worker]? with
      | some (.serving conn) => do
          let activation ← state.activations[conn]?
          let (traffic, moved, shared) ← advance codec state.shared activation activity
          let intake ← intakeOr maxClients state.intake (intakeActivity worker activation activity)
          some (traffic.map (conn, ·), {
            intake := intake
            shared := shared
            jobs := state.jobs.set worker (afterPass conn moved)
            activations := state.activations.set conn moved })
      | _ => none

/-! ### Inversion -/

/-- **What a step on a connection does.** -/
inductive Advances (codec : JsonCodec) (shared : Shared) :
    Activation → Activity → Option Traffic → Activation → Shared → Prop where
  | nextMessageId {sessionId welcome : Bytes} {now : Time} :
      replyBytes codec (welcomeReply (shared.messageCounter + 1) now sessionId) = some welcome →
        Advances codec shared (.named sessionId) (.nextMessageId now) none
          (.welcoming welcome (sendLoop welcome 0))
          { shared with messageCounter := shared.messageCounter + 1 }
  | sendWelcome {welcome accepted : Bytes} {loop next : SendLoop} {result : SendResult} :
      sendCall welcome loop result = some (accepted, next) →
        Advances codec shared (.welcoming welcome loop) (.send result) (some (.sent accepted))
          (.welcoming welcome next) shared
  | welcomed {welcome : Bytes} {sent : Bool} {totalSent : Nat} :
      Advances codec shared (.welcoming welcome (.returned sent totalSent)) .welcomed none
        (if sent then .entered else .done) shared
  | configured : Advances codec shared .entered (.applyReceiveTimeout true) none
      (.reading [] .start) shared
  | unconfigured : Advances codec shared .entered (.applyReceiveTimeout false) none
      (.leaving [] none) shared
  | recv {activeNodeId bytes : Bytes} {loop next : ReadLoop} {result : RecvResult} :
      recvCall loop result = some (bytes, next) →
        Advances codec shared (.reading activeNodeId loop) (.recv result) (some (.received bytes))
          (afterRecv activeNodeId next) shared
  | handle {activeNodeId : Bytes} {frame : Frame} {now : Time} {listing : List NodeEntry}
      {served : Served} {moved : Activation} :
      (frame.messageType = .listNodes → shared.registry.IsSnapshot listing) →
      dispatch codec shared.registry activeNodeId frame now listing = served →
      afterHandle codec served frame.messageType = some moved →
        Advances codec shared (.handling activeNodeId frame) (.handle now listing)
          (some (.handled frame)) moved { shared with registry := served.registry }
  | sendAnswer {activeNodeId answer accepted : Bytes} {messageType : MessageType}
      {loop next : SendLoop} {result : SendResult} :
      sendCall answer loop result = some (accepted, next) →
        Advances codec shared (.answering activeNodeId messageType answer loop) (.send result)
          (some (.sent accepted)) (afterSend activeNodeId messageType answer next) shared
  | increment {activeNodeId : Bytes} {messageType : MessageType} :
      Advances codec shared (.counting activeNodeId messageType) .increment none
        (.observing activeNodeId messageType)
        { shared with metrics := shared.metrics.increment messageType }
  | observe {activeNodeId : Bytes} {messageType : MessageType} {elapsed : Nat} :
      Advances codec shared (.observing activeNodeId messageType) (.observe elapsed) none
        (.reading activeNodeId .start)
        { shared with metrics := shared.metrics.observe messageType elapsed }
  | markOffline {activeNodeId : Bytes} {status : Option FrameReadStatus} {now : Time} :
      Advances codec shared (.leaving activeNodeId status) (.markOffline now) none .left
        { shared with registry := markOfflineIfKnown shared.registry activeNodeId now }
  | finished : Advances codec shared .left .finished none .done shared

variable {codec : JsonCodec} {maxClients : UInt32}

theorem advances_of_advance {shared after : Shared} {activation moved : Activation}
    {activity : Activity} {traffic : Option Traffic}
    (taken : advance codec shared activation activity = some (traffic, moved, after)) :
    Advances codec shared activation activity traffic moved after := by
  unfold advance at taken
  split at taken
  · obtain ⟨welcome, built, same⟩ := Option.map_eq_some_iff.mp taken
    cases same
    exact .nextMessageId built
  · obtain ⟨⟨accepted, next⟩, called, same⟩ := Option.map_eq_some_iff.mp taken
    cases same
    exact .sendWelcome called
  · cases taken
    exact .welcomed
  · rename_i applied
    cases applied <;> cases taken
    · exact .unconfigured
    · exact .configured
  · obtain ⟨⟨bytes, next⟩, called, same⟩ := Option.map_eq_some_iff.mp taken
    cases same
    exact .recv called
  · split_ifs at taken with listed
    obtain ⟨next, answered, same⟩ := Option.map_eq_some_iff.mp taken
    cases same
    exact .handle listed rfl answered
  · obtain ⟨⟨accepted, next⟩, called, same⟩ := Option.map_eq_some_iff.mp taken
    cases same
    exact .sendAnswer called
  · cases taken
    exact .increment
  · cases taken
    exact .observe
  · cases taken
    exact .markOffline
  · cases taken
    exact .finished
  · cases taken

/-- **What a step of the server does.** -/
inductive Serves (codec : JsonCodec) (maxClients : UInt32) (state : Service) :
    ServiceEvent → Option (Nat × Traffic) → Service → Prop where
  | thread {event : IntakeEvent} {call : Option Syscall} {moved : Intake} :
      ofPass event = false → intake maxClients state.intake event = some (call, moved) →
        Serves codec maxClients state (.thread event) none { state with intake := moved }
  | dequeue {worker : Nat} {call : Option Syscall} {moved : Intake} :
      intake maxClients state.intake (.dequeue worker) = some (call, moved) →
        Serves codec maxClients state (.dequeue worker) none { state with
          intake := moved
          jobs := state.jobs.set worker
            (if moved.workers[worker]? = some .returned then .idle else .dequeued) }
  | nextSessionId {worker : Nat} : state.jobs[worker]? = some .dequeued →
      Serves codec maxClients state (.nextSessionId worker) none { state with
        shared := { state.shared with sessionCounter := state.shared.sessionCounter + 1 }
        jobs := state.jobs.set worker (.serving state.activations.length)
        activations := state.activations ++
          [.named (sessionIdText (state.shared.sessionCounter + 1))] }
  | act {worker conn : Nat} {activity : Activity} {activation moved : Activation}
      {traffic : Option Traffic} {shared : Shared} {threads : Intake} :
      state.jobs[worker]? = some (.serving conn) → state.activations[conn]? = some activation →
      Advances codec state.shared activation activity traffic moved shared →
      intakeOr maxClients state.intake (intakeActivity worker activation activity) = some threads →
        Serves codec maxClients state (.act worker activity) (traffic.map (conn, ·)) {
          intake := threads
          shared := shared
          jobs := state.jobs.set worker (afterPass conn moved)
          activations := state.activations.set conn moved }

variable {state next : Service} {event : ServiceEvent} {output : Option (Nat × Traffic)}

/-- **Inversion of a step.** -/
theorem serves_of_service (taken : service codec maxClients state event = some (output, next)) :
    Serves codec maxClients state event output next := by
  cases event with
  | thread event =>
      simp only [service] at taken
      split_ifs at taken with part
      obtain ⟨⟨call, moved⟩, stepped, same⟩ := Option.map_eq_some_iff.mp taken
      cases same
      exact .thread (Bool.eq_false_of_not_eq_true part) stepped
  | dequeue worker =>
      obtain ⟨⟨call, moved⟩, stepped, same⟩ := Option.map_eq_some_iff.mp taken
      cases same
      exact .dequeue stepped
  | nextSessionId worker =>
      simp only [service] at taken
      split at taken <;> cases taken
      exact .nextSessionId (by assumption)
  | act worker activity =>
      simp only [service] at taken
      split at taken
      · rename_i conn serving
        obtain ⟨activation, found, rest⟩ := Option.bind_eq_some_iff.mp taken
        obtain ⟨⟨traffic, moved, shared⟩, advanced, rest⟩ := Option.bind_eq_some_iff.mp rest
        obtain ⟨threads, stepped, same⟩ := Option.bind_eq_some_iff.mp rest
        cases same
        exact .act serving found (advances_of_advance advanced) stepped
      · cases taken

abbrev ServiceTurn := Transition Service ServiceEvent (Option (Nat × Traffic))

/-- The acceptor lets a connection in. -/
def letIn (fd : Nat) : List ServiceEvent :=
  [.testFlag, .accept fd [], .load, .compare, .fetchAdd, .enqueue].map .thread

/-- Two connections at once: their welcomes leave in turns, the first to be welcomed sends a message
of a type that is no request, in pieces, and breaks off in the middle of the answer, when the other
has not yet been configured. -/
def twoAtOnce : List ServiceEvent :=
  letIn 5 ++ letIn 6 ++ [.dequeue 0, .dequeue 1, .nextSessionId 1, .nextSessionId 0,
    .act 1 (.nextMessageId 1), .act 0 (.nextMessageId 2), .act 1 (.send (.sent 100)),
    .act 0 (.send (.sent 107)), .act 1 (.send (.failed .eintr)), .act 1 (.send (.sent 7)),
    .act 1 .welcomed, .act 1 (.applyReceiveTimeout true), .act 1 (.recv (.data 0 [0])),
    .act 0 .welcomed, .act 1 (.recv (.data 0 [10])), .act 1 (.recv (.data 1 [2, 0, 0])),
    .act 1 (.recv (.data 0 [7, 0, 0, 0, 0])), .act 1 (.handle 3 []), .act 1 (.send (.sent 3)),
    .act 1 (.send (.failed .econnreset)), .act 1 .increment, .act 1 (.observe 40)]

end ExodusOps.Serving
