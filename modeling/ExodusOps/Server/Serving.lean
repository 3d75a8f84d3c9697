/-
**The threads of the pool serve the connections of `World`.**

In `World` a frame is read, handled and answered in one step. In `Service` the bytes of a frame
arrive piece by piece, the answer leaves piece by piece, and other threads act in between.
`service_refines` says that this makes no difference: to every run of the server there is a run of
`transmit` with the same registry, in which every connection is served the same frames in the same
order and has been sent, byte for byte, the same.

A step of `transmit` knows what the calls of `send` that belong to it return, and the welcome step
also whether the connection goes on; in `Service` this is decided later, one call at a time. So the
two are related for every guess at what is to come (`Run.foresee`), and at the end of a run the
guess is that nothing more is accepted.

* `Activation.Stands` — what the connection of `World` is like while a pass is at a given point.
* `Mirrors` — the relation of the two machines under a guess.
* `frames_received` — the frames a connection is served are those its bytes consist of.
-/

import ExodusOps.Lib.JsonFlat
import ExodusOps.Server.Service

namespace ExodusOps.Serving

open MessageSerializer

/-! ### What can be seen of a connection -/

/-- What was done on a connection, in order. -/
def trafficOn (trace : List ServiceTurn) (conn : Nat) : List Traffic :=
  trace.filterMap fun turn => turn.output.bind fun (other, traffic) =>
    if other = conn then some traffic else none

def sentBytes (traffic : List Traffic) : Bytes :=
  traffic.flatMap fun
    | .sent bytes => bytes
    | _ => []

def receivedBytes (traffic : List Traffic) : Bytes :=
  traffic.flatMap fun
    | .received bytes => bytes
    | _ => []

def handledFrames (traffic : List Traffic) : List Frame :=
  traffic.flatMap fun
    | .handled frame => [frame]
    | _ => []

/-- The frames `World` serves a connection, in order. -/
def framesOn (moves : List WireTurn) (conn : Nat) : List Frame :=
  moves.flatMap fun turn =>
    match turn.event.event.action with
    | .frame other frame _ => if other = conn then [frame] else []
    | _ => []

section Traffic

variable {trace : List ServiceTurn} {before after : Service} {event : ServiceEvent}

theorem trafficOn_silent (conn : Nat) :
    trafficOn (trace ++ [⟨before, event, none, after⟩]) conn = trafficOn trace conn := by
  simp [trafficOn]

theorem trafficOn_self (conn : Nat) (traffic : Option Traffic) :
    trafficOn (trace ++ [⟨before, event, traffic.map (conn, ·), after⟩]) conn =
      trafficOn trace conn ++ traffic.toList := by
  cases traffic <;> simp [trafficOn]

theorem trafficOn_other {conn other : Nat} (apart : other ≠ conn) (traffic : Option Traffic) :
    trafficOn (trace ++ [⟨before, event, traffic.map (conn, ·), after⟩]) other =
      trafficOn trace other := by
  cases traffic <;> simp [trafficOn, apart.symm]

end Traffic

/-! ### What is still to be sent -/

/-- **The rest of a `sendAll`.** With `ahead` for what its calls will return, it returns `done` and
still writes `rest`. -/
def SendsOn (data : Bytes) (loop : SendLoop) (ahead : List SendResult) (done : Bool)
    (rest : Bytes) : Prop :=
  ∃ calls totalSent, exec (sendCall data) loop ahead = some (calls, .returned done totalSent) ∧
    rest = (calls.map Transition.output).flatten

section SendsOn

variable {data rest : Bytes} {loop next : SendLoop} {ahead : List SendResult} {done : Bool}

/-- A whole `sendAll`. -/
theorem SendsOn.whole (sends : SendsOn data (sendLoop data 0) ahead done rest) :
    sendAll data ahead = some (done, rest) := by
  obtain ⟨calls, totalSent, executed, rfl⟩ := sends
  exact sendCalls_sendAll executed

/-- One call, and what comes after it. -/
theorem SendsOn.call {result : SendResult} {accepted : Bytes}
    (taken : sendCall data loop result = some (accepted, next))
    (sends : SendsOn data next ahead done rest) :
    SendsOn data loop (result :: ahead) done (accepted ++ rest) := by
  obtain ⟨calls, totalSent, executed, rfl⟩ := sends
  refine ⟨⟨loop, result, accepted, next⟩ :: calls, totalSent, ?_, rfl⟩
  rw [exec, taken]
  simp only [executed, Option.map_some]

/-- A `sendAll` that has returned. -/
theorem sendsOn_returned {sent : Bool} {totalSent : Nat} :
    SendsOn data (.returned sent totalSent) ahead done rest ↔
      ahead = [] ∧ done = sent ∧ rest = [] := by
  constructor
  · rintro ⟨calls, reached, executed, rfl⟩
    cases ahead with
    | nil =>
        cases executed
        exact ⟨rfl, rfl, rfl⟩
    | cons result ahead =>
        obtain ⟨_, _, _, taken, -⟩ := exec_cons executed
        cases taken
  · rintro ⟨rfl, rfl, rfl⟩
    exact ⟨[], totalSent, rfl, rfl⟩

/-- What comes is determined. -/
theorem SendsOn.unique {other : Bool} {more : Bytes} (sends : SendsOn data loop ahead done rest)
    (also : SendsOn data loop ahead other more) : done = other ∧ rest = more := by
  obtain ⟨calls, totalSent, executed, rfl⟩ := sends
  obtain ⟨calls', totalSent', executed', rfl⟩ := also
  cases executed.symm.trans executed'
  exact ⟨rfl, rfl⟩

/-- Nothing more is accepted. -/
def nothingMore : SendLoop → List SendResult
  | .sending _ => [.failed (.other 0)]
  | .returned _ _ => []

theorem sendsOn_nothingMore (data : Bytes) (loop : SendLoop) :
    ∃ done, SendsOn data loop (nothingMore loop) done [] := by
  cases loop with
  | sending totalSent => exact ⟨false, _, totalSent, rfl, rfl⟩
  | returned done totalSent => exact ⟨done, sendsOn_returned.mpr ⟨rfl, rfl, rfl⟩⟩

end SendsOn

/-! ### A pass and its connection -/

/-- The guesses that are open at a point of a pass: there is something to guess only in
`sendAll`. -/
def Activation.Fits (ahead : List SendResult) : Activation → Prop
  | .welcoming data loop | .answering _ _ data loop =>
      ∃ done rest, SendsOn data loop ahead done rest
  | _ => ahead = []

/-- **The connection of a pass** under a guess; `rest` is what `transmit` has written already and
the pass has not. -/
def Activation.Stands (ahead : List SendResult) (connection : Connection) (rest : Bytes) :
    Activation → Prop
  | .named sessionId => connection = ⟨sessionId, .dequeued, []⟩ ∧ rest = []
  | .welcoming welcome loop =>
      ∃ done, SendsOn welcome loop ahead done rest ∧
        connection.phase = (if done then .welcomed else .returned) ∧ connection.activeNodeId = []
  | .entered => connection.phase = .welcomed ∧ connection.activeNodeId = [] ∧ rest = []
  | .reading activeNodeId _ | .handling activeNodeId _ | .counting activeNodeId _
  | .observing activeNodeId _ =>
      connection.phase = .serving ∧ connection.activeNodeId = activeNodeId ∧ rest = []
  | .answering activeNodeId _ answer loop =>
      connection.phase = .serving ∧ connection.activeNodeId = activeNodeId ∧
        ∃ done, SendsOn answer loop ahead done rest
  | .leaving activeNodeId status =>
      connection.phase = (if status.isSome then .serving else .welcomed) ∧
        connection.activeNodeId = activeNodeId ∧ rest = []
  | .left | .done => connection.phase = .returned ∧ rest = []

/-- The guess before a step, given the guess after it. -/
def guessBefore (ahead : List SendResult) : Activity → List SendResult
  | .send result => result :: ahead
  | _ => []

variable {codec : JsonCodec} {config : ServerConfig} {maxClients : UInt32}

/-- **Every guess goes back to one that was open before.** -/
theorem Advances.fits {shared after : Shared} {activation moved : Activation}
    {activity : Activity} {traffic : Option Traffic} {ahead : List SendResult}
    (advances : Advances codec shared activation activity traffic moved after)
    (fit : moved.Fits ahead) : activation.Fits (guessBefore ahead activity) := by
  cases advances with
  | sendWelcome called =>
      obtain ⟨done, rest, sends⟩ := fit
      exact ⟨done, _, sends.call called⟩
  | @sendAnswer _ _ _ _ _ next _ called =>
      cases next with
      | sending totalSent =>
          obtain ⟨done, rest, sends⟩ := fit
          exact ⟨done, _, sends.call called⟩
      | returned sent totalSent =>
          have nothing : ahead = [] := fit
          exact ⟨sent, _, (sendsOn_returned.mpr ⟨nothing, rfl, rfl⟩).call called⟩
  | welcomed => exact ⟨_, _, sendsOn_returned.mpr ⟨rfl, rfl, rfl⟩⟩
  | _ => rfl

/-! ### Steps of `transmit` -/

/-- A connection moves on, and some bytes are written on it. -/
def wiresAfter (wires : Wires) (world : World) (conn : Nat) (connection : Connection)
    (wrote : Bytes) : Wires :=
  ⟨world.put conn connection, Function.update wires.written conn (wires.written conn ++ wrote)⟩

theorem wiresAfter_nil (wires : Wires) (world : World) (conn : Nat) (connection : Connection) :
    wiresAfter wires world conn connection [] =
      { wires with world := world.put conn connection } := by
  rw [wiresAfter, List.append_nil, Function.update_eq_self]

section Transmit

variable {wires : Wires} {conn : Nat} {connection : Connection} {now : Time}
  {results : List SendResult} {done : Bool} {wrote : Bytes}

theorem transmit_silent {event : Event} {world : World}
    (stepped : step codec config wires.world event = some (none, world))
    (silent : attempted wires.world event none = none) :
    transmit codec config wires ⟨event, []⟩ = some (none, { wires with world := world }) := by
  simp only [transmit, stepped, Option.bind_eq_bind, Option.bind_some, silent]

theorem transmit_reply {event : Event} {output : Option (Nat × Reply)} {world : World}
    {reply : Reply} {bytes : Bytes}
    (stepped : step codec config wires.world event = some (output, world))
    (tries : attempted wires.world event output = some (conn, reply))
    (written : replyBytes codec reply = some bytes)
    (sends : sendAll bytes results = some (done, wrote)) (heeded : heeds event done = true) :
    transmit codec config wires ⟨event, results⟩ = some (some ⟨conn, bytes, wrote⟩,
      ⟨world, Function.update wires.written conn (wires.written conn ++ wrote)⟩) := by
  obtain ⟨frame, framed, built⟩ := Option.bind_eq_some_iff.mp written
  simp only [transmit, stepped, Option.bind_eq_bind, Option.bind_some, tries, framed, built, sends,
    heeded]
  rfl

theorem frame_isSome {reply : Reply} {bytes : Bytes}
    (written : replyBytes codec reply = some bytes) : (reply.frame codec).isSome = true := by
  obtain ⟨frame, framed, -⟩ := Option.bind_eq_some_iff.mp written
  exact Option.isSome_of_eq_some framed

theorem transmit_accept : transmit codec config wires ⟨⟨epoch, .accept⟩, []⟩ =
    some (none, { wires with world := { wires.world with
      sessionCounter := wires.world.sessionCounter + 1
      connections := wires.world.connections ++
        [⟨sessionIdText (wires.world.sessionCounter + 1), .dequeued, []⟩] } }) :=
  transmit_silent rfl rfl

variable (found : wires.world.connections[conn]? = some connection)
include found

theorem transmit_welcome {welcome : Bytes} (dequeued : connection.phase = .dequeued)
    (built : replyBytes codec (welcomeReply (wires.world.messageCounter + 1) now
      connection.sessionId) = some welcome)
    (sends : sendAll welcome results = some (done, wrote)) :
    transmit codec config wires ⟨⟨now, .welcome conn done⟩, results⟩ =
      some (some ⟨conn, welcome, wrote⟩, wiresAfter wires
        { wires.world with messageCounter := wires.world.messageCounter + 1 } conn
        { connection with phase := if done then .welcomed else .returned } wrote) :=
  transmit_reply (step_welcome_iff.mpr ⟨connection, found, dequeued, frame_isSome built, rfl, rfl⟩)
    (by simp only [attempted, found, Option.map_some]) built sends (beq_self_eq_true done)

theorem transmit_configured (welcomed : connection.phase = .welcomed) :
    transmit codec config wires ⟨⟨epoch, .configure conn true⟩, []⟩ = some (none,
      wiresAfter wires wires.world conn { connection with phase := .serving } []) := by
  rw [wiresAfter_nil]
  exact transmit_silent (step_configure_iff.mpr ⟨connection, found, welcomed, rfl, rfl⟩) rfl

theorem transmit_unconfigured (welcomed : connection.phase = .welcomed) :
    transmit codec config wires ⟨⟨now, .configure conn false⟩, []⟩ = some (none,
      wiresAfter wires { wires.world with
        registry := markOfflineIfKnown wires.world.registry connection.activeNodeId now } conn
        { connection with phase := .returned } []) := by
  rw [wiresAfter_nil]
  exact transmit_silent (step_configure_iff.mpr ⟨connection, found, welcomed, rfl, rfl⟩) rfl

theorem transmit_teardown {status : FrameReadStatus} (serving : connection.phase = .serving) :
    transmit codec config wires ⟨⟨now, .teardown conn status⟩, []⟩ = some (none,
      wiresAfter wires { wires.world with
        registry := markOfflineIfKnown wires.world.registry connection.activeNodeId now } conn
        { connection with phase := .returned } []) := by
  rw [wiresAfter_nil]
  exact transmit_silent (step_teardown_iff.mpr ⟨connection, found, serving, rfl, rfl⟩) rfl

variable {frame : Frame} {listing : List NodeEntry} {served : Served}

theorem transmit_unanswered (serving : connection.phase = .serving)
    (listed : frame.messageType = .listNodes → wires.world.registry.IsSnapshot listing)
    (dispatched :
      dispatch codec wires.world.registry connection.activeNodeId frame now listing = served)
    (silent : served.reply = none) :
    transmit codec config wires ⟨⟨now, .frame conn frame listing⟩, []⟩ = some (none,
      wiresAfter wires { wires.world with registry := served.registry } conn
        { connection with activeNodeId := served.activeNodeId } []) := by
  rw [wiresAfter_nil]
  have stepped : step codec config wires.world ⟨now, .frame conn frame listing⟩ = _ :=
    step_frame_of found serving listed dispatched (by simp [silent])
  rw [silent] at stepped
  exact transmit_silent stepped rfl

theorem transmit_answered {reply : Reply} {answer : Bytes} (serving : connection.phase = .serving)
    (listed : frame.messageType = .listNodes → wires.world.registry.IsSnapshot listing)
    (dispatched :
      dispatch codec wires.world.registry connection.activeNodeId frame now listing = served)
    (replies : served.reply = some reply) (built : replyBytes codec reply = some answer)
    (sends : sendAll answer results = some (done, wrote)) :
    transmit codec config wires ⟨⟨now, .frame conn frame listing⟩, results⟩ =
      some (some ⟨conn, answer, wrote⟩,
        wiresAfter wires { wires.world with registry := served.registry } conn
          { connection with activeNodeId := served.activeNodeId } wrote) := by
  have writable : ∀ one ∈ served.reply, (one.frame codec).isSome := by
    intro one replied
    rw [replies] at replied
    cases replied
    exact frame_isSome built
  have stepped : step codec config wires.world ⟨now, .frame conn frame listing⟩ = _ :=
    step_frame_of found serving listed dispatched writable
  rw [replies] at stepped
  exact transmit_reply stepped rfl built sends rfl

end Transmit

/-! ### The two machines -/

/-- The guesses that are open. -/
def Service.Fits (state : Service) (ahead : Nat → List SendResult) : Prop :=
  ∀ conn activation, state.activations[conn]? = some activation →
    Activation.Fits (ahead conn) activation

/-- **The server and `transmit`** under a guess for every connection. -/
structure Mirrors (ahead : Nat → List SendResult) (trace : List ServiceTurn) (state : Service)
    (moves : List WireTurn) (wires : Wires) : Prop where
  registry : wires.world.registry = state.shared.registry
  sessionCounter : wires.world.sessionCounter = state.shared.sessionCounter
  messageCounter : wires.world.messageCounter = state.shared.messageCounter
  count : wires.world.connections.length = state.activations.length
  stands : ∀ {conn activation}, state.activations[conn]? = some activation →
    ∃ connection rest, wires.world.connections[conn]? = some connection ∧
      activation.Stands (ahead conn) connection rest ∧
      wires.written conn = sentBytes (trafficOn trace conn) ++ rest
  unborn : ∀ conn, state.activations.length ≤ conn →
    wires.written conn = [] ∧ trafficOn trace conn = []
  frames : ∀ conn, framesOn moves conn = handledFrames (trafficOn trace conn)

section Steps

variable {earlier ahead : Nat → List SendResult} {trace : List ServiceTurn} {state : Service}
  {moves moves' : List WireTurn} {wires wires' : Wires} {event : ServiceEvent}

/-- A step that is nothing to the connections. -/
theorem Mirrors.silent (mirrors : Mirrors ahead trace state moves wires) {next : Service}
    (shared : next.shared = state.shared) (activations : next.activations = state.activations) :
    Mirrors ahead (trace ++ [⟨state, event, none, next⟩]) next moves wires := by
  obtain ⟨registry, sessionCounter, messageCounter, count, stands, unborn, frames⟩ := mirrors
  refine ⟨?_, ?_, ?_, ?_, ?_, ?_, ?_⟩
  · rw [registry, shared]
  · rw [sessionCounter, shared]
  · rw [messageCounter, shared]
  · rw [count, activations]
  · intro conn activation found
    rw [activations] at found
    obtain ⟨connection, rest, there, standing, written⟩ := stands found
    refine ⟨connection, rest, there, standing, ?_⟩
    rw [written, trafficOn_silent]
  · intro conn later
    rw [activations] at later
    rw [trafficOn_silent]
    exact unborn conn later
  · intro conn
    rw [trafficOn_silent]
    exact frames conn

/-- **A step on one connection.** What is to be shown is how this one stands; the others are as
before. -/
theorem Mirrors.act {conn : Nat} {activation moved : Activation} {traffic : Option Traffic}
    {shared : Shared} {threads : Intake} {jobs : List Job}
    (mirrors : Mirrors earlier trace state moves wires)
    (found : state.activations[conn]? = some activation)
    (same : ∀ other, other ≠ conn → earlier other = ahead other)
    (registry : wires'.world.registry = shared.registry)
    (sessionCounter : wires'.world.sessionCounter = shared.sessionCounter)
    (messageCounter : wires'.world.messageCounter = shared.messageCounter)
    (count : wires'.world.connections.length = wires.world.connections.length)
    (others : ∀ other, other ≠ conn →
      wires'.world.connections[other]? = wires.world.connections[other]? ∧
        wires'.written other = wires.written other)
    (here : ∃ connection rest, wires'.world.connections[conn]? = some connection ∧
      moved.Stands (ahead conn) connection rest ∧
      wires'.written conn = sentBytes (trafficOn trace conn ++ traffic.toList) ++ rest)
    (frames : ∀ other, framesOn moves' other =
      framesOn moves other ++ if other = conn then handledFrames traffic.toList else []) :
    let next : Service := ⟨threads, shared, jobs, state.activations.set conn moved⟩
    Mirrors ahead (trace ++ [⟨state, event, traffic.map (conn, ·), next⟩]) next moves' wires' := by
  intro next
  obtain ⟨inside, -⟩ := List.getElem?_eq_some_iff.mp found
  refine ⟨registry, sessionCounter, messageCounter, ?_, ?_, ?_, ?_⟩
  · show _ = (state.activations.set conn moved).length
    rw [count, mirrors.count, List.length_set]
  · intro other activation' there
    have there : (state.activations.set conn moved)[other]? = some activation' := there
    by_cases ours : other = conn
    · subst ours
      rw [List.getElem?_set_self inside] at there
      cases there
      rw [trafficOn_self]
      exact here
    · rw [List.getElem?_set_ne (Ne.symm ours)] at there
      obtain ⟨connection, rest, place, standing, written⟩ := mirrors.stands there
      obtain ⟨unmoved, unwritten⟩ := others other ours
      refine ⟨connection, rest, unmoved.trans place, same other ours ▸ standing, ?_⟩
      rw [unwritten, written, trafficOn_other ours]
  · intro other later
    have later : (state.activations.set conn moved).length ≤ other := later
    rw [List.length_set] at later
    have ours : other ≠ conn := by omega
    rw [(others other ours).2, trafficOn_other ours]
    exact mirrors.unborn other later
  · intro other
    rw [frames, mirrors.frames]
    by_cases ours : other = conn
    · subst ours
      rw [if_pos rfl, trafficOn_self, handledFrames, handledFrames, handledFrames,
        List.flatMap_append]
    · rw [if_neg ours, trafficOn_other ours, List.append_nil]

/-- A step on a connection that `transmit` has taken already, or does not take. -/
theorem Mirrors.quiet {conn : Nat} {activation moved : Activation} {traffic : Option Traffic}
    {shared : Shared} {threads : Intake} {jobs : List Job}
    (mirrors : Mirrors earlier trace state moves wires)
    (found : state.activations[conn]? = some activation)
    (same : ∀ other, other ≠ conn → earlier other = ahead other)
    (registry : shared.registry = state.shared.registry)
    (sessionCounter : shared.sessionCounter = state.shared.sessionCounter)
    (messageCounter : shared.messageCounter = state.shared.messageCounter)
    (unhandled : handledFrames traffic.toList = [])
    (goes : ∀ connection rest, activation.Stands (earlier conn) connection rest →
      ∃ left, moved.Stands (ahead conn) connection left ∧
        rest = sentBytes traffic.toList ++ left) :
    let next : Service := ⟨threads, shared, jobs, state.activations.set conn moved⟩
    Mirrors ahead (trace ++ [⟨state, event, traffic.map (conn, ·), next⟩]) next moves wires := by
  obtain ⟨connection, rest, there, standing, written⟩ := mirrors.stands found
  obtain ⟨left, stands, rfl⟩ := goes connection rest standing
  refine mirrors.act found same (mirrors.registry.trans registry.symm)
    (mirrors.sessionCounter.trans sessionCounter.symm)
    (mirrors.messageCounter.trans messageCounter.symm) rfl (fun _ _ => ⟨rfl, rfl⟩)
    ⟨connection, left, there, stands, ?_⟩ fun other => ?_
  · rw [written, sentBytes, sentBytes, sentBytes, List.flatMap_append, List.append_assoc]
  · rw [unhandled, ite_self, List.append_nil]

/-- A step on a connection that is one of `transmit`. -/
theorem Mirrors.goesOn {conn : Nat} {activation moved : Activation} {traffic : Option Traffic}
    {shared : Shared} {threads : Intake} {jobs : List Job} {world : World}
    {connection : Connection} {wrote : Bytes}
    (mirrors : Mirrors earlier trace state moves wires)
    (found : state.activations[conn]? = some activation)
    (same : ∀ other, other ≠ conn → earlier other = ahead other)
    (registry : world.registry = shared.registry)
    (sessionCounter : world.sessionCounter = shared.sessionCounter)
    (messageCounter : world.messageCounter = shared.messageCounter)
    (connections : world.connections = wires.world.connections)
    (unsent : sentBytes traffic.toList = [])
    (flushed : wires.written conn = sentBytes (trafficOn trace conn))
    (stands : moved.Stands (ahead conn) connection wrote)
    (frames : ∀ other, framesOn moves' other =
      framesOn moves other ++ if other = conn then handledFrames traffic.toList else []) :
    let next : Service := ⟨threads, shared, jobs, state.activations.set conn moved⟩
    Mirrors ahead (trace ++ [⟨state, event, traffic.map (conn, ·), next⟩]) next moves'
      (wiresAfter wires world conn connection wrote) := by
  have inside : conn < world.connections.length := by
    rw [connections, mirrors.count]
    exact (List.getElem?_eq_some_iff.mp found).1
  refine mirrors.act found same registry sessionCounter messageCounter ?_ (fun other apart => ?_)
    ⟨connection, wrote, ?_, stands, ?_⟩ frames
  · show (world.connections.set conn connection).length = _
    rw [List.length_set, connections]
  · refine ⟨?_, Function.update_of_ne apart ..⟩
    show (world.connections.set conn connection)[other]? = _
    rw [List.getElem?_set_ne apart.symm, connections]
  · exact List.getElem?_set_self inside
  · show Function.update wires.written conn _ conn = _
    rw [Function.update_self, flushed, sentBytes, sentBytes, List.flatMap_append]
    congr 1
    exact (List.append_nil _).symm.trans (congrArg _ unsent.symm)

/-- A new connection. -/
theorem Mirrors.born {jobs : List Job} (mirrors : Mirrors ahead trace state moves wires)
    (frames : ∀ conn, framesOn moves' conn = framesOn moves conn) :
    let next : Service := { state with
      shared := { state.shared with sessionCounter := state.shared.sessionCounter + 1 }
      jobs := jobs
      activations := state.activations ++
        [.named (sessionIdText (state.shared.sessionCounter + 1))] }
    Mirrors ahead (trace ++ [⟨state, event, none, next⟩]) next moves' { wires with
      world := { wires.world with
        sessionCounter := wires.world.sessionCounter + 1
        connections := wires.world.connections ++
          [⟨sessionIdText (wires.world.sessionCounter + 1), .dequeued, []⟩] } } := by
  intro next
  refine ⟨mirrors.registry, ?_, mirrors.messageCounter, ?_, ?_, ?_, ?_⟩
  · exact congrArg (· + 1) mirrors.sessionCounter
  · show (_ ++ [_]).length = (_ ++ [_]).length
    rw [List.length_append, List.length_append, mirrors.count]
    rfl
  · intro conn activation found
    have found : (state.activations ++ [_])[conn]? = some activation := found
    show ∃ connection rest, (_ ++ [_])[conn]? = some connection ∧ _ ∧ _
    rw [trafficOn_silent]
    by_cases old : conn < state.activations.length
    · rw [List.getElem?_append_left old] at found
      rw [List.getElem?_append_left (mirrors.count ▸ old)]
      exact mirrors.stands found
    · obtain ⟨unwritten, nothing⟩ := mirrors.unborn conn (Nat.not_lt.mp old)
      rw [List.getElem?_append_right (Nat.not_lt.mp old)] at found
      rw [List.getElem?_append_right (mirrors.count ▸ Nat.not_lt.mp old), mirrors.count]
      cases gap : conn - state.activations.length with
      | succ less =>
          rw [gap] at found
          cases found
      | zero =>
          rw [gap] at found
          cases found
          refine ⟨_, [], rfl, ⟨by rw [mirrors.sessionCounter], rfl⟩, ?_⟩
          show wires.written conn = _
          rw [unwritten, nothing]
          rfl
  · intro conn later
    have later : (state.activations ++ [_]).length ≤ conn := later
    rw [List.length_append] at later
    rw [trafficOn_silent]
    exact mirrors.unborn conn (Nat.le_of_succ_le later)
  · intro conn
    rw [frames, trafficOn_silent]
    exact mirrors.frames conn

end Steps

/-! ### One step -/

section Step

variable {moves : List WireTurn} {turn : WireTurn}

theorem framesOn_frame {target : Nat} {frame : Frame} {listing : List NodeEntry}
    (action : turn.event.event.action = .frame target frame listing) (conn : Nat) :
    framesOn (moves ++ [turn]) conn =
      framesOn moves conn ++ if conn = target then [frame] else [] := by
  rw [framesOn, List.flatMap_append, List.flatMap_singleton, action]
  by_cases ours : target = conn
  · simp [framesOn, ours]
  · simp [framesOn, ours, Ne.symm ours]

theorem framesOn_other (action : ∀ conn frame listing,
    turn.event.event.action ≠ .frame conn frame listing) (conn : Nat) :
    framesOn (moves ++ [turn]) conn = framesOn moves conn := by
  rw [framesOn, List.flatMap_append, List.flatMap_singleton]
  split
  · rename_i target frame listing same
    exact absurd same (action target frame listing)
  · exact List.append_nil _

/-- **A step on a connection**, with the guess before it: `transmit` has taken it, takes it now, or
has nothing to take. -/
theorem mirrors_advance {start : Wires} {ahead : Nat → List SendResult}
    {trace : List ServiceTurn} {state : Service} {wires : Wires} {conn : Nat}
    {activation moved : Activation} {activity : Activity} {traffic : Option Traffic}
    {shared : Shared} {threads : Intake} {jobs : List Job} {event : ServiceEvent}
    (found : state.activations[conn]? = some activation)
    (advances : Advances codec state.shared activation activity traffic moved shared)
    (fit : moved.Fits (ahead conn)) (run : Run (transmit codec config) start moves wires)
    (mirrors : Mirrors (Function.update ahead conn (guessBefore (ahead conn) activity)) trace state
      moves wires) :
    let next : Service := ⟨threads, shared, jobs, state.activations.set conn moved⟩
    ∃ moves' wires', Run (transmit codec config) start moves' wires' ∧
      Mirrors ahead (trace ++ [⟨state, event, traffic.map (conn, ·), next⟩]) next moves'
        wires' := by
  intro reached
  have same : ∀ other, other ≠ conn →
      Function.update ahead conn (guessBefore (ahead conn) activity) other = ahead other :=
    fun other apart => Function.update_of_ne apart ..
  obtain ⟨connection, rest, there, standing, written⟩ := mirrors.stands found
  rw [Function.update_self] at standing
  cases advances with
  | nextMessageId built =>
      obtain ⟨rfl, rfl⟩ := standing
      obtain ⟨done, wrote, sends⟩ := fit
      rw [← mirrors.messageCounter] at built
      refine ⟨_, _, run.snoc (transmit_welcome there rfl built sends.whole),
        mirrors.goesOn found same mirrors.registry mirrors.sessionCounter ?_ rfl rfl
          (written.trans (List.append_nil _)) ⟨done, sends, rfl, rfl⟩ fun other => ?_⟩
      · exact congrArg (· + 1) mirrors.messageCounter
      · rw [framesOn_other (by simp)]
        simp [handledFrames]
  | sendWelcome called =>
      refine ⟨moves, wires, run, mirrors.quiet found same rfl rfl rfl rfl ?_⟩
      rw [Function.update_self]
      rintro connection rest ⟨done, sends, phase, active⟩
      obtain ⟨done', left, sends'⟩ := fit
      obtain ⟨rfl, rfl⟩ := sends.unique (sends'.call called)
      exact ⟨left, ⟨done, sends', phase, active⟩, by simp [sentBytes]⟩
  | @welcomed welcome sent totalSent =>
      refine ⟨moves, wires, run, mirrors.quiet found same rfl rfl rfl rfl ?_⟩
      rw [Function.update_self]
      rintro connection rest ⟨done, sends, phase, active⟩
      obtain ⟨-, rfl, rfl⟩ := sendsOn_returned.mp sends
      refine ⟨[], ?_, rfl⟩
      cases done with
      | true => exact ⟨phase, active, rfl⟩
      | false => exact ⟨phase, rfl⟩
  | configured =>
      obtain ⟨phase, active, rfl⟩ := standing
      refine ⟨_, _, run.snoc (transmit_configured there phase),
        mirrors.goesOn found same mirrors.registry mirrors.sessionCounter mirrors.messageCounter rfl
          rfl (written.trans (List.append_nil _)) ⟨rfl, active, rfl⟩ fun other => ?_⟩
      rw [framesOn_other (by simp)]
      simp [handledFrames]
  | unconfigured =>
      refine ⟨moves, wires, run, mirrors.quiet found same rfl rfl rfl rfl ?_⟩
      rintro connection rest ⟨phase, active, rfl⟩
      exact ⟨[], ⟨phase, active, rfl⟩, rfl⟩
  | @recv activeNodeId _ _ next _ _ =>
      refine ⟨moves, wires, run, mirrors.quiet found same rfl rfl rfl rfl ?_⟩
      rintro connection rest ⟨phase, active, rfl⟩
      refine ⟨[], ?_, rfl⟩
      cases next with
      | returned result => cases result <;> exact ⟨phase, active, rfl⟩
      | _ => exact ⟨phase, active, rfl⟩
  | @handle activeNodeId frame now listing served moved listed dispatched answered =>
      obtain ⟨phase, rfl, rfl⟩ := standing
      rw [← mirrors.registry] at listed dispatched
      cases replies : served.reply with
      | none =>
          rw [afterHandle, replies] at answered
          cases answered
          refine ⟨_, _, run.snoc (transmit_unanswered there phase listed dispatched replies),
            mirrors.goesOn found same rfl mirrors.sessionCounter mirrors.messageCounter rfl
              rfl (written.trans (List.append_nil _)) ⟨phase, rfl, rfl⟩ fun other => ?_⟩
          rw [framesOn_frame rfl]
          simp [handledFrames]
      | some reply =>
          rw [afterHandle, replies] at answered
          obtain ⟨answer, built, rfl⟩ := Option.map_eq_some_iff.mp answered
          obtain ⟨done, wrote, sends⟩ := fit
          refine ⟨_, _, run.snoc (transmit_answered there phase listed dispatched replies built
              sends.whole), mirrors.goesOn found same rfl mirrors.sessionCounter
            mirrors.messageCounter rfl rfl (written.trans (List.append_nil _))
            ⟨phase, rfl, done, sends⟩ fun other => ?_⟩
          rw [framesOn_frame rfl]
          simp [handledFrames]
  | @sendAnswer _ _ _ _ _ next _ called =>
      refine ⟨moves, wires, run, mirrors.quiet found same rfl rfl rfl rfl ?_⟩
      rw [Function.update_self]
      rintro connection rest ⟨phase, active, done, sends⟩
      cases next with
      | sending totalSent =>
          obtain ⟨done', left, sends'⟩ := fit
          obtain ⟨rfl, rfl⟩ := sends.unique (sends'.call called)
          exact ⟨left, ⟨phase, active, done, sends'⟩, by simp [sentBytes]⟩
      | returned sent totalSent =>
          have nothing : ahead conn = [] := fit
          obtain ⟨-, rfl⟩ :=
            sends.unique ((sendsOn_returned.mpr ⟨nothing, rfl, rfl⟩).call called)
          exact ⟨[], ⟨phase, active, rfl⟩, by simp [sentBytes]⟩
  | increment | observe =>
      refine ⟨moves, wires, run, mirrors.quiet found same rfl rfl rfl rfl ?_⟩
      rintro connection rest ⟨phase, active, rfl⟩
      exact ⟨[], ⟨phase, active, rfl⟩, rfl⟩
  | @markOffline _ status now =>
      obtain ⟨phase, rfl, rfl⟩ := standing
      have registry : markOfflineIfKnown wires.world.registry connection.activeNodeId now =
          markOfflineIfKnown state.shared.registry connection.activeNodeId now := by
        rw [mirrors.registry]
      cases status with
      | none =>
          refine ⟨_, _, run.snoc (transmit_unconfigured there phase),
            mirrors.goesOn found same registry mirrors.sessionCounter mirrors.messageCounter rfl rfl
              (written.trans (List.append_nil _)) ⟨rfl, rfl⟩ fun other => ?_⟩
          rw [framesOn_other (by simp)]
          simp [handledFrames]
      | some status =>
          have taken : transmit codec config wires ⟨⟨now, .teardown conn status⟩, []⟩ = _ :=
            transmit_teardown there phase
          refine ⟨_, _, run.snoc taken,
            mirrors.goesOn found same registry mirrors.sessionCounter mirrors.messageCounter rfl rfl
              (written.trans (List.append_nil _)) ⟨rfl, rfl⟩ fun other => ?_⟩
          rw [framesOn_other (by simp)]
          simp [handledFrames]
  | finished =>
      refine ⟨moves, wires, run, mirrors.quiet found same rfl rfl rfl rfl ?_⟩
      rintro connection rest ⟨phase, rfl⟩
      exact ⟨[], ⟨phase, rfl⟩, rfl⟩

/-- **One step of the server**, with the guess before it. -/
theorem mirrors_service {start : Wires} {ahead : Nat → List SendResult}
    {trace : List ServiceTurn} {state next : Service} {event : ServiceEvent}
    {output : Option (Nat × Traffic)}
    (taken : service codec maxClients state event = some (output, next)) (fit : next.Fits ahead) :
    ∃ earlier, state.Fits earlier ∧ ∀ moves wires, Run (transmit codec config) start moves wires →
      Mirrors earlier trace state moves wires →
      ∃ moves' wires', Run (transmit codec config) start moves' wires' ∧
        Mirrors ahead (trace ++ [⟨state, event, output, next⟩]) next moves' wires' := by
  cases serves_of_service taken with
  | thread _ _ =>
      exact ⟨ahead, fit, fun moves wires run mirrors => ⟨moves, wires, run, mirrors.silent rfl rfl⟩⟩
  | dequeue _ =>
      exact ⟨ahead, fit, fun moves wires run mirrors => ⟨moves, wires, run, mirrors.silent rfl rfl⟩⟩
  | nextSessionId _ =>
      refine ⟨ahead, fun conn activation found => fit conn activation ?_,
        fun moves wires run mirrors => ?_⟩
      · obtain ⟨inside, -⟩ := List.getElem?_eq_some_iff.mp found
        exact (List.getElem?_append_left inside).trans found
      · exact ⟨_, _, run.snoc transmit_accept, mirrors.born (framesOn_other (by simp))⟩
  | @act worker conn activity activation moved traffic shared threads serving found advances _ =>
      obtain ⟨inside, -⟩ := List.getElem?_eq_some_iff.mp found
      have here : moved.Fits (ahead conn) := fit conn moved (List.getElem?_set_self inside)
      refine ⟨Function.update ahead conn (guessBefore (ahead conn) activity),
        fun other one there => ?_,
        fun moves wires run mirrors => mirrors_advance found advances here run mirrors⟩
      by_cases ours : other = conn
      · subst ours
        cases there.symm.trans found
        rw [Function.update_self]
        exact advances.fits here
      · rw [Function.update_of_ne ours]
        exact fit other one ((List.getElem?_set_ne (Ne.symm ours)).trans there)

end Step

/-! ### What is read -/

/-- A frame that has been read and not handled. -/
def Activation.waiting : Activation → List Frame
  | .handling _ frame => [frame]
  | _ => []

/-- The bytes the calls of one `readFrame` have taken by the time it has got there. -/
def Took (loop : ReadLoop) (bytes : Bytes) : Prop :=
  ∃ calls, Run recvCall .start calls loop ∧ bytes = (calls.map Transition.output).flatten

/-- The bytes taken off the connection that are no whole frame: those of the `readFrame` under way,
or of the one that failed and so ended the connection. -/
def Activation.Part (bytes : Bytes) : Activation → Prop
  | .reading _ loop => Took loop bytes
  | .leaving _ (some status) => Took (.returned (.error status)) bytes
  | .left | .done => bytes = [] ∨ ∃ status, Took (.returned (.error status)) bytes
  | _ => bytes = []

/-- **What has been received is what has been handled**: whole frames, one behind the other, of
which the last may still wait, and the beginning of one more. -/
def Activation.Reads (activation : Activation) (traffic : List Traffic) : Prop :=
  ∃ taken part, receivedBytes traffic = taken.flatten ++ part ∧
    List.Forall₂ IsFrame taken (handledFrames traffic ++ activation.waiting) ∧
    activation.Part part

section Reads

variable {shared after : Shared} {activation moved : Activation} {activity : Activity}
  {traffic : Option Traffic} {before : List Traffic}

/-- A step that neither receives nor handles. -/
theorem Activation.Reads.kept (reads : activation.Reads before)
    (unread : receivedBytes traffic.toList = []) (unhandled : handledFrames traffic.toList = [])
    (waiting : moved.waiting = activation.waiting)
    (part : ∀ bytes, activation.Part bytes → moved.Part bytes) :
    moved.Reads (before ++ traffic.toList) := by
  obtain ⟨taken, bytes, received, frames, partly⟩ := reads
  refine ⟨taken, bytes, ?_, ?_, part bytes partly⟩
  · rw [receivedBytes, List.flatMap_append]
    exact (congrArg _ unread).trans ((List.append_nil _).trans received)
  · have same : handledFrames (before ++ traffic.toList) = handledFrames before := by
      rw [handledFrames, List.flatMap_append]
      exact (congrArg _ unhandled).trans (List.append_nil _)
    rw [same, waiting]
    exact frames

theorem Advances.reads (advances : Advances codec shared activation activity traffic moved after)
    (reads : activation.Reads before) : moved.Reads (before ++ traffic.toList) := by
  cases advances with
  | nextMessageId _ => exact reads.kept rfl rfl rfl fun _ => id
  | sendWelcome _ => exact reads.kept rfl rfl rfl fun _ => id
  | @welcomed _ sent _ =>
      cases sent with
      | true => exact reads.kept rfl rfl rfl fun _ => id
      | false => exact reads.kept rfl rfl rfl fun _ => .inl
  | configured => exact reads.kept rfl rfl rfl fun _ nothing => ⟨[], .nil, nothing⟩
  | unconfigured => exact reads.kept rfl rfl rfl fun _ => id
  | @recv activeNodeId bytes loop next result called =>
      obtain ⟨taken, part, received, frames, calls, run, rfl⟩ := reads
      have grown := run.snoc called
      have more : receivedBytes (before ++ [.received bytes]) = taken.flatten ++
          ((calls.map Transition.output).flatten ++ bytes) := by
        rw [receivedBytes, List.flatMap_append, ← List.append_assoc]
        exact congrArg₂ _ received (List.flatMap_singleton ..)
      have same : handledFrames (before ++ [.received bytes]) = handledFrames before := by
        rw [handledFrames, List.flatMap_append]
        exact List.append_nil _
      have output : ((calls ++ [(⟨loop, result, bytes, next⟩ : Transition _ _ _)]).map
          Transition.output).flatten = (calls.map Transition.output).flatten ++ bytes := by
        simp
      cases next with
      | returned outcome =>
          cases outcome with
          | error status =>
              exact ⟨taken, _, more, by rw [Option.toList_some, same]; exact frames, _, grown,
                output.symm⟩
          | ok frame =>
              have isFrame := recvCalls_isFrame grown
              rw [output] at isFrame
              refine ⟨taken ++ [(calls.map Transition.output).flatten ++ bytes], [], ?_, ?_, rfl⟩
              · rw [Option.toList_some, more]
                simp
              · rw [Option.toList_some, same]
                have whole := frames
                simp only [Activation.waiting, List.append_nil] at whole
                exact List.rel_append whole (.cons isFrame .nil)
      | _ =>
          exact ⟨taken, _, more, by rw [Option.toList_some, same]; exact frames, _, grown,
            output.symm⟩
  | @handle activeNodeId frame now listing served moved _ _ answered =>
      obtain ⟨taken, part, received, frames, rfl⟩ := reads
      have more : receivedBytes (before ++ [.handled frame]) = taken.flatten ++ [] := by
        rw [receivedBytes, List.flatMap_append]
        exact (List.append_nil _).trans received
      have handled : handledFrames (before ++ [.handled frame]) = handledFrames before ++ [frame] :=
        List.flatMap_append
      have whole : List.Forall₂ IsFrame taken (handledFrames before ++ [frame] ++ []) := by
        rw [List.append_nil]
        exact frames
      rw [afterHandle] at answered
      cases replies : served.reply with
      | none =>
          rw [replies] at answered
          cases answered
          exact ⟨taken, [], more, by rw [Option.toList_some, handled]; exact whole, rfl⟩
      | some reply =>
          rw [replies] at answered
          obtain ⟨answer, -, rfl⟩ := Option.map_eq_some_iff.mp answered
          exact ⟨taken, [], more, by rw [Option.toList_some, handled]; exact whole, rfl⟩
  | @sendAnswer _ _ _ _ _ next _ _ =>
      cases next with
      | sending totalSent => exact reads.kept rfl rfl rfl fun _ => id
      | returned sent totalSent => exact reads.kept rfl rfl rfl fun _ => id
  | increment => exact reads.kept rfl rfl rfl fun _ => id
  | observe => exact reads.kept rfl rfl rfl fun _ nothing => ⟨[], .nil, nothing⟩
  | @markOffline _ status _ =>
      cases status with
      | none => exact reads.kept rfl rfl rfl fun _ => .inl
      | some status => exact reads.kept rfl rfl rfl fun _ took => .inr ⟨status, took⟩
  | finished => exact reads.kept rfl rfl rfl fun _ => id

end Reads

variable {threads : Nat} {registry : NodeRegistry} {trace : List ServiceTurn} {state : Service}

/-- **The frames a connection is served** are those its bytes consist of, in order; no traffic is on
a connection there is not. -/
theorem frames_received
    (run : Run (service codec maxClients) (.boot threads registry) trace state) :
    (∀ conn activation, state.activations[conn]? = some activation →
      Activation.Reads activation (trafficOn trace conn)) ∧
    ∀ conn, state.activations.length ≤ conn → trafficOn trace conn = [] := by
  induction run with
  | nil =>
      refine ⟨fun conn activation found => ?_, fun _ _ => rfl⟩
      cases found
  | @snoc trace state next event output _ taken ih =>
      obtain ⟨reads, unborn⟩ := ih
      cases serves_of_service taken with
      | thread _ _ | dequeue _ =>
          simp only [trafficOn_silent]
          exact ⟨reads, unborn⟩
      | nextSessionId _ =>
          simp only [trafficOn_silent]
          refine ⟨fun conn activation found => ?_, fun conn later => unborn conn ?_⟩
          · by_cases old : conn < state.activations.length
            · rw [List.getElem?_append_left old] at found
              exact reads conn activation found
            · rw [unborn conn (Nat.not_lt.mp old)]
              rw [List.getElem?_append_right (Nat.not_lt.mp old)] at found
              cases gap : conn - state.activations.length with
              | succ less =>
                  rw [gap] at found
                  cases found
              | zero =>
                  rw [gap] at found
                  cases found
                  exact ⟨[], [], rfl, .nil, rfl⟩
          · rw [List.length_append] at later
            exact Nat.le_of_succ_le later
      | @act worker conn _ activation moved traffic _ _ _ found advances _ =>
          obtain ⟨inside, -⟩ := List.getElem?_eq_some_iff.mp found
          refine ⟨fun other one there => ?_, fun other later => ?_⟩
          · by_cases ours : other = conn
            · subst ours
              rw [List.getElem?_set_self inside] at there
              cases there
              rw [trafficOn_self]
              exact advances.reads (reads other activation found)
            · rw [List.getElem?_set_ne (Ne.symm ours)] at there
              rw [trafficOn_other ours]
              exact reads other one there
          · rw [List.length_set] at later
            rw [trafficOn_other (by omega)]
            exact unborn other later

/-! ### Whole runs -/

/-- The guess that nothing more is accepted. -/
def Activation.silence : Activation → List SendResult
  | .welcoming _ loop | .answering _ _ _ loop => nothingMore loop
  | _ => []

theorem Activation.fits_silence (activation : Activation) : activation.Fits activation.silence := by
  cases activation with
  | welcoming data loop | answering _ _ data loop =>
      obtain ⟨done, sends⟩ := sendsOn_nothingMore data loop
      exact ⟨done, [], sends⟩
  | _ => rfl

/-- With that guess nothing is still to be written. -/
theorem Activation.Stands.flushed {activation : Activation} {connection : Connection} {rest : Bytes}
    (stands : activation.Stands activation.silence connection rest) : rest = [] := by
  cases activation with
  | welcoming data loop =>
      obtain ⟨done, sends, -⟩ := stands
      obtain ⟨other, nothing⟩ := sendsOn_nothingMore data loop
      exact (sends.unique nothing).2
  | answering _ _ data loop =>
      obtain ⟨-, -, done, sends⟩ := stands
      obtain ⟨other, nothing⟩ := sendsOn_nothingMore data loop
      exact (sends.unique nothing).2
  | named | left | done => exact stands.2
  | _ => exact stands.2.2

/-- The frame that has been read on a connection and not handled, if there is one. -/
def Service.waitingOn (state : Service) (conn : Nat) : List Frame :=
  ((state.activations[conn]?).map Activation.waiting).getD []

/-- **The server is `World`.** To every run of the threads, call by call, there is a run of
`transmit` with the same registry at its end. Every connection has been sent the same bytes in
both; it has been served exactly the frames that the bytes received on it consist of, in their
order, except for one that may just have been read; all that is behind them is what one `readFrame`
has taken that is still under way or has failed (`Activation.Part`); and where a pass is over, so is
the connection. -/
theorem service_refines
    (run : Run (service codec maxClients) (.boot threads registry) trace state) :
    ∃ moves wires, Run (transmit codec config) (.boot registry) moves wires ∧
      wires.world.registry = state.shared.registry ∧
      wires.world.connections.length = state.activations.length ∧
      ∀ conn, wires.written conn = sentBytes (trafficOn trace conn) ∧
        (∃ taken part, receivedBytes (trafficOn trace conn) = taken.flatten ++ part ∧
          List.Forall₂ IsFrame taken (framesOn moves conn ++ state.waitingOn conn) ∧
          ∀ activation, state.activations[conn]? = some activation → activation.Part part) ∧
        (state.activations[conn]? = some .done → wires.world.phase conn = some .returned) := by
  let ahead (conn : Nat) : List SendResult :=
    ((state.activations[conn]?).map Activation.silence).getD []
  have silent {conn : Nat} {activation : Activation}
      (found : state.activations[conn]? = some activation) : ahead conn = activation.silence := by
    show ((state.activations[conn]?).map Activation.silence).getD [] = _
    rw [found]
    rfl
  have fit : state.Fits ahead := fun conn activation found =>
    silent found ▸ activation.fits_silence
  have initial : ∀ ahead, (Service.boot threads registry).Fits ahead →
      Mirrors ahead [] (.boot threads registry) [] (.boot registry) := by
    intro ahead _
    refine ⟨rfl, rfl, rfl, rfl, ?_, fun _ _ => ⟨rfl, rfl⟩, fun _ => rfl⟩
    intro conn activation found
    cases found
  obtain ⟨moves, wires, run', mirrors⟩ : ∃ moves wires,
      Run (transmit codec config) (.boot registry) moves wires ∧
        Mirrors ahead trace state moves wires :=
    run.foresee Service.Fits Mirrors initial mirrors_service fit
  obtain ⟨reads, unborn⟩ := frames_received run
  refine ⟨moves, wires, run', mirrors.registry, mirrors.count, fun conn => ?_⟩
  cases found : state.activations[conn]? with
  | none =>
      have later : state.activations.length ≤ conn := List.getElem?_eq_none_iff.mp found
      have nothing := unborn conn later
      refine ⟨?_, ⟨[], [], ?_, ?_, nofun⟩, nofun⟩
      · rw [(mirrors.unborn conn later).1, nothing]
        rfl
      · rw [nothing]
        rfl
      · rw [mirrors.frames, nothing, Service.waitingOn, found]
        exact .nil
  | some activation =>
      obtain ⟨connection, rest, there, stands, written⟩ := mirrors.stands found
      rw [silent found] at stands
      obtain ⟨taken, part, received, frames, partly⟩ := reads conn activation found
      refine ⟨?_, ⟨taken, part, received, ?_, ?_⟩, ?_⟩
      · rw [written, stands.flushed, List.append_nil]
      · rw [mirrors.frames, Service.waitingOn, found]
        exact frames
      · rintro _ ⟨⟩
        exact partly
      · intro through
        cases through
        rw [World.phase_eq there, stands.1]

theorem service_refines_twoAtOnce :
    ∃ moves wires, Run (transmit Json.flatCodec .default) (.boot .empty) moves wires ∧
      wires.world.connections.length = 2 ∧ (wires.written 0).length = 110 ∧
      (wires.written 1).length = 107 := by
  let machine := service Json.flatCodec 10
  let trace := execTrace machine (.boot 2 .empty) twoAtOnce
  let state := execFinal machine (.boot 2 .empty) twoAtOnce
  have facts : (exec machine (.boot 2 .empty) twoAtOnce).isSome = true ∧
      state.activations.length = 2 ∧ (sentBytes (trafficOn trace 0)).length = 110 ∧
      (sentBytes (trafficOn trace 1)).length = 107 := by decide +kernel
  obtain ⟨possible, two, first, second⟩ := facts
  obtain ⟨moves, wires, run, -, count, same⟩ := service_refines (run_of_possible possible)
  refine ⟨moves, wires, run, count.trans two, ?_, ?_⟩
  · rw [(same 0).1]
    exact first
  · rw [(same 1).1]
    exact second

end ExodusOps.Serving
