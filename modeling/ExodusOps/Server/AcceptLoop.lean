/-
**The accept loop.**

`SocketAcceptor::acceptLoop` once more, now with the calls it makes on a connection it rejects:
`setsockopt`, `sendAll` of the error frame whatever it returns, `close`. Every step is, seen without
them, a step of `intake` (`intake_of_gate`), so the workers and the calls of `stop` interleave as
there.

* `acceptLoop_ends_iff` — **the loop ends on request** exactly if `accept` fails with nothing but an
  interrupt as long as the flag is not set; one aborted connection is enough to end it. Apart from
  that every connection accepted is dealt with: the count is read once, and then it is passed to
  `onAccept` once, or gets one attempt at the error frame and is closed once.
* `aborted_connection_ends_loop` — such a connection.
-/

import ExodusOps.Lib.JsonFlat
import ExodusOps.Server.Capacity
import ExodusOps.Server.Handlers
import ExodusOps.Wire.SendAll

namespace ExodusOps

open MessageSerializer

variable {codec : JsonCodec} {maxClients : UInt32}

/-! ### The rejection -/

/-- The frame a connection over capacity is sent; `none` where `dump` throws. -/
def capacityFrame (codec : JsonCodec) : Option Bytes := do
  let frame ← (errorReply 0 .errCapacity (text "Server at maximum client capacity")).frame codec
  buildFrame frame.messageType frame.messageId frame.payload

/-- Where the acceptor is with a connection it rejects. -/
inductive Rejection where
  /-- Before `setsockopt`. -/
  | configuring
  /-- In `sendAll`, with the bytes that have not been accepted yet. -/
  | sending (left : Bytes)
  /-- Before `close`. -/
  | closing
  deriving DecidableEq, Repr

namespace Rejection

/-- `sendAll` at the condition of its loop. -/
def atLoop (left : Bytes) : Rejection := if left = [] then .closing else .sending left

theorem atLoop_cons (byte : UInt8) (bytes : Bytes) :
    atLoop (byte :: bytes) = .sending (byte :: bytes) :=
  if_neg (List.cons_ne_nil byte bytes)

/-- A call of `send` in `sendAll`. -/
def send : Rejection → SendResult → Option Rejection
  | .sending left, .sent count =>
      if count ≤ left.length then some (atLoop (left.drop count)) else none
  | .sending left, .failed .eintr => some (.sending left)
  | .sending _, .failed _ => some .closing
  | _, _ => none

/-- **The calls are those of `sendAll`**: as long as the acceptor is in it, it has not returned on
what they gave, and once the acceptor is past it, it has. -/
theorem send_sendAll {left : Bytes} {results : List SendResult} {reached : Rejection}
    (called : results.foldlM send (atLoop left) = some reached) :
    reached = .closing ↔ (sendAll left results).isSome = true := by
  induction results generalizing left with
  | nil =>
      cases called
      cases left <;> simp [atLoop, sendAll]
  | cons result later ih =>
      obtain ⟨middle, first, rest⟩ := Option.bind_eq_some_iff.mp called
      cases left with
      | nil => cases first
      | cons byte bytes =>
          rw [atLoop_cons] at first
          cases result with
          | sent count =>
              rw [send] at first
              split_ifs at first with fits
              cases first
              simp only [ih rest, sendAll, if_pos fits, Option.isSome_map]
          | failed errno =>
              cases errno with
              | eintr =>
                  cases first
                  rw [← atLoop_cons] at rest
                  exact ih rest
              | eagain | econnreset | other number =>
                  cases first
                  -- nothing is called once `sendAll` has returned
                  cases later with
                  | nil =>
                      cases rest
                      exact iff_of_true rfl rfl
                  | cons result later => cases rest

end Rejection

/-! ### Steps -/

/-- The threads, and where the acceptor is with the connection it rejects. -/
structure Gate where
  intake : Intake
  rejection : Rejection

def Gate.boot (threads : Nat) : Gate := ⟨.boot threads, .configuring⟩

inductive GateEvent where
  /-- `setsockopt`, whatever it returns; the frame is built and `sendAll` called. -/
  | setTimeout
  /-- A call of `send` in `sendAll`. -/
  | send (result : SendResult)
  /-- Any other step; `reject` is none of them. -/
  | intake (event : IntakeEvent)
  deriving DecidableEq, Repr

/-- The step as `intake` has it. -/
def GateEvent.view : GateEvent → IntakeEvent
  | .setTimeout | .send _ => .reject
  | .intake event => event

/-- The rejection after a step: `compare` may begin one, `setsockopt` and `send` go on with it. -/
def Rejection.after (codec : JsonCodec) (rejection : Rejection) : GateEvent → Option Rejection
  | .setTimeout =>
      if rejection = .configuring then (capacityFrame codec).map Rejection.atLoop else none
  | .send result => rejection.send result
  | .intake .compare => some .configuring
  | .intake .reject => none
  | .intake .rejectClose => if rejection = .closing then some rejection else none
  | .intake _ => some rejection

/-- **One step** of the acceptor, a worker, or a thread that stops them. -/
def gate (codec : JsonCodec) (maxClients : UInt32) (state : Gate) (event : GateEvent) :
    Option (Option Syscall × Gate) := do
  let rejection ← state.rejection.after codec event
  let (output, intake) ← ExodusOps.intake maxClients state.intake event.view
  return (output, ⟨intake, rejection⟩)

abbrev GateTurn := Transition Gate GateEvent (Option Syscall)

section Refinement

variable {state next : Gate} {event : GateEvent} {output : Option Syscall}

theorem gate_eq_some_iff : gate codec maxClients state event = some (output, next) ↔
    state.rejection.after codec event = some next.rejection ∧
      intake maxClients state.intake event.view = some (output, next.intake) := by
  constructor
  · intro taken
    obtain ⟨rejection, going, rest⟩ := Option.bind_eq_some_iff.mp taken
    obtain ⟨_, moved, same⟩ := Option.bind_eq_some_iff.mp rest
    cases same
    exact ⟨going, moved⟩
  · rintro ⟨going, moved⟩
    rw [gate, going, moved]
    rfl

/-- The step as `intake` has it. -/
def intakeTurn (turn : GateTurn) : IntakeTurn :=
  ⟨turn.before.intake, turn.event.view, turn.output, turn.after.intake⟩

/-- **A step is a step of `intake`**, and a run a run. -/
theorem intake_of_gate {threads : Nat} {trace : List GateTurn} {finish : Gate}
    (run : Run (gate codec maxClients) (.boot threads) trace finish) :
    Run (intake maxClients) (.boot threads) (trace.map intakeTurn) finish.intake := by
  rw [← List.filterMap_eq_map]
  refine run.project Gate.intake (some ∘ intakeTurn) ?_ ?_
  · intro turn _ stays
    cases stays
  · intro turn other taken same
    cases same
    exact ⟨rfl, rfl, (gate_eq_some_iff.mp taken).2⟩

end Refinement

/-! ### What becomes of a connection -/

/-- The connection a step accepts. -/
def acceptedBy (turn : IntakeTurn) : Option AcceptedSocket :=
  match turn.event, turn.after.acceptor with
  | .accept _ _, .accepted socket => some socket
  | _, _ => none

/-- The connection for which a step reads the count, and the count. -/
def loadedBy (turn : IntakeTurn) : Option (AcceptedSocket × UInt32) :=
  match turn.event, turn.before.acceptor with
  | .load, .accepted socket => some (socket, turn.before.activeConnections)
  | _, _ => none

/-- The connection a step closes because of the count. -/
def rejectedBy (turn : IntakeTurn) : Option AcceptedSocket :=
  match turn.event, turn.before.acceptor with
  | .rejectClose, .rejecting socket => some socket
  | _, _ => none

/-- The connection for which `sendAll` is called, and the frame. -/
def refusedBy (codec : JsonCodec) (turn : GateTurn) : Option (AcceptedSocket × Bytes) :=
  match turn.event, turn.before.intake.acceptor with
  | .setTimeout, .rejecting socket => (capacityFrame codec).map fun frame => (socket, frame)
  | _, _ => none

/-- The connections for which the count read passes a test. -/
def readings (test : UInt32 → Bool) (loads : List (AcceptedSocket × UInt32)) :
    List AcceptedSocket :=
  (loads.filter fun load => test load.2).map Prod.fst

theorem readings_append (test : UInt32 → Bool) (earlier later : List (AcceptedSocket × UInt32)) :
    readings test (earlier ++ later) = readings test earlier ++ readings test later := by
  rw [readings, List.filter_append, List.map_append]
  rfl

/-- The number of times a connection that was read once is among them. -/
theorem count_readings {test : UInt32 → Bool} {loads : List (AcceptedSocket × UInt32)}
    {socket : AcceptedSocket} {currentCount : UInt32} (distinct : (loads.map Prod.fst).Nodup)
    (member : (socket, currentCount) ∈ loads) :
    (readings test loads).count socket = if test currentCount then 1 else 0 := by
  have part : (readings test loads).Sublist (loads.map Prod.fst) :=
    List.filter_sublist.map Prod.fst
  rw [(distinct.sublist part).count]
  refine if_congr ⟨fun inside => ?_, fun passes => ?_⟩ rfl rfl
  · obtain ⟨⟨_, other⟩, kept, rfl⟩ := List.mem_map.mp inside
    obtain ⟨read, passes⟩ := List.mem_filter.mp kept
    have same := List.inj_on_of_nodup_map distinct read member rfl
    cases same
    exact passes
  · exact List.mem_map.mpr ⟨_, List.mem_filter.mpr ⟨member, passes⟩, rfl⟩

/-- There is room. -/
def isBelow (maxClients currentCount : UInt32) : Bool := currentCount < maxClients

/-- There is none. -/
def isFull (maxClients currentCount : UInt32) : Bool := currentCount ≥ maxClients

namespace Acceptor

/-- The connection for which the count has yet to be read. -/
def unread : Acceptor → List AcceptedSocket
  | .accepted socket => [socket]
  | _ => []

/-- The connection that has yet to be passed on. -/
def passing (maxClients : UInt32) : Acceptor → List AcceptedSocket
  | .loaded socket currentCount => readings (isBelow maxClients) [(socket, currentCount)]
  | _ => []

/-- The connection that has yet to be closed. -/
def refusing (maxClients : UInt32) : Acceptor → List AcceptedSocket
  | .loaded socket currentCount => readings (isFull maxClients) [(socket, currentCount)]
  | .rejecting socket => [socket]
  | _ => []

end Acceptor

section Steps

variable {state next : Intake} {event : IntakeEvent} {output : Option Syscall}

/-- **One step of a decision**: what is read was accepted, what is passed on or closed was read. -/
theorem Moves.decides (moved : Moves maxClients state event output next) :
    state.acceptor.unread ++ (acceptedBy ⟨state, event, output, next⟩).toList =
        (loadedBy ⟨state, event, output, next⟩).toList.map Prod.fst ++ next.acceptor.unread ∧
    state.acceptor.passing maxClients ++
        readings (isBelow maxClients) (loadedBy ⟨state, event, output, next⟩).toList =
      (letThrough ⟨state, event, output, next⟩).toList ++ next.acceptor.passing maxClients ∧
    state.acceptor.refusing maxClients ++
        readings (isFull maxClients) (loadedBy ⟨state, event, output, next⟩).toList =
      (rejectedBy ⟨state, event, output, next⟩).toList ++ next.acceptor.refusing maxClients := by
  cases moved with
  | testFlag here | acceptFailed here =>
      simp only [here, acceptedBy, loadedBy, letThrough, rejectedBy]
      split_ifs <;> exact ⟨rfl, rfl, rfl⟩
  | accept here _ | load here | rejectClose here
  | fetchAdd here | enqueue here _ _ | enqueueClose here _ _ =>
      simp [here, acceptedBy, loadedBy, letThrough, rejectedBy,
        Acceptor.unread, Acceptor.passing, Acceptor.refusing, readings, isBelow, isFull]
  | atCapacity here full =>
      simp [here, acceptedBy, loadedBy, letThrough, rejectedBy,
        Acceptor.unread, Acceptor.passing, Acceptor.refusing, readings, isBelow, isFull, full]
  | belowCapacity here free =>
      have less := UInt32.not_le.mp free
      simp [here, acceptedBy, loadedBy, letThrough, rejectedBy,
        Acceptor.unread, Acceptor.passing, Acceptor.refusing, readings, isBelow, isFull, free, less]
  | _ => simp [acceptedBy, loadedBy, letThrough, rejectedBy, readings, isBelow, isFull]

/-- The connections accepted are numbered in that order. -/
theorem Moves.numbers (moved : Moves maxClients state event output next) :
    List.range state.descriptors.opened ++
        (acceptedBy ⟨state, event, output, next⟩).toList.map (fun socket => socket.object) =
      List.range next.descriptors.opened := by
  cases moved with
  | accept here opened =>
      obtain ⟨_, rfl, rfl⟩ := Descriptors.openAt_eq_some opened
      exact List.range_succ.symm
  | _ => exact List.append_nil _

/-- What closes a connection because of the count. -/
theorem Moves.closes_rejected {socket : AcceptedSocket}
    (moved : Moves maxClients state event output next)
    (rejected : rejectedBy ⟨state, event, output, next⟩ = some socket) :
    closedBy ⟨state, event, output, next⟩ = some socket.object := by
  cases moved with
  | rejectClose here =>
      simp only [rejectedBy, here, Option.some.injEq] at rejected
      rw [rejected]
      rfl
  | _ => cases rejected

/-- **How the loop ends**: at the flag, or with an error. -/
theorem Moves.returns (moved : Moves maxClients state event output next)
    (running : state.acceptor ≠ .returned) (returned : next.acceptor = .returned) :
    state.stopFlag = true ∨ ∃ errno, event = .acceptFailed errno ∧ errno ≠ .eintr := by
  cases moved with
  | testFlag here =>
      refine .inl ?_
      by_contra unset
      simp [unset] at returned
  | @acceptFailed errno here =>
      by_cases flag : state.stopFlag = true
      · exact .inl flag
      · refine .inr ⟨errno, rfl, ?_⟩
        rintro rfl
        simp [flag] at returned
  | _ => first | exact absurd returned running | cases returned

/-- An error other than an interrupt ends it. -/
theorem Moves.failure_returns {errno : Errno}
    (moved : Moves maxClients state (.acceptFailed errno) output next) (failed : errno ≠ .eintr) :
    state.acceptor ≠ .returned ∧ next.acceptor = .returned := by
  cases moved with
  | acceptFailed here =>
      rw [here, if_neg failed, ite_self]
      exact ⟨nofun, rfl⟩

end Steps

section Runs

variable {threads : Nat}

/-- **Every connection accepted is read once, and then passed on or closed**, but for the one the
acceptor has in hand. -/
theorem decided_of_run {trace : List IntakeTurn} {state : Intake}
    (run : Run (intake maxClients) (.boot threads) trace state) :
    trace.filterMap acceptedBy =
        (trace.filterMap loadedBy).map Prod.fst ++ state.acceptor.unread ∧
    readings (isBelow maxClients) (trace.filterMap loadedBy) =
        trace.filterMap letThrough ++ state.acceptor.passing maxClients ∧
    readings (isFull maxClients) (trace.filterMap loadedBy) =
        trace.filterMap rejectedBy ++ state.acceptor.refusing maxClients := by
  induction run with
  | nil => exact ⟨rfl, rfl, rfl⟩
  | @snoc trace state next event output _ taken ih =>
      obtain ⟨accepted, passed, rejected⟩ := ih
      obtain ⟨reads, passes, rejects⟩ := (moves_of_intake taken).decides
      simp only [filterMap_concat, readings_append, List.map_append, accepted, passed,
        rejected, List.append_assoc, reads, passes, rejects, and_self]

theorem numbered_of_run {trace : List IntakeTurn} {state : Intake}
    (run : Run (intake maxClients) (.boot threads) trace state) :
    (trace.filterMap acceptedBy).map (fun socket => socket.object) =
      List.range state.descriptors.opened := by
  induction run with
  | nil => rfl
  | snoc _ taken ih =>
      rw [filterMap_concat, List.map_append, ih]
      exact (moves_of_intake taken).numbers

end Runs

/-! ### The error frame -/

theorem Rejection.atLoop_ne_configuring (left : Bytes) : atLoop left ≠ .configuring := by
  unfold atLoop
  split <;> exact nofun

/-- `sendAll` is not called a second time. -/
theorem Rejection.send_ne_configuring {rejection next : Rejection} {result : SendResult}
    (sent : rejection.send result = some next) :
    rejection ≠ .configuring ∧ next ≠ .configuring := by
  cases rejection with
  | configuring | closing => cases sent
  | sending left =>
      refine ⟨nofun, ?_⟩
      cases result with
      | sent count =>
          simp only [send] at sent
          split_ifs at sent
          cases sent
          exact atLoop_ne_configuring _
      | failed errno => cases errno <;> cases sent <;> exact nofun

/-- The connection that has yet to get the error frame. -/
def Gate.unanswered (maxClients : UInt32) (state : Gate) : List AcceptedSocket :=
  match state.intake.acceptor with
  | .rejecting socket => if state.rejection = .configuring then [socket] else []
  | acceptor => acceptor.refusing maxClients

section Answers

variable {state next : Gate} {event : GateEvent} {output : Option Syscall} {threads : Nat}
  {trace : List GateTurn}

/-- **One step of an answer**: the frame is tried for what was read at capacity. -/
theorem gate_answers (taken : gate codec maxClients state event = some (output, next)) :
    state.unanswered maxClients ++ readings (isFull maxClients)
        (loadedBy (intakeTurn ⟨state, event, output, next⟩)).toList =
      (refusedBy codec ⟨state, event, output, next⟩).toList.map Prod.fst ++
        next.unanswered maxClients := by
  obtain ⟨going, moved⟩ := gate_eq_some_iff.mp taken
  have moves := moves_of_intake moved
  obtain ⟨after, rejection⟩ := next
  cases event with
  | setTimeout =>
      simp only [Rejection.after] at going
      split_ifs at going with first
      obtain ⟨frame, built, rfl⟩ := Option.map_eq_some_iff.mp going
      have past := Rejection.atLoop_ne_configuring frame
      cases moves with
      | reject here =>
          simp [Gate.unanswered, here, first, past, refusedBy, built, loadedBy, intakeTurn,
            readings, GateEvent.view]
  | send result =>
      obtain ⟨was, past⟩ := Rejection.send_ne_configuring going
      cases moves with
      | reject here =>
          simp [Gate.unanswered, here, was, past, refusedBy, loadedBy, intakeTurn, readings,
            GateEvent.view]
  | intake event =>
      -- the rejection goes on as it was, but for `compare`, which begins one
      cases moves with
      | atCapacity here full | belowCapacity here full =>
          cases going
          simp [Gate.unanswered, here, full, loadedBy, refusedBy, intakeTurn, GateEvent.view,
            Acceptor.refusing, readings, isFull]
      | reject here => cases going
      | rejectClose here =>
          simp only [Rejection.after] at going
          split_ifs at going with last
          simp [Gate.unanswered, here, last, loadedBy, refusedBy, intakeTurn, GateEvent.view,
            Acceptor.refusing, readings]
      | accept here _ | load here | fetchAdd here | enqueue here _ _ | enqueueClose here _ _ =>
          cases going
          simp [Gate.unanswered, here, loadedBy, refusedBy, intakeTurn, GateEvent.view,
            Acceptor.refusing, readings]
      | testFlag here | acceptFailed here =>
          cases going
          simp only [Gate.unanswered, here, loadedBy, refusedBy, intakeTurn, GateEvent.view]
          split_ifs <;> rfl
      | _ =>
          cases going
          exact List.append_nil _

/-- The frame is tried once for every connection read at capacity, but for the one in hand. -/
theorem answered_of_run (run : Run (gate codec maxClients) (.boot threads) trace state) :
    readings (isFull maxClients) ((trace.map intakeTurn).filterMap loadedBy) =
      (trace.filterMap (refusedBy codec)).map Prod.fst ++ state.unanswered maxClients := by
  induction run with
  | nil => rfl
  | snoc _ taken ih =>
      rw [List.map_append, List.map_cons, List.map_nil, filterMap_concat, filterMap_concat,
        readings_append, ih, List.append_assoc, gate_answers taken, List.map_append,
        List.append_assoc]

/-- Nothing but the error frame is tried. -/
theorem refused_frame {turn : GateTurn} {socket : AcceptedSocket} {frame : Bytes}
    (refused : refusedBy codec turn = some (socket, frame)) : capacityFrame codec = some frame := by
  unfold refusedBy at refused
  split at refused
  · obtain ⟨built, made, same⟩ := Option.map_eq_some_iff.mp refused
    cases same
    exact made
  · cases refused

end Answers

/-! ### The result -/

section InHand

variable {test : UInt32 → Bool} {socket : AcceptedSocket}

theorem readings_single_sublist (socket : AcceptedSocket) (currentCount : UInt32) :
    (readings test [(socket, currentCount)]).Sublist [socket] :=
  List.filter_sublist.map Prod.fst

theorem Acceptor.unread_sublist (acceptor : Acceptor) : acceptor.unread.Sublist acceptor.held := by
  cases acceptor <;> first | exact .refl _ | exact List.nil_sublist _

theorem Acceptor.passing_sublist (acceptor : Acceptor) :
    (acceptor.passing maxClients).Sublist acceptor.held := by
  cases acceptor with
  | loaded socket currentCount => exact readings_single_sublist socket currentCount
  | _ => exact List.nil_sublist _

theorem Acceptor.refusing_sublist (acceptor : Acceptor) :
    (acceptor.refusing maxClients).Sublist acceptor.held := by
  cases acceptor with
  | loaded socket currentCount => exact readings_single_sublist socket currentCount
  | rejecting socket => exact .refl _
  | _ => exact List.nil_sublist _

theorem Gate.unanswered_sublist (state : Gate) :
    (state.unanswered maxClients).Sublist (state.intake.acceptor.refusing maxClients) := by
  unfold unanswered
  split
  · rename_i here
    rw [here]
    split
    · exact .refl _
    · exact List.nil_sublist _
  · exact .refl _

/-- What is not in hand is not in any part of it. -/
theorem count_append_hand {listed hand held : List AcceptedSocket} (part : hand.Sublist held)
    (free : socket ∉ held) : (listed ++ hand).count socket = listed.count socket := by
  rw [List.count_append, List.count_eq_zero.mpr fun inside => free (part.mem inside), add_zero]

end InHand

/-- Passed to `onAccept` once, with no attempt at the error frame, and not closed here. -/
structure PassedOn (codec : JsonCodec) (trace : List GateTurn) (socket : AcceptedSocket) :
    Prop where
  passed : ((trace.map intakeTurn).filterMap letThrough).count socket = 1
  untried : ((trace.filterMap (refusedBy codec)).map Prod.fst).count socket = 0
  unclosed : ((trace.map intakeTurn).filterMap rejectedBy).count socket = 0

/-- Not passed to `onAccept`, one attempt at the error frame, closed once. -/
structure TurnedAway (codec : JsonCodec) (trace : List GateTurn) (socket : AcceptedSocket) :
    Prop where
  unpassed : ((trace.map intakeTurn).filterMap letThrough).count socket = 0
  tried : ((trace.filterMap (refusedBy codec)).map Prod.fst).count socket = 1
  closed : (closedObjects (trace.map intakeTurn)).count socket.object = 1

section Result

variable {threads : Nat} {trace : List GateTurn} {finish : Gate} {socket : AcceptedSocket}

/-- The connections accepted are distinct. -/
theorem accepted_nodup (run : Run (gate codec maxClients) (.boot threads) trace finish) :
    ((trace.map intakeTurn).filterMap acceptedBy).Nodup := by
  refine List.Nodup.of_map (fun socket => socket.object) ?_
  rw [numbered_of_run (intake_of_gate run)]
  exact List.nodup_range

/-- What is closed because of the count is closed, and by nobody else. -/
theorem closed_once (run : Run (gate codec maxClients) (.boot threads) trace finish)
    (rejected : socket ∈ (trace.map intakeTurn).filterMap rejectedBy) :
    (closedObjects (trace.map intakeTurn)).count socket.object = 1 := by
  have inner := intake_of_gate run
  refine List.count_eq_one_of_mem (custody_of_run inner).nodup_closed ?_
  obtain ⟨turn, member, same⟩ := List.mem_filterMap.mp rejected
  have moved := moves_of_intake (inner.taken member)
  exact List.mem_filterMap.mpr ⟨turn, member, moved.closes_rejected same⟩

/-- **Every connection that is no longer in hand has been dealt with.** -/
theorem dealt_with (run : Run (gate codec maxClients) (.boot threads) trace finish)
    (accepted : socket ∈ (trace.map intakeTurn).filterMap acceptedBy)
    (free : socket ∉ finish.intake.acceptor.held) :
    ∃ currentCount, (socket, currentCount) ∈ (trace.map intakeTurn).filterMap loadedBy ∧
      (((trace.map intakeTurn).filterMap loadedBy).map Prod.fst).count socket = 1 ∧
      (PassedOn codec trace socket ↔ currentCount < maxClients) ∧
      (TurnedAway codec trace socket ↔ currentCount ≥ maxClients) := by
  obtain ⟨reads, passes, rejects⟩ := decided_of_run (intake_of_gate run)
  have tries := answered_of_run run
  have distinct := accepted_nodup run
  rw [reads] at accepted distinct
  have read := (List.mem_append.mp accepted).resolve_right
    fun inside => free (finish.intake.acceptor.unread_sublist.mem inside)
  have once := distinct.of_append_left
  obtain ⟨⟨_, currentCount⟩, member, rfl⟩ := List.mem_map.mp read
  have full := @count_readings (isFull maxClients) _ _ _ once member
  have room := @count_readings (isBelow maxClients) _ _ _ once member
  have tried := full
  rw [passes, count_append_hand (Acceptor.passing_sublist _) free] at room
  rw [rejects, count_append_hand (Acceptor.refusing_sublist _) free] at full
  rw [tries, count_append_hand
    ((Gate.unanswered_sublist _).trans (Acceptor.refusing_sublist _)) free] at tried
  refine ⟨currentCount, member, List.count_eq_one_of_mem once read, ?_⟩
  by_cases less : currentCount < maxClients
  · have kept := UInt32.not_le.mpr less
    simp only [isBelow, isFull, less, kept, decide_true, decide_false, if_true,
      Bool.false_eq_true, if_false] at room full tried
    refine ⟨iff_of_true ⟨room, tried, full⟩ less, iff_of_false (fun away => ?_) kept⟩
    exact absurd (room.symm.trans away.unpassed) (by decide)
  · have reached := UInt32.not_lt.mp less
    simp only [isBelow, isFull, less, reached, decide_true, decide_false, if_true,
      Bool.false_eq_true, if_false] at room full tried
    have rejected := List.count_pos_iff.mp (full ▸ Nat.one_pos)
    refine ⟨iff_of_false (fun on => ?_) less,
      iff_of_true ⟨room, tried, closed_once run rejected⟩ reached⟩
    exact absurd (room.symm.trans on.passed) (by decide)

/-- The loop returns in this step. -/
def LoopReturns (turn : GateTurn) : Prop :=
  turn.before.intake.acceptor ≠ .returned ∧ turn.after.intake.acceptor = .returned

/-- **The accept loop ends on request, if no `accept` fails.** In every run of the acceptor, the
workers and the calls of `stop`: the loop returns with the flag set, and only so, exactly if every
`accept` that failed before the flag was set was interrupted. In any case, for every connection that
was accepted and is no longer in the acceptor's hands the count was read once, and it was passed to
`onAccept` once if that was below `maxClients`, and otherwise got one attempt at the error frame and
was closed once. -/
theorem acceptLoop_ends_iff (run : Run (gate codec maxClients) (.boot threads) trace finish) :
    ((∀ turn ∈ trace, LoopReturns turn → turn.before.intake.stopFlag = true) ↔
      ∀ turn ∈ trace, ∀ errno, turn.event = .intake (.acceptFailed errno) →
        errno = .eintr ∨ turn.before.intake.stopFlag = true) ∧
    (∀ attempt ∈ trace.filterMap (refusedBy codec), capacityFrame codec = some attempt.2) ∧
    ∀ socket ∈ (trace.map intakeTurn).filterMap acceptedBy,
      socket ∉ finish.intake.acceptor.held →
        ∃ currentCount, (socket, currentCount) ∈ (trace.map intakeTurn).filterMap loadedBy ∧
          (((trace.map intakeTurn).filterMap loadedBy).map Prod.fst).count socket = 1 ∧
          (PassedOn codec trace socket ↔ currentCount < maxClients) ∧
          (TurnedAway codec trace socket ↔ currentCount ≥ maxClients) := by
  have moves : ∀ turn ∈ trace, Moves maxClients turn.before.intake turn.event.view turn.output
      turn.after.intake := fun turn member =>
    moves_of_intake (gate_eq_some_iff.mp (run.taken member)).2
  refine ⟨⟨fun requested turn member errno failed => ?_, fun interrupts turn member returns => ?_⟩,
    ?_, fun socket => dealt_with run⟩
  · by_cases interrupted : errno = .eintr
    · exact .inl interrupted
    · have moved := moves turn member
      rw [failed] at moved
      exact .inr (requested turn member (moved.failure_returns interrupted))
  · rcases (moves turn member).returns returns.1 returns.2 with flag | ⟨errno, failed, other⟩
    · exact flag
    · have event : turn.event = .intake (.acceptFailed errno) := by
        generalize turn.event = event at failed
        cases event with
        | intake event => exact congrArg GateEvent.intake failed
        | _ => cases failed
      exact (interrupts turn member errno event).resolve_left other
  · rintro ⟨socket, frame⟩ member
    obtain ⟨turn, _, refused⟩ := List.mem_filterMap.mp member
    exact refused_frame refused

end Result

/-- One connection is passed on; the next finds one counted, with room for one; `stop` is called
while it is sent the error frame, of which a call accepts ten bytes and the next fails. -/
def oneTooMany : List GateEvent :=
  ([.testFlag, .accept 5 [], .load, .compare, .fetchAdd, .enqueue, .testFlag, .acceptFailed .eintr,
    .testFlag, .accept 6 [], .load, .compare].map .intake) ++
  [.setTimeout, .send (.failed .eintr), .send (.sent 10), .intake .stopAcceptor,
    .send (.failed .eagain), .intake .rejectClose, .intake .testFlag]

/-- The second is turned away, and the loop returns. -/
theorem acceptLoop_ends_iff_full :
    ∃ trace finish, Run (gate Json.flatCodec 1) (.boot 1) trace finish ∧
      finish.intake.acceptor = .returned ∧
      (∀ turn ∈ trace, LoopReturns turn → turn.before.intake.stopFlag = true) ∧
      PassedOn Json.flatCodec trace ⟨⟨5, 0⟩, []⟩ ∧
      TurnedAway Json.flatCodec trace ⟨⟨6, 1⟩, []⟩ := by
  let trace := execTrace (gate Json.flatCodec 1) (.boot 1) oneTooMany
  let finish := execFinal (gate Json.flatCodec 1) (.boot 1) oneTooMany
  have facts : (exec (gate Json.flatCodec 1) (.boot 1) oneTooMany).isSome = true ∧
      finish.intake.acceptor = .returned ∧
      (trace.map intakeTurn).filterMap acceptedBy = [⟨⟨5, 0⟩, []⟩, ⟨⟨6, 1⟩, []⟩] ∧
      (trace.map intakeTurn).filterMap loadedBy =
        [(⟨⟨5, 0⟩, []⟩, 0), (⟨⟨6, 1⟩, []⟩, 1)] ∧
      trace.map Transition.event = oneTooMany := by
    decide +kernel
  obtain ⟨possible, returned, sockets, loads, events⟩ := facts
  have run := run_of_possible possible
  obtain ⟨ends, _, dealt⟩ := acceptLoop_ends_iff run
  rw [sockets, returned] at dealt
  refine ⟨trace, finish, run, returned, ends.mpr ?_, ?_, ?_⟩
  · intro turn member errno failed
    have among : turn.event ∈ oneTooMany := events ▸ List.mem_map_of_mem member
    rw [failed] at among
    simp [oneTooMany] at among
    exact .inl among
  · obtain ⟨currentCount, read, _, on, _⟩ := dealt _ List.mem_cons_self List.not_mem_nil
    rw [loads] at read
    simp at read
    rw [on, read]
    decide
  · obtain ⟨currentCount, read, _, _, away⟩ :=
      dealt _ (List.mem_cons_of_mem _ List.mem_cons_self) List.not_mem_nil
    rw [loads] at read
    simp at read
    rw [away, read]
    decide

/-- **One aborted connection ends the loop**, while nobody has asked for it. -/
theorem aborted_connection_ends_loop :
    ∃ trace finish, Run (gate Json.flatCodec 1024) (.boot 1) trace finish ∧
      trace.map Transition.event = [.intake .testFlag, .intake (.acceptFailed (.other 103))] ∧
      finish.intake.acceptor = .returned ∧ finish.intake.stopFlag = false := by
  let events : List GateEvent := [.intake .testFlag, .intake (.acceptFailed (.other 103))]
  have facts : (exec (gate Json.flatCodec 1024) (.boot 1) events).isSome = true ∧
      (execTrace (gate Json.flatCodec 1024) (.boot 1) events).map Transition.event = events ∧
      (execFinal (gate Json.flatCodec 1024) (.boot 1) events).intake.acceptor = .returned ∧
      (execFinal (gate Json.flatCodec 1024) (.boot 1) events).intake.stopFlag = false := by
    decide +kernel
  exact ⟨_, _, run_of_possible facts.1, facts.2⟩

end ExodusOps
