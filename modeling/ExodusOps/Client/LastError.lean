/-
**What `eop_last_error` says about the last call.**

An error is stored in the handle or in the thread, and `eop_last_error` looks at the handle. Every
exit of `eop_reconnect` and all but one of `eop_send_command` store theirs in the handle; a null
payload is refused before the mutex is taken, with the thread's store. `errors_faithful_iff`: this
is the only way the code can be that of an earlier call.

* `eopSendCommand_code` — no failure has the code `EOP_OK`.
* `HandleState.sendCommand_code` — the code a command leaves in the handle.
-/

import ExodusOps.Client.Handle

namespace ExodusOps.EopClient

/-! ### The codes of failures -/

/-- What can go wrong while waiting for an answer is a timeout or a lost connection. -/
theorem recvPhase_code {texts : PhaseTexts} {socket left : List (Chunk RecvEvent)} {count : Nat}
    {failure : ClientError} (failed : recvPhase texts socket count = (.error failure, left)) :
    failure.code ≠ .ok := by
  have last := receives_error _ _ socket count (congrArg Prod.fst failed)
  rcases last with ⟨rfl, _⟩ | ⟨event, ended, _⟩
  · nofun
  · cases event <;> cases ended <;> nofun

theorem finishResponse_code {responseAllocated : Bool} {response : Response}
    {failure : ClientError} (failed : finishResponse responseAllocated response = .error failure) :
    failure.code ≠ .ok := by
  unfold finishResponse at failed
  split_ifs at failed
  cases failed
  nofun

theorem receiveResponse_code {payloadAllocated responseAllocated : Bool}
    {socket left : List (Chunk RecvEvent)} {failure : ClientError}
    (failed : receiveResponse payloadAllocated responseAllocated socket = (.error failure, left)) :
    failure.code ≠ .ok := by
  unfold receiveResponse at failed
  split at failed
  · rename_i first
    cases failed
    exact recvPhase_code first
  split at failed
  · rename_i second
    cases failed
    exact recvPhase_code second
  split at failed
  · cases failed
    nofun
  simp only at failed
  split at failed
  · split at failed
    · split at failed
      · rename_i third
        cases failed
        exact recvPhase_code third
      · exact finishResponse_code (congrArg Prod.fst failed)
    · cases failed
      nofun
  · exact finishResponse_code (congrArg Prod.fst failed)

theorem sendBuffer_code {command : Command} {msgId : UInt32} {code : ErrorCode}
    (failed : sendBuffer command msgId = some (.error code)) : code ≠ .ok := by
  obtain ⟨sendBuf, _, sealed⟩ := Option.bind_eq_some_iff.mp failed
  obtain ⟨⟨other, body⟩, _, finished⟩ := Option.bind_eq_some_iff.mp sealed
  simp only at finished
  split at finished
  · cases finished
  · rename_i failed
    cases finished
    exact failed

/-- **No failure of a command has the code of success.** -/
theorem eopSendCommand_code {nextMsgId after : UInt32} {command : Command} {outcome : SendOutcome}
    {payloadAllocated responseAllocated : Bool} {socket left : List (Chunk RecvEvent)}
    {failure : ClientError}
    (sent : eopSendCommand nextMsgId command outcome payloadAllocated responseAllocated socket =
      some (.error failure, after, left)) : failure.code ≠ .ok := by
  unfold eopSendCommand at sent
  split_ifs at sent
  · cases sent
    nofun
  split at sent
  · cases sent
    nofun
  · cases sent
  · rename_i code framed
    cases sent
    exact sendBuffer_code framed
  · split_ifs at sent
    cases sent
    nofun
  · simp only [Option.some.injEq, Prod.mk.injEq] at sent
    obtain ⟨result, _, _⟩ := sent
    exact receiveResponse_code (Prod.ext result rfl)

/-! ### The code left in the handle -/

/-- The command has a null payload that is not empty. -/
def NullPayload (attempt : Attempt) : Prop :=
  attempt.command.payload = none ∧ attempt.command.payloadLen > 0

/-- **The code a command leaves in the handle** is its own, unless it has a null payload: then the
handle stays as it was. -/
theorem HandleState.sendCommand_code {state next : HandleState} {client : Client}
    {attempt : Attempt} {socket : List (Chunk RecvEvent)} {returned : Returned}
    (found : state.client = some client)
    (called : state.sendCommand attempt socket = some (returned, next)) :
    (NullPayload attempt ∧ next.client = some client ∧ returned.code = .errInvalidArgument ∧
      ∃ failure, returned.result = .error failure) ∨
    (¬ NullPayload attempt ∧ ∃ after, next.client = some after ∧
      after.lastError.code = returned.code ∧
      ∀ failure, returned.result = .error failure → failure.code ≠ .ok) := by
  simp only [HandleState.sendCommand, found] at called
  by_cases null : NullPayload attempt
  · rw [NullPayload] at null
    rw [if_pos null] at called
    obtain ⟨_, kept, rfl, _⟩ := HandleState.refuses_spec called
    exact .inl ⟨null, kept.trans found, rfl, _, rfl⟩
  · refine .inr ⟨null, ?_⟩
    rw [NullPayload] at null
    rw [if_neg null] at called
    simp only [Option.bind_eq_bind, Option.bind_eq_some_iff, Prod.exists] at called
    obtain ⟨result, nextMsgId, left, sent, called⟩ := called
    cases called
    cases result with
    | ok response =>
        refine ⟨_, rfl, rfl, fun other same => ?_⟩
        cases same
    | error failure =>
        refine ⟨_, rfl, rfl, fun other same => ?_⟩
        cases same
        exact eopSendCommand_code sent

/-- What `eop_last_error` says after a turn is what the call returned. -/
def Faithful (turn : HandleTurn) : Prop :=
  ∀ returned buffer, turn.output = some returned →
    let code := (eopLastError turn.after turn.after.client buffer).1
    (code = .ok ↔ ∃ response, returned.result = .ok response) ∧
      ∀ failure, returned.result = .error failure → code = failure.code

/-- The turn is a command or a reconnect on a handle that is not `NULL`. -/
def OnHandle (turn : HandleTurn) : Prop :=
  turn.before.client.isSome = true ∧
    ((∃ attempt socket, turn.event = .send attempt socket) ∨
      ∃ timeoutMs outcome, turn.event = .reconnect timeoutMs outcome)

/-- The turn is a command with a null payload on a handle whose error is another one than
`EOP_ERR_INVALID_ARGUMENT`. -/
def Stale (turn : HandleTurn) : Prop :=
  ∃ attempt socket client, turn.event = .send attempt socket ∧ NullPayload attempt ∧
    turn.before.client = some client ∧ client.lastError.code ≠ .errInvalidArgument

/-- What makes a code faithful, for a handle that is there after the call. -/
theorem faithful_iff {turn : HandleTurn} {returned : Returned} {after : Client}
    (output : turn.output = some returned) (stays : turn.after.client = some after)
    (distinct : ∀ failure, returned.result = .error failure → failure.code ≠ .ok) :
    Faithful turn ↔ after.lastError.code = returned.code := by
  have code (buffer : Option Nat) :
      (eopLastError turn.after turn.after.client buffer).1 = after.lastError.code := by
    rw [eopLastError, stays]
    rfl
  have plain : Faithful turn ↔
      (after.lastError.code = .ok ↔ ∃ response, returned.result = .ok response) ∧
        ∀ failure, returned.result = .error failure → after.lastError.code = failure.code := by
    constructor
    · intro faithful
      have said := faithful returned none output
      rwa [code] at said
    · intro said other buffer same
      cases output.symm.trans same
      simp only [code]
      exact said
  rw [plain, Returned.code]
  cases result : returned.result with
  | ok response => simp
  | error failure =>
      simp only [reduceCtorEq, exists_false, iff_false, Except.error.injEq, forall_eq']
      exact ⟨And.right, fun same => ⟨same ▸ distinct failure result, same⟩⟩

/-- **A call on the handle** is faithful unless its payload is null and its code is not there
already. -/
theorem faithful_iff_not_stale {inetPton : Bytes → Option UInt32} {turn : HandleTurn}
    (kept : turn.before.Kept) (on : OnHandle turn)
    (taken : handle inetPton turn.before turn.event = some (turn.output, turn.after)) :
    Faithful turn ↔ ¬ Stale turn := by
  obtain ⟨state, event, output, next⟩ := turn
  obtain ⟨present, ⟨attempt, socket, same⟩ | ⟨timeoutMs, outcome, same⟩⟩ := on
  all_goals
    obtain ⟨client, found⟩ := Option.isSome_iff_exists.mp present
    simp only at same found taken
    subst same
    obtain ⟨⟨returned, after⟩, called, same⟩ := Option.map_eq_some_iff.mp taken
    cases same
  · rcases HandleState.sendCommand_code found called with
      ⟨null, stays, code, failure, result⟩ | ⟨pointer, after', stays, code, distinct⟩
    · have refused : failure.code = .errInvalidArgument := by
        rw [← code, Returned.code, result]
      rw [faithful_iff rfl stays, code]
      · constructor
        · rintro right ⟨_, _, other, _, _, same, wrong⟩
          cases found.symm.trans same
          exact wrong right
        · intro fresh
          by_contra wrong
          exact fresh ⟨attempt, socket, client, rfl, null, found, wrong⟩
      · intro other same
        cases result.symm.trans same
        rw [refused]
        decide
    · rw [faithful_iff rfl stays distinct]
      refine iff_of_true code ?_
      rintro ⟨_, _, _, same, null, _⟩
      cases same
      exact pointer null
  · obtain ⟨_, remade, stays, _, _, _, _, code, _, failed⟩ :=
      HandleState.reconnect_spec kept.sound found called
    rw [faithful_iff rfl stays fun failure result => (failed failure result).2.1]
    refine iff_of_true code ?_
    rintro ⟨_, _, _, same, _⟩
    cases same

/-- **Error reporting.** For every sequence of calls, arguments and outcomes, after every command
and every reconnect on a handle `eop_last_error` says `EOP_OK` exactly if the call succeeded and
otherwise its code — if and only if no command is given a null payload of positive length while the
handle's error is another one. -/
theorem errors_faithful_iff (inetPton : Bytes → Option UInt32) {trace : List HandleTurn}
    {finish : HandleState} (run : Run (handle inetPton) .boot trace finish) :
    (∀ turn ∈ trace, OnHandle turn → Faithful turn) ↔ ∀ turn ∈ trace, ¬ Stale turn := by
  refine forall₂_congr fun turn member => ?_
  obtain ⟨earlier, later, rfl⟩ := List.append_of_mem member
  obtain ⟨before, taken, _⟩ := run.cut
  constructor
  · intro faithful stale
    have on : OnHandle turn := by
      obtain ⟨attempt, socket, client, event, _, found, _⟩ := stale
      exact ⟨by rw [found]; rfl, .inl ⟨attempt, socket, event⟩⟩
    exact (faithful_iff_not_stale (ledger_of_run before).kept on taken).mp (faithful on) stale
  · intro fresh on
    exact (faithful_iff_not_stale (ledger_of_run before).kept on taken).mpr fresh

/-- A command that times out, a reconnect that fails and one that succeeds. -/
def failing : List HandleEvent :=
  [.connect (some (text "127.0.0.1")) 8080 0 true (reachable 3),
    .send heartbeat [.event .pollTimeout], .reconnect 0 ⟨none, .failed, 0, none⟩,
    .reconnect 0 (reachable 3)]

/-- The codes `eop_last_error` gives after the turns of a run. -/
def codes (trace : List HandleTurn) : List ErrorCode :=
  trace.map fun turn => (eopLastError turn.after turn.after.client none).1

theorem errors_faithful_iff_failing :
    let trace := execTrace (handle loopback) .boot failing
    (∀ turn ∈ trace, OnHandle turn → Faithful turn) ∧
      codes trace = [.ok, .errTimeout, .errConnectFailed, .ok] := by
  intro trace
  have possible : (exec (handle loopback) .boot failing).isSome = true := by decide +kernel
  refine ⟨(errors_faithful_iff loopback (run_of_possible possible)).mpr ?_, by decide +kernel⟩
  rintro turn member ⟨attempt, socket, client, event, null, _⟩
  have listed : turn.event ∈ failing := by
    rw [← execTrace_events possible]
    exact List.mem_map_of_mem member
  rw [event] at listed
  simp only [failing, List.mem_cons, reduceCtorEq, HandleEvent.send.injEq, List.not_mem_nil,
    or_false, false_or] at listed
  rw [listed.1] at null
  exact absurd null.2 (by decide)

/-- **A failed command that left no trace.** The first command on a new handle has a null payload of
one byte. It fails, and `eop_last_error` says `EOP_OK`. -/
theorem null_payload_unreported :
    ∃ trace finish, Run (handle loopback) .boot trace finish ∧
      (trace.map fun turn => turn.output.map Returned.code) =
        [some .ok, some .errInvalidArgument] ∧
      codes trace = [.ok, .ok] ∧ ∃ turn ∈ trace, OnHandle turn ∧ ¬ Faithful turn := by
  let command : HandleEvent := .send ⟨⟨1, none, 1⟩, .whole, true, true⟩ []
  let events : List HandleEvent :=
    [.connect (some (text "127.0.0.1")) 8080 0 true (reachable 3), command]
  have facts : (exec (handle loopback) .boot events).isSome = true ∧
      ((execTrace (handle loopback) .boot events).map fun turn =>
        turn.output.map Returned.code) = [some .ok, some .errInvalidArgument] ∧
      codes (execTrace (handle loopback) .boot events) = [.ok, .ok] ∧
      ∀ turn ∈ (execTrace (handle loopback) .boot events).tail,
        turn.before.client.isSome = true ∧
        (turn.output.map Returned.code) = some .errInvalidArgument ∧
        (eopLastError turn.after turn.after.client none).1 = .ok := by decide +kernel
  obtain ⟨possible, results, said, second⟩ := facts
  obtain ⟨earlier, turn, later, split, first, event, _⟩ :=
    execTrace_cut [.connect (some (text "127.0.0.1")) 8080 0 true (reachable 3)] command [] possible
  obtain ⟨connect, rfl, _⟩ := List.map_eq_singleton_iff.mp first
  have turns : execTrace (handle loopback) .boot events = [connect, turn] ++ later := split
  rw [turns] at second
  obtain ⟨present, refused, unsaid⟩ := second turn List.mem_cons_self
  refine ⟨_, _, run_of_possible possible, results, said, turn, ?_, ⟨present, .inl ⟨_, _, event⟩⟩,
    ?_⟩
  · rw [turns]
    simp
  · intro faithful
    obtain ⟨returned, output, code⟩ := Option.map_eq_some_iff.mp refused
    obtain ⟨response, result⟩ := (faithful returned none output).1.mp unsaid
    rw [Returned.code, result] at code
    cases code

end ExodusOps.EopClient
