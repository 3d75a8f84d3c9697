/-
**The life of a client handle.**

`eop_connect`, `eop_send_command`, `eop_reconnect`, `eop_disconnect` and `eop_last_error` on one
handle, called one after the other, with every outcome of the system calls and allocations as an
input. Each call is recorded with the calls it makes on descriptors; other parts of the program open
and close descriptors of their own in between, so a number the handle has closed may soon belong to
somebody else.

* `dial` — what connecting and reconnecting share, from `socket` to `SO_ERROR`.
* `Moved` — what a call does: it makes calls that can be performed (`Holding.performs`).
* `handle_lifecycle` — **the handle's descriptors**: each is closed once and never used afterwards,
  and there is none exactly from a reconnect that failed to the next that succeeds.
-/

import ExodusOps.Client.Alignment
import ExodusOps.Lib.History
import ExodusOps.Lib.Holder

namespace ExodusOps.EopClient

def eopConnectTimeout : Int := 5000
def eopErrorMsgSize : Nat := 256
def eopMaxHostLen : Nat := 256
def tcpPortMinValue : Int := 1
def tcpPortMaxValue : Int := 65535

/-! ### Errors -/

/-- `strncpy` of a C string into a buffer whose last byte is then set to zero. -/
def strncpy (source : Bytes) (size : Nat) : Bytes := source.take (size - 1)

/-- `last_error` and `last_error_msg`, of a handle or of a thread. -/
structure LastError where
  code : ErrorCode
  message : Bytes
  deriving DecidableEq

/-- `EOP_OK` and an empty text. -/
def LastError.clear : LastError := ⟨.ok, []⟩

/-- What `set_client_error` stores in the handle and `set_global_error` in the thread. -/
def LastError.ofFailure (failure : ClientError) : LastError :=
  ⟨failure.code, strncpy (text failure.message) eopErrorMsgSize⟩

/-! ### Connecting -/

/-- Calls on a socket. All `send` of a command are one entry, and all `poll` and `recv` for its
answer: they are made on the same descriptor. -/
inductive SocketCall where
  | fcntl
  | connect (ip : UInt32) (port : UInt16)
  | poll (timeoutMs : Int)
  | getsockopt
  | send
  | receive
  | shutdown
  deriving DecidableEq

/-- `socket`, the calls on a socket, and `close`; a call on `−1` is one on `none`. -/
abbrev Syscall := HolderCall SocketCall

inductive ConnectResult where
  | connected
  /-- −1 with `EINPROGRESS`. -/
  | inProgress
  | failed
  deriving DecidableEq

/-- What the system calls of connecting return. -/
structure DialOutcome where
  /-- The number of the new socket. -/
  socket : Option Nat
  connect : ConnectResult
  poll : Int
  /-- `so_error`, if `getsockopt` succeeds. -/
  soError : Option Int

/-- The error texts of connecting. -/
structure DialTexts where
  socket : String
  connect : String
  timeout : String
  poll : String
  soError : String

/-- Connecting, from `socket` to `SO_ERROR`: the result, the calls made and the table after them. -/
structure Dialled where
  result : Except ClientError Descriptor
  calls : List Syscall
  descriptors : Descriptors

/-- What `eop_connect` and `eop_reconnect` do with an address. Both close the socket on every error
behind `socket`; they differ in the texts. A number that is not free is no outcome of `socket`. -/
def dial (texts : DialTexts) (ip : UInt32) (port timeoutMs : Int) (outcome : DialOutcome)
    (descriptors : Descriptors) : Option Dialled :=
  match outcome.socket with
  | none => some ⟨.error ⟨.errConnectFailed, texts.socket⟩, [], descriptors⟩
  | some fd => do
      let (descriptor, opened) ← descriptors.openAt fd
      let calls (names : List SocketCall) : List Syscall :=
        .opens descriptor :: names.map (.uses · (some descriptor))
      let fails (names : List SocketCall) (failure : ClientError) : Dialled :=
        ⟨.error failure, calls names ++ [.closes (some descriptor)], opened.close fd⟩
      let names := [.fcntl, .connect ip (.ofInt port)]
      if outcome.connect = .failed then some (fails names ⟨.errConnectFailed, texts.connect⟩)
      else
        let names := names ++ [.poll timeoutMs]
        if outcome.poll = 0 then some (fails names ⟨.errTimeout, texts.timeout⟩)
        else if outcome.poll < 0 then some (fails names ⟨.errConnectFailed, texts.poll⟩)
        else
          let names := names ++ [.getsockopt]
          if outcome.soError ≠ some 0 then some (fails names ⟨.errConnectFailed, texts.soError⟩)
          else some ⟨.ok descriptor, calls (names ++ [.fcntl, .fcntl]), opened⟩

def connectTexts : DialTexts where
  socket := "Failed to create socket"
  connect := "Connection refused"
  timeout := "Connection timed out"
  poll := "Poll failed during connection"
  soError := "Connection failed after poll"

def reconnectTexts : DialTexts where
  socket := "Failed to create socket on reconnect"
  connect := "Reconnect refused"
  timeout := "Reconnect timed out"
  poll := "Poll failed during reconnect"
  soError := "Reconnect failed after poll"

/-! ### The calls on a handle -/

/-- `eop_client_t`. A `socket_fd` of −1 is `none`. -/
structure Client where
  socketFd : Option Descriptor
  lastError : LastError
  connectionTimeoutMs : Int
  nextMsgId : UInt32
  host : Bytes
  port : Int

/-- The handle, the error of the thread that calls, and the descriptors of the process. -/
structure HandleState where
  descriptors : Descriptors
  client : Option Client
  /-- `s_last_error` and `s_last_error_msg`. -/
  threadError : LastError
  /-- Descriptors other parts of the program hold. -/
  others : List Descriptor

/-- What a call returns, and the calls on descriptors it makes. -/
structure Returned where
  result : Except ClientError (Option Response)
  calls : List Syscall

namespace HandleState

def boot : HandleState := ⟨.empty, none, .clear, []⟩

/-- The table, and what the handle has open in it. -/
def holding (state : HandleState) : Holding :=
  ⟨state.descriptors, state.client.bind Client.socketFd⟩

/-- A call that fails and leaves its error to the thread. -/
def refuses (state : HandleState) (failure : ClientError) : Returned × HandleState :=
  (⟨.error failure, []⟩, { state with threadError := .ofFailure failure })

/-- `eop_connect`. -/
def connect (inetPton : Bytes → Option UInt32) (state : HandleState) (host : Option Bytes)
    (port timeoutMs : Int) (allocated : Bool) (outcome : DialOutcome) :
    Option (Returned × HandleState) :=
  match host with
  | none => some (state.refuses ⟨.errInvalidArgument, "Invalid host"⟩)
  | some host =>
      if port < tcpPortMinValue ∨ port > tcpPortMaxValue then
        some (state.refuses ⟨.errInvalidArgument, "Invalid port number"⟩)
      else if allocated = false then
        some (state.refuses ⟨.errAlloc, "Failed to allocate client handle"⟩)
      else
        match inetPton host with
        | none => some (state.refuses ⟨.errInvalidArgument, "Invalid host address"⟩)
        | some ip => do
            let connectionTimeoutMs := if timeoutMs > 0 then timeoutMs else eopConnectTimeout
            let dialled ← dial connectTexts ip port connectionTimeoutMs outcome state.descriptors
            let state := { state with descriptors := dialled.descriptors }
            match dialled.result with
            | .error failure =>
                some (⟨.error failure, dialled.calls⟩,
                  { state with threadError := .ofFailure failure })
            | .ok socketFd =>
                let host := strncpy host eopMaxHostLen
                some (⟨.ok none, dialled.calls⟩, { state with
                  client := some ⟨some socketFd, .clear, connectionTimeoutMs, 0, host, port⟩
                  threadError := .clear })

/-- `shutdown` and `close` of the handle's socket. -/
def hangUp (client : Client) : List Syscall :=
  [.uses .shutdown client.socketFd, .closes client.socketFd]

/-- `eop_reconnect`. -/
def reconnect (inetPton : Bytes → Option UInt32) (state : HandleState) (timeoutMs : Int)
    (outcome : DialOutcome) : Option (Returned × HandleState) :=
  match state.client with
  | none => some (state.refuses ⟨.errInvalidArgument, "Invalid client handle"⟩)
  | some client =>
      let closing := hangUp client
      let descriptors := state.holding.release.descriptors
      let client := { client with socketFd := none }
      let effectiveTimeout := if timeoutMs > 0 then timeoutMs else client.connectionTimeoutMs
      let fails (failure : ClientError) (calls : List Syscall) (descriptors : Descriptors) :=
        ((⟨.error failure, calls⟩ : Returned), { state with
          descriptors := descriptors
          client := some { client with lastError := .ofFailure failure } })
      match inetPton client.host with
      | none =>
          some (fails ⟨.errInvalidArgument, "Invalid stored host address"⟩ closing descriptors)
      | some ip => do
          let dialled ←
            dial reconnectTexts ip client.port effectiveTimeout outcome descriptors
          let calls := closing ++ dialled.calls
          match dialled.result with
          | .error failure => some (fails failure calls dialled.descriptors)
          | .ok newFd =>
              some (⟨.ok none, calls⟩, { state with
                descriptors := dialled.descriptors
                client := some { client with socketFd := some newFd, lastError := .clear } })

/-- How the sends of a call end. On −1 the first of them fails. -/
def sendOutcome (client : Client) : SendOutcome → SendOutcome
  | .allocFailed => .allocFailed
  | .failed count => if client.socketFd.isNone then .failed 0 else .failed count
  | .whole => if client.socketFd.isNone then .failed 0 else .whole

/-- The calls `eop_send_command` makes: none before the frame is complete, and none for an answer
if it could not be sent. -/
def sendCalls (client : Client) (attempt : Attempt) : List Syscall :=
  match sendOutcome client attempt.outcome, sendBuffer attempt.command client.nextMsgId with
  | .failed _, some (.ok _) => [.uses .send client.socketFd]
  | .whole, some (.ok _) => [.uses .send client.socketFd, .uses .receive client.socketFd]
  | _, _ => []

/-- `eop_send_command`; `socket` is what `poll` and `recv` deliver. A null payload is refused before
the mutex is taken, and its error is left to the thread; every other error is the handle's. -/
def sendCommand (state : HandleState) (attempt : Attempt) (socket : List (Chunk RecvEvent)) :
    Option (Returned × HandleState) :=
  match state.client with
  | none => some (state.refuses ⟨.errInvalidArgument, "Invalid client handle"⟩)
  | some client =>
      if attempt.command.payload = none ∧ attempt.command.payloadLen > 0 then
        some (state.refuses ⟨.errInvalidArgument, "Payload is NULL but payload_len > 0"⟩)
      else do
        let (result, nextMsgId, _) ← eopSendCommand client.nextMsgId attempt.command
          (sendOutcome client attempt.outcome) attempt.payloadAllocated attempt.responseAllocated
          socket
        let lastError :=
          match result with
          | .error failure => .ofFailure failure
          | .ok _ => .clear
        some (⟨result.map some, sendCalls client attempt⟩, { state with
          client := some { client with nextMsgId := nextMsgId, lastError := lastError } })

/-- `eop_disconnect`. -/
def disconnect (state : HandleState) : Returned × HandleState :=
  match state.client with
  | none => (⟨.ok none, []⟩, state)
  | some client =>
      (⟨.ok none, hangUp client⟩,
        { state with descriptors := state.holding.release.descriptors, client := none })

end HandleState

/-- `eop_last_error`: the code, and what is copied to a buffer of the size given. -/
def eopLastError (state : HandleState) (client : Option Client) (buffer : Option Nat) :
    ErrorCode × Option Bytes :=
  let last := (client.map Client.lastError).getD state.threadError
  (last.code, buffer.bind fun size => if size > 0 then some (strncpy last.message size) else none)

/-! ### The machine -/

/-- A call on the handle — on `NULL` where there is none —, or something else the program does. -/
inductive HandleEvent where
  | connect (host : Option Bytes) (port timeoutMs : Int) (allocated : Bool)
      (outcome : DialOutcome)
  | send (attempt : Attempt) (socket : List (Chunk RecvEvent))
  | reconnect (timeoutMs : Int) (outcome : DialOutcome)
  | disconnect
  /-- Another part of the program opens a descriptor. -/
  | opensElsewhere (fd : Nat)
  /-- It closes one of its own. -/
  | closesElsewhere (index : Nat)

/-- One call. There is one handle at a time. -/
def handle (inetPton : Bytes → Option UInt32) (state : HandleState) :
    HandleEvent → Option (Option Returned × HandleState)
  | .connect host port timeoutMs allocated outcome =>
      if state.client.isSome then none
      else (state.connect inetPton host port timeoutMs allocated outcome).map fun called =>
        (some called.1, called.2)
  | .send attempt socket =>
      (state.sendCommand attempt socket).map fun called => (some called.1, called.2)
  | .reconnect timeoutMs outcome =>
      (state.reconnect inetPton timeoutMs outcome).map fun called => (some called.1, called.2)
  | .disconnect => some (some state.disconnect.1, state.disconnect.2)
  | .opensElsewhere fd =>
      (state.descriptors.openAt fd).map fun opened =>
        (none, { state with descriptors := opened.2, others := opened.1 :: state.others })
  | .closesElsewhere index =>
      (state.others[index]?).map fun descriptor =>
        (none, { state with
          descriptors := state.descriptors.close descriptor.fd
          others := state.others.eraseIdx index })

abbrev HandleTurn := Transition HandleState HandleEvent (Option Returned)

/-! ### What the calls do to descriptors -/

/-- **Connecting** opens a socket and keeps it, or closes it again. -/
theorem dial_performs {texts : DialTexts} {ip : UInt32} {port timeoutMs : Int}
    {outcome : DialOutcome} {descriptors : Descriptors} {dialled : Dialled}
    (dials : dial texts ip port timeoutMs outcome descriptors = some dialled) :
    Holding.performs ⟨descriptors, none⟩ dialled.calls =
        some ⟨dialled.descriptors, dialled.result.toOption⟩ ∧
      ∀ failure, dialled.result = .error failure →
        failure.code = .errConnectFailed ∨ failure.code = .errTimeout := by
  unfold dial at dials
  cases socket : outcome.socket with
  | none =>
      rw [socket] at dials
      cases dials
      exact ⟨rfl, fun failure same => by cases same; exact .inl rfl⟩
  | some fd =>
      simp only [socket, Option.bind_eq_bind, Option.bind_eq_some_iff] at dials
      obtain ⟨⟨descriptor, opened⟩, free, dials⟩ := dials
      obtain ⟨performed, sound⟩ := @Holding.perform_opens SocketCall _ _ _ _ free
      obtain ⟨_, rfl, _⟩ := Descriptors.openAt_eq_some free
      have closing (names : List SocketCall) :
          Holding.performs ⟨descriptors, none⟩ (.opens ⟨fd, descriptors.opened⟩ ::
            names.map (.uses · (some ⟨fd, descriptors.opened⟩)) ++
              [.closes (some ⟨fd, descriptors.opened⟩)]) = some ⟨opened.close fd, none⟩ := by
        rw [List.cons_append, Holding.performs_cons, performed, Option.bind_some,
          Holding.performs_uses_closes sound]
        rfl
      have keeping (names : List SocketCall) :
          Holding.performs ⟨descriptors, none⟩ (.opens ⟨fd, descriptors.opened⟩ ::
            names.map (.uses · (some ⟨fd, descriptors.opened⟩))) =
              some ⟨opened, some ⟨fd, descriptors.opened⟩⟩ := by
        rw [Holding.performs_cons, performed, Option.bind_some, Holding.performs_uses sound]
      simp only at dials
      split_ifs at dials <;> cases dials
      · exact ⟨closing _, fun failure same => by cases same; exact .inl rfl⟩
      · exact ⟨closing _, fun failure same => by cases same; exact .inr rfl⟩
      · exact ⟨closing _, fun failure same => by cases same; exact .inl rfl⟩
      · exact ⟨closing _, fun failure same => by cases same; exact .inl rfl⟩
      · exact ⟨keeping _, fun failure same => by cases same⟩

/-- The code of what a call returned. -/
def Returned.code (returned : Returned) : ErrorCode :=
  match returned.result with
  | .ok _ => .ok
  | .error failure => failure.code

/-- **What a call does to descriptors**: it makes calls that can be performed one after the other,
and leaves the others' alone. -/
structure Moved (state : HandleState) (returned : Returned) (next : HandleState) : Prop where
  performed : state.holding.performs returned.calls = some next.holding
  others : next.others = state.others

section Calls

variable {inetPton : Bytes → Option UInt32} {state next : HandleState} {returned : Returned}
  {client : Client}

/-- A call that leaves its error to the thread does nothing else. -/
theorem HandleState.refuses_spec {failure : ClientError}
    (called : some (state.refuses failure) = some (returned, next)) :
    Moved state returned next ∧ next.client = state.client ∧
      returned = ⟨.error failure, []⟩ ∧ next.descriptors = state.descriptors := by
  cases called
  exact ⟨⟨rfl, rfl⟩, rfl, rfl, rfl⟩

theorem HandleState.holding_eq (found : state.client = some client) :
    state.holding = ⟨state.descriptors, client.socketFd⟩ := by
  rw [HandleState.holding, found, Option.bind_some]

theorem HandleState.hangUp_performs (sound : state.holding.Sound state.holding.owned)
    (found : state.client = some client) :
    state.holding.performs (HandleState.hangUp client) =
      some ⟨state.holding.release.descriptors, none⟩ := by
  rw [← Holding.release_eq, ← Holding.performs_uses_closes sound [SocketCall.shutdown],
    HandleState.holding_eq found]
  rfl

/-- What `eop_connect` leaves: an error and no handle, or a handle with a socket whose host is an
address. -/
def ConnectLeaves (inetPton : Bytes → Option UInt32) (returned : Returned) (next : HandleState) :
    Prop :=
  (next.client = none ∧ ∃ failure, returned.result = .error failure) ∨
    ∃ name ip client, inetPton name = some ip ∧ next.client = some client ∧
      client.host = strncpy name eopMaxHostLen ∧ client.socketFd.isSome = true ∧
      returned.result = .ok none

theorem HandleState.connect_spec {host : Option Bytes} {port timeoutMs : Int} {allocated : Bool}
    {outcome : DialOutcome} (absent : state.client = none)
    (called : state.connect inetPton host port timeoutMs allocated outcome =
      some (returned, next)) :
    Moved state returned next ∧ ConnectLeaves inetPton returned next := by
  have refusal {failure : ClientError}
      (same : some (state.refuses failure) = some (returned, next)) :
      Moved state returned next ∧ ConnectLeaves inetPton returned next := by
    obtain ⟨moved, kept, rfl, _⟩ := HandleState.refuses_spec same
    exact ⟨moved, .inl ⟨kept.trans absent, failure, rfl⟩⟩
  have free : state.holding = ⟨state.descriptors, none⟩ := by
    rw [HandleState.holding, absent, Option.bind_none]
  cases host with
  | none => exact refusal called
  | some name =>
      simp only [HandleState.connect] at called
      by_cases range : port < tcpPortMinValue ∨ port > tcpPortMaxValue
      · rw [if_pos range] at called
        exact refusal called
      rw [if_neg range] at called
      by_cases memory : allocated = false
      · rw [if_pos memory] at called
        exact refusal called
      rw [if_neg memory] at called
      cases address : inetPton name with
      | none =>
          rw [address] at called
          exact refusal called
      | some ip =>
          simp only [address, Option.bind_eq_bind, Option.bind_eq_some_iff] at called
          obtain ⟨dialled, dials, called⟩ := called
          obtain ⟨performed, _⟩ := dial_performs dials
          rw [← free] at performed
          cases result : dialled.result with
          | error failure =>
              simp only [result] at called
              cases called
              refine ⟨⟨?_, rfl⟩, .inl ⟨absent, failure, rfl⟩⟩
              rw [performed, result, HandleState.holding, absent]
              rfl
          | ok socketFd =>
              simp only [result] at called
              cases called
              refine ⟨⟨?_, rfl⟩, .inr ⟨name, ip, _, address, rfl, rfl, rfl, rfl⟩⟩
              rw [performed, result]
              rfl

/-- **`eop_reconnect`**: what it keeps, the error it leaves, and whether there is a socket then. -/
theorem HandleState.reconnect_spec {timeoutMs : Int} {outcome : DialOutcome}
    (sound : state.holding.Sound state.holding.owned) (found : state.client = some client)
    (called : state.reconnect inetPton timeoutMs outcome = some (returned, next)) :
    Moved state returned next ∧ ∃ after, next.client = some after ∧
      after.host = client.host ∧ after.port = client.port ∧
      after.connectionTimeoutMs = client.connectionTimeoutMs ∧
      after.nextMsgId = client.nextMsgId ∧ after.lastError.code = returned.code ∧
      (∀ response, returned.result = .ok response → after.socketFd.isSome = true) ∧
      ∀ failure, returned.result = .error failure → after.socketFd = none ∧ failure.code ≠ .ok ∧
        ((inetPton client.host).isSome = true → failure.code ≠ .errInvalidArgument) := by
  have hungUp := HandleState.hangUp_performs sound found
  simp only [HandleState.reconnect, found] at called
  cases address : inetPton client.host with
  | none =>
      simp only [address] at called
      cases called
      refine ⟨⟨hungUp, rfl⟩, _, rfl, rfl, rfl, rfl, rfl, rfl, ?_, ?_⟩
      · rintro _ ⟨⟩
      · rintro _ ⟨⟩
        exact ⟨rfl, nofun, nofun⟩
  | some ip =>
      simp only [address, Option.bind_eq_bind, Option.bind_eq_some_iff] at called
      obtain ⟨dialled, dials, called⟩ := called
      obtain ⟨performed, codes⟩ := dial_performs dials
      cases result : dialled.result with
      | error failure =>
          simp only [result] at called
          cases called
          refine ⟨⟨?_, rfl⟩, _, rfl, rfl, rfl, rfl, rfl, rfl, ?_, ?_⟩
          · rw [Holding.performs_append, hungUp, Option.bind_some, performed, result]
            rfl
          · rintro _ ⟨⟩
          · rintro _ ⟨⟩
            rcases codes failure result with code | code <;>
              exact ⟨rfl, by rw [code]; nofun, fun _ => by rw [code]; nofun⟩
      | ok newFd =>
          simp only [result] at called
          cases called
          refine ⟨⟨?_, rfl⟩, _, rfl, rfl, rfl, rfl, rfl, rfl, fun _ _ => rfl, ?_⟩
          · rw [Holding.performs_append, hungUp, Option.bind_some, performed, result]
            rfl
          · rintro _ ⟨⟩

/-- Sends that do not succeed end a call. -/
theorem eopSendCommand_of_unsent {nextMsgId after : UInt32} {command : Command}
    {outcome : SendOutcome} {payloadAllocated responseAllocated : Bool}
    {socket left : List (Chunk RecvEvent)} {result : Except ClientError Response}
    (unsent : outcome ≠ .whole)
    (sent : eopSendCommand nextMsgId command outcome payloadAllocated responseAllocated socket =
      some (result, after, left)) : ∃ failure, result = .error failure := by
  unfold eopSendCommand at sent
  split_ifs at sent
  · cases sent
    exact ⟨_, rfl⟩
  split at sent
  · cases sent
    exact ⟨_, rfl⟩
  · cases sent
  · cases sent
    exact ⟨_, rfl⟩
  · split_ifs at sent
    cases sent
    exact ⟨_, rfl⟩
  · exact absurd rfl unsent

/-- **`eop_send_command`** on a handle: only its id counter and its error change, and without a
socket it fails. -/
theorem HandleState.sendCommand_spec {attempt : Attempt} {socket : List (Chunk RecvEvent)}
    (sound : state.holding.Sound state.holding.owned) (found : state.client = some client)
    (called : state.sendCommand attempt socket = some (returned, next)) :
    Moved state returned next ∧ next.descriptors = state.descriptors ∧
      (∃ after, next.client = some after ∧ after.socketFd = client.socketFd ∧
        after.host = client.host) ∧
      (∀ call ∈ returned.calls, ∃ name, call = .uses name client.socketFd) ∧
      (client.socketFd = none → ∃ failure, returned.result = .error failure) := by
  simp only [HandleState.sendCommand, found] at called
  split_ifs at called with null
  · obtain ⟨moved, kept, rfl, descriptors⟩ := HandleState.refuses_spec called
    exact ⟨moved, descriptors, ⟨client, kept.trans found, rfl, rfl⟩, nofun, fun _ => ⟨_, rfl⟩⟩
  simp only [Option.bind_eq_bind, Option.bind_eq_some_iff, Prod.exists] at called
  obtain ⟨result, nextMsgId, left, sent, called⟩ := called
  cases called
  have uses : ∃ names : List SocketCall, HandleState.sendCalls client attempt =
      names.map (HolderCall.uses · client.socketFd) := by
    unfold HandleState.sendCalls
    split
    · exact ⟨[.send], rfl⟩
    · exact ⟨[.send, .receive], rfl⟩
    · exact ⟨[], rfl⟩
  obtain ⟨names, uses⟩ := uses
  have held := HandleState.holding_eq found
  refine ⟨⟨?_, rfl⟩, rfl, ⟨_, rfl, rfl, rfl⟩, ?_, ?_⟩
  · rw [held] at sound ⊢
    rw [uses]
    exact Holding.performs_uses sound names
  · intro call member
    simp only [uses] at member
    obtain ⟨name, _, rfl⟩ := List.mem_map.mp member
    exact ⟨name, rfl⟩
  · intro absent
    have unsent : HandleState.sendOutcome client attempt.outcome ≠ .whole := by
      cases attempt.outcome <;> simp [HandleState.sendOutcome, absent]
    obtain ⟨failure, rfl⟩ := eopSendCommand_of_unsent unsent sent
    exact ⟨failure, rfl⟩

/-- **`eop_disconnect`** gives up the socket and the handle. -/
theorem HandleState.disconnect_spec (sound : state.holding.Sound state.holding.owned) :
    Moved state state.disconnect.1 state.disconnect.2 ∧ state.disconnect.2.client = none := by
  unfold HandleState.disconnect
  cases found : state.client with
  | none => exact ⟨⟨rfl, rfl⟩, found⟩
  | some client => exact ⟨⟨HandleState.hangUp_performs sound found, rfl⟩, rfl⟩

end Calls

/-! ### Runs -/

section Runs

variable {inetPton : Bytes → Option UInt32} {state next : HandleState} {event : HandleEvent}
  {output : Option Returned}

/-- Every descriptor has one holder. -/
def HandleState.Kept (state : HandleState) : Prop :=
  ∃ closed, Custody state.descriptors (state.holding.held state.others) closed

theorem HandleState.Kept.sound (kept : state.Kept) : state.holding.Sound state.holding.owned :=
  kept.elim fun _ custody => Holding.sound_of_custody custody

theorem HandleState.Kept.moved {returned : Returned} (kept : state.Kept)
    (moved : Moved state returned next) : next.Kept := by
  obtain ⟨closed, custody⟩ := kept
  have performed := Holding.performs_custody custody moved.performed
  rw [← moved.others] at performed
  exact ⟨_, performed⟩

/-- **A step** is a call of one of the handle's functions, or leaves the handle alone. -/
theorem handle_moves (kept : state.Kept)
    (taken : handle inetPton state event = some (output, next)) :
    (∃ returned, output = some returned ∧ Moved state returned next) ∨
      (output = none ∧ next.client = state.client ∧ next.Kept ∧
        state.descriptors.opened ≤ next.descriptors.opened) := by
  cases event with
  | connect host port timeoutMs allocated outcome =>
      simp only [handle] at taken
      split_ifs at taken with present
      obtain ⟨⟨returned, after⟩, called, same⟩ := Option.map_eq_some_iff.mp taken
      cases same
      have absent := Option.not_isSome_iff_eq_none.mp present
      exact .inl ⟨returned, rfl, (HandleState.connect_spec absent called).1⟩
  | send attempt socket =>
      obtain ⟨⟨returned, after⟩, called, same⟩ := Option.map_eq_some_iff.mp taken
      cases same
      refine .inl ⟨returned, rfl, ?_⟩
      cases found : state.client with
      | none =>
          simp only [HandleState.sendCommand, found] at called
          exact (HandleState.refuses_spec called).1
      | some client => exact (HandleState.sendCommand_spec kept.sound found called).1
  | reconnect timeoutMs outcome =>
      obtain ⟨⟨returned, after⟩, called, same⟩ := Option.map_eq_some_iff.mp taken
      cases same
      refine .inl ⟨returned, rfl, ?_⟩
      cases found : state.client with
      | none =>
          simp only [HandleState.reconnect, found] at called
          exact (HandleState.refuses_spec called).1
      | some client => exact (HandleState.reconnect_spec kept.sound found called).1
  | disconnect =>
      cases taken
      exact .inl ⟨_, rfl, (HandleState.disconnect_spec kept.sound).1⟩
  | opensElsewhere fd =>
      obtain ⟨⟨descriptor, after⟩, opened, same⟩ := Option.map_eq_some_iff.mp taken
      cases same
      obtain ⟨closed, custody⟩ := kept
      refine .inr ⟨rfl, rfl, ⟨closed, (custody.opens opened).moves List.perm_middle⟩, ?_⟩
      obtain ⟨_, _, rfl⟩ := Descriptors.openAt_eq_some opened
      exact Nat.le_succ _
  | closesElsewhere index =>
      obtain ⟨descriptor, found, same⟩ := Option.map_eq_some_iff.mp taken
      cases same
      obtain ⟨closed, custody⟩ := kept
      obtain ⟨inside, rfl⟩ := List.getElem?_eq_some_iff.mp found
      refine .inr ⟨rfl, rfl, ⟨_, (custody.moves ?_).closes⟩, le_refl _⟩
      exact List.perm_middle.symm.trans
        ((List.getElem_cons_eraseIdx_perm inside).append_left _)

/-- The calls on descriptors made in a turn. -/
def callsOf (turn : HandleTurn) : List Syscall := (turn.output.map Returned.calls).getD []

/-- The sockets `socket` returned to the handle. -/
def sockets (trace : List HandleTurn) : List Nat :=
  Holding.openedObjects (trace.flatMap callsOf)

/-- The sockets the handle closed. -/
def closedSockets (trace : List HandleTurn) : List Nat :=
  Holding.closedObjects (trace.flatMap callsOf)

theorem sockets_concat (trace : List HandleTurn) (turn : HandleTurn) :
    sockets (trace ++ [turn]) = sockets trace ++ Holding.openedObjects (callsOf turn) := by
  rw [sockets, List.flatMap_append, List.flatMap_singleton, Holding.openedObjects,
    List.filterMap_append]
  rfl

theorem closedSockets_concat (trace : List HandleTurn) (turn : HandleTurn) :
    closedSockets (trace ++ [turn]) =
      closedSockets trace ++ Holding.closedObjects (callsOf turn) := by
  rw [closedSockets, List.flatMap_append, List.flatMap_singleton, Holding.closedObjects,
    List.filterMap_append]
  rfl

/-- **The handle's ledger**: its sockets are those it has closed, in order, and the one it has. -/
structure Ledger (trace : List HandleTurn) (state : HandleState) : Prop where
  kept : state.Kept
  account : sockets trace = closedSockets trace ++ state.holding.objects
  nodup : (sockets trace).Nodup
  below : ∀ object ∈ sockets trace, object < state.descriptors.opened

theorem Ledger.step {trace : List HandleTurn} (ledger : Ledger trace state)
    (taken : handle inetPton state event = some (output, next)) :
    Ledger (trace ++ [⟨state, event, output, next⟩]) next := by
  rcases handle_moves ledger.kept taken with
    ⟨returned, rfl, moved⟩ | ⟨rfl, same, kept, more⟩
  · have calls : callsOf ⟨state, event, some returned, next⟩ = returned.calls := rfl
    obtain ⟨count, fresh, opened⟩ := Holding.performs_fresh moved.performed
    have account := Holding.performs_account moved.performed
    refine ⟨ledger.kept.moved moved, ?_, ?_, ?_⟩
    · rw [sockets_concat, closedSockets_concat, ledger.account, List.append_assoc, calls, account,
        List.append_assoc]
    · rw [sockets_concat, calls, fresh, List.nodup_append]
      refine ⟨ledger.nodup, List.nodup_range', fun old inside new added same => ?_⟩
      have older := ledger.below old inside
      have newer := (List.mem_range'_1.mp added).1
      have opens : state.holding.descriptors.opened = state.descriptors.opened := rfl
      omega
    · intro object member
      rw [sockets_concat, calls, fresh] at member
      have opens : state.holding.descriptors.opened = state.descriptors.opened := rfl
      have closes : next.holding.descriptors.opened = next.descriptors.opened := rfl
      rcases List.mem_append.mp member with old | new
      · have older := ledger.below object old
        omega
      · have newer := List.mem_range'_1.mp new
        omega
  · have objects : next.holding.objects = state.holding.objects := by
      rw [Holding.objects, Holding.objects, HandleState.holding, HandleState.holding, same]
    have idle : callsOf ⟨state, event, none, next⟩ = [] := rfl
    have opened : sockets (trace ++ [⟨state, event, none, next⟩]) = sockets trace := by
      rw [sockets_concat, idle]
      exact List.append_nil _
    have closed : closedSockets (trace ++ [⟨state, event, none, next⟩]) = closedSockets trace := by
      rw [closedSockets_concat, idle]
      exact List.append_nil _
    refine ⟨kept, ?_, ?_, ?_⟩
    · rw [opened, closed, objects]
      exact ledger.account
    · rw [opened]
      exact ledger.nodup
    · intro object member
      rw [opened] at member
      exact lt_of_lt_of_le (ledger.below object member) more

theorem ledger_of_run {trace : List HandleTurn}
    (run : Run (handle inetPton) .boot trace state) : Ledger trace state := by
  induction run with
  | nil => exact ⟨⟨[], .empty⟩, rfl, .nil, nofun⟩
  | snoc _ taken ih => exact ih.step taken

/-- Without a handle every socket has been closed, and none twice. -/
theorem Ledger.closed_once {trace : List HandleTurn} (ledger : Ledger trace state)
    (gone : state.client = none) (socket : Nat) (member : socket ∈ sockets trace) :
    (closedSockets trace).count socket = 1 := by
  have closed : sockets trace = closedSockets trace := by
    rw [ledger.account, Holding.objects, HandleState.holding, gone]
    exact List.append_nil _
  rw [← closed]
  exact List.count_eq_one_of_mem ledger.nodup member

/-! ### With and without a socket -/

/-- Whether a turn left the handle with a socket: the outcome of a connect that made it, or of a
reconnect. -/
def dialled (turn : HandleTurn) : Option Bool :=
  match turn.event, turn.output with
  | .connect .., some returned => if returned.result.isOk then some true else none
  | .reconnect .., some returned => some returned.result.isOk
  | _, _ => none

/-- **Where a handle comes from**: it was made in this turn, or it was there before, with the same
host, and has a socket as before or as the reconnect says. -/
theorem handle_client {after : Client} (kept : state.Kept)
    (taken : handle inetPton state event = some (output, next))
    (present : next.client = some after) :
    (dialled ⟨state, event, output, next⟩ = some true ∧ after.socketFd.isSome = true ∧
      ∃ name ip, inetPton name = some ip ∧ after.host = strncpy name eopMaxHostLen) ∨
    ∃ client, state.client = some client ∧ after.host = client.host ∧
      (dialled ⟨state, event, output, next⟩).or (some client.socketFd.isSome) =
        some after.socketFd.isSome := by
  cases event with
  | connect host port timeoutMs allocated outcome =>
      simp only [handle] at taken
      split_ifs at taken with occupied
      obtain ⟨⟨returned, finish⟩, called, same⟩ := Option.map_eq_some_iff.mp taken
      cases same
      have absent := Option.not_isSome_iff_eq_none.mp occupied
      rcases (HandleState.connect_spec absent called).2 with
        ⟨gone, _⟩ | ⟨name, ip, client, address, made, host, socket, result⟩
      · cases gone.symm.trans present
      · cases made.symm.trans present
        refine .inl ⟨?_, socket, name, ip, address, host⟩
        simp only [dialled, result]
        rfl
  | send attempt socket =>
      obtain ⟨⟨returned, finish⟩, called, same⟩ := Option.map_eq_some_iff.mp taken
      cases same
      cases found : state.client with
      | none =>
          simp only [HandleState.sendCommand, found] at called
          cases ((HandleState.refuses_spec called).2.1.trans found).symm.trans present
      | some client =>
          obtain ⟨_, _, ⟨kept, stays, socket, host⟩, _⟩ :=
            HandleState.sendCommand_spec kept.sound found called
          cases stays.symm.trans present
          exact .inr ⟨client, rfl, host, by rw [socket]; rfl⟩
  | reconnect timeoutMs outcome =>
      obtain ⟨⟨returned, finish⟩, called, same⟩ := Option.map_eq_some_iff.mp taken
      cases same
      cases found : state.client with
      | none =>
          simp only [HandleState.reconnect, found] at called
          cases ((HandleState.refuses_spec called).2.1.trans found).symm.trans present
      | some client =>
          obtain ⟨_, kept, stays, host, _, _, _, _, made, failed⟩ :=
            HandleState.reconnect_spec kept.sound found called
          cases stays.symm.trans present
          refine .inr ⟨client, rfl, host, ?_⟩
          cases result : returned.result with
          | ok response =>
              rw [made response result]
              simp only [dialled, result]
              rfl
          | error failure =>
              rw [(failed failure result).1]
              simp only [dialled, result]
              rfl
  | disconnect =>
      cases taken
      cases (HandleState.disconnect_spec kept.sound).2.symm.trans present
  | opensElsewhere fd =>
      obtain ⟨_, _, same⟩ := Option.map_eq_some_iff.mp taken
      cases same
      exact .inr ⟨after, present, rfl, rfl⟩
  | closesElsewhere index =>
      obtain ⟨_, _, same⟩ := Option.map_eq_some_iff.mp taken
      cases same
      exact .inr ⟨after, present, rfl, rfl⟩

/-- The handle's host is an address, and it has a socket if it last got one. -/
structure Reached (inetPton : Bytes → Option UInt32) (trace : List HandleTurn)
    (state : HandleState) : Prop where
  hosted : ∀ client, state.client = some client → (inetPton client.host).isSome = true
  dialled : ∀ client, state.client = some client →
    latest dialled trace = some client.socketFd.isSome

theorem reached_of_run (short : ∀ host ip, inetPton host = some ip → host.length ≤ 15)
    {trace : List HandleTurn} (run : Run (handle inetPton) .boot trace state) :
    Reached inetPton trace state := by
  induction run with
  | nil => exact ⟨nofun, nofun⟩
  | @snoc trace state next event output previous taken ih =>
      have kept := (ledger_of_run previous).kept
      refine ⟨fun after present => ?_, fun after present => ?_⟩
      · rcases handle_client kept taken present with
          ⟨_, _, name, ip, address, host⟩ | ⟨client, found, host, _⟩
        · have fits : name.length ≤ eopMaxHostLen - 1 :=
            (short name ip address).trans (by decide)
          rw [host, strncpy, List.take_of_length_le fits, address]
          rfl
        · rw [host]
          exact ih.hosted client found
      · rw [latest_concat]
        rcases handle_client kept taken present with
          ⟨made, socket, _⟩ | ⟨client, found, _, socket⟩
        · rw [made, socket]
          rfl
        · rw [ih.dialled client found]
          exact socket

/-- **The life of a handle.**

For every sequence of calls, every outcome of the system calls and allocations, and whatever else
the program opens and closes in between:

* every call on a descriptor is made on the one socket the handle has, while its number stands for
  it, and a socket is opened only when there is none (`Holding.performs`);
* the sockets opened are those closed, in the same order, and the one the handle has, no socket
  twice;
* `eop_disconnect` leaves no handle, and every socket opened until then has been closed once;
* a live handle has no socket exactly when the last attempt to get one was a failed reconnect; a
  command then fails and touches no descriptor;
* a reconnect keeps host, port, timeout and id counter and never reports an invalid argument. -/
theorem handle_lifecycle (inetPton : Bytes → Option UInt32)
    (short : ∀ host ip, inetPton host = some ip → host.length ≤ 15) {trace : List HandleTurn}
    {finish : HandleState} (run : Run (handle inetPton) .boot trace finish) :
    (∀ turn ∈ trace, ∀ returned, turn.output = some returned →
      turn.before.holding.performs returned.calls = some turn.after.holding) ∧
    (sockets trace).Nodup ∧ sockets trace = closedSockets trace ++ finish.holding.objects ∧
    (finish.client = none → ∀ socket ∈ sockets trace, (closedSockets trace).count socket = 1) ∧
    (∀ earlier turn later, trace = earlier ++ turn :: later → turn.event = .disconnect →
      turn.after.client = none ∧ ∀ socket ∈ sockets (earlier ++ [turn]),
        (closedSockets (earlier ++ [turn])).count socket = 1) ∧
    (∀ client, finish.client = some client →
      (client.socketFd = none ↔ latest dialled trace = some false)) ∧
    (∀ turn ∈ trace, ∀ client attempt socket, turn.before.client = some client →
      client.socketFd = none → turn.event = .send attempt socket →
        turn.after.descriptors = turn.before.descriptors ∧
        ∃ returned failure, turn.output = some returned ∧ returned.result = .error failure ∧
          ∀ call ∈ returned.calls, ∃ name, call = .uses name none) ∧
    (∀ turn ∈ trace, ∀ client timeoutMs outcome, turn.before.client = some client →
      turn.event = .reconnect timeoutMs outcome →
        ∃ returned after, turn.output = some returned ∧ turn.after.client = some after ∧
          after.host = client.host ∧ after.port = client.port ∧
          after.connectionTimeoutMs = client.connectionTimeoutMs ∧
          after.nextMsgId = client.nextMsgId ∧ returned.code ≠ .errInvalidArgument) := by
  have ledger := ledger_of_run run
  have at_turn {turn : HandleTurn} (member : turn ∈ trace) :
      turn.before.Kept ∧ handle inetPton turn.before turn.event =
        some (turn.output, turn.after) ∧
        ∀ client, turn.before.client = some client → (inetPton client.host).isSome = true := by
    obtain ⟨earlier, later, rfl⟩ := List.append_of_mem member
    obtain ⟨before, taken, _⟩ := run.cut
    exact ⟨(ledger_of_run before).kept, taken, (reached_of_run short before).hosted⟩
  refine ⟨?_, ledger.nodup, ledger.account, ledger.closed_once, ?_, ?_, ?_, ?_⟩
  · intro turn member returned output
    obtain ⟨kept, taken, _⟩ := at_turn member
    rcases handle_moves kept taken with ⟨_, same, moved⟩ | ⟨idle, _⟩
    · cases same.symm.trans output
      exact moved.performed
    · cases idle.symm.trans output
  · rintro earlier turn later rfl event
    obtain ⟨before, taken, _⟩ := run.cut
    have gone : turn.after.client = none := by
      rw [event] at taken
      rw [← (Prod.mk.inj (Option.some.inj taken)).2]
      exact (HandleState.disconnect_spec (ledger_of_run before).kept.sound).2
    exact ⟨gone, (ledger_of_run (before.snoc taken)).closed_once gone⟩
  · intro client found
    rw [(reached_of_run short run).dialled client found]
    cases client.socketFd <;> simp
  · intro turn member client attempt socket found absent event
    obtain ⟨kept, taken, _⟩ := at_turn member
    rw [event] at taken
    obtain ⟨⟨returned, after⟩, called, same⟩ := Option.map_eq_some_iff.mp taken
    obtain ⟨_, descriptors, _, calls, fails⟩ :=
      HandleState.sendCommand_spec kept.sound found called
    obtain ⟨failure, result⟩ := fails absent
    obtain ⟨output, finished⟩ := Prod.mk.inj same
    rw [absent] at calls
    rw [← output, ← finished]
    exact ⟨descriptors, returned, failure, rfl, result, calls⟩
  · intro turn member client timeoutMs outcome found event
    obtain ⟨kept, taken, hosted⟩ := at_turn member
    rw [event] at taken
    obtain ⟨⟨returned, after⟩, called, same⟩ := Option.map_eq_some_iff.mp taken
    obtain ⟨_, remade, stays, host, port, timeout, nextMsgId, _, _, failed⟩ :=
      HandleState.reconnect_spec kept.sound found called
    obtain ⟨output, finished⟩ := Prod.mk.inj same
    rw [← output, ← finished]
    refine ⟨returned, remade, rfl, stays, host, port, timeout, nextMsgId, ?_⟩
    rw [Returned.code]
    cases result : returned.result with
    | ok response =>
        intro refused
        cases refused
    | error failure => exact (failed failure result).2.2 (hosted client found)

end Runs

/-- An `inet_pton` that knows one address. -/
def loopback (host : Bytes) : Option UInt32 :=
  if host = text "127.0.0.1" then some 0x7f000001 else none

theorem loopback_short (host : Bytes) (ip : UInt32) (known : loopback host = some ip) :
    host.length ≤ 15 := by
  unfold loopback at known
  split_ifs at known with same
  rw [same]
  decide

/-- System calls that all succeed. -/
def reachable (fd : Nat) : DialOutcome := ⟨some fd, .inProgress, 1, some 0⟩

/-- A HEARTBEAT. -/
def heartbeat : Attempt := ⟨⟨6, none, 0⟩, .whole, true, true⟩

/-- A handle loses its connection: one reconnect times out, a command fails, and the number 3 goes
to somebody else before the next reconnect succeeds. -/
def losing : List HandleEvent :=
  [.connect (some (text "127.0.0.1")) 8080 0 true (reachable 3),
    .reconnect 0 ⟨some 3, .inProgress, 0, none⟩, .opensElsewhere 3, .send heartbeat [],
    .reconnect 0 (reachable 4), .disconnect]

/-- Three sockets, each closed once by the time `eop_disconnect` returns; the handle never touches
the object 2, which has the number it had. -/
theorem handle_lifecycle_losing :
    let trace := execTrace (handle loopback) .boot losing
    sockets trace = [0, 1, 3] ∧ (∀ socket ∈ sockets trace, (closedSockets trace).count socket = 1) ∧
      (execFinal (handle loopback) .boot losing).others = [⟨3, 2⟩] := by
  intro trace
  have facts : (exec (handle loopback) .boot losing).isSome = true ∧ sockets trace = [0, 1, 3] ∧
      (execFinal (handle loopback) .boot losing).others = [⟨3, 2⟩] := by decide +kernel
  obtain ⟨possible, opened, others⟩ := facts
  obtain ⟨earlier, turn, later, split, _, disconnects, last⟩ :=
    execTrace_cut (losing.take 5) .disconnect [] possible
  obtain rfl := List.map_eq_nil_iff.mp last
  have life := handle_lifecycle loopback loopback_short (run_of_possible possible)
  have closed := (life.2.2.2.2.1 earlier turn [] split disconnects).2
  rw [← split] at closed
  exact ⟨opened, closed, others⟩

end ExodusOps.EopClient
