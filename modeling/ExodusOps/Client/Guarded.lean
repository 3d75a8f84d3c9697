/-
**The calls on a handle, step by step.**

`eop_send_command`, `eop_reconnect` and `eop_last_error` hold the handle's mutex from their first
access to the handle to their last. Under it none of them is one step: an error is stored code
first and text after it, a command is sent and its answer received piece by piece, a reconnect
closes one socket long before it has another. Here every access to the handle, every system call,
`malloc` and `free` is a step of its own, and any other thread may move between two of them.

* `sections` — the three functions as critical sections.
* `operate` — each of them in one step, as `Handle` has it.
-/

import ExodusOps.Client.Handle
import ExodusOps.Client.Threads
import ExodusOps.Lib.SharedMutex

namespace ExodusOps.EopClient.Guarded

/-- Memory from `malloc`: its address, and which allocation it is. -/
abbrev Block := Descriptor

/-! ### The calls and their sections -/

/-- A call on a handle that is not null. -/
inductive Call where
  | sendCommand (command : Command)
  | reconnect (timeoutMs : Int)
  | lastError (buffer : Option Nat)

inductive Answer where
  | returned (result : Except ClientError (Option Response))
  | reported (code : ErrorCode) (message : Option Bytes)

/-- A call with all it takes from outside. -/
inductive Operation where
  | send (attempt : Attempt) (socket : List (Chunk RecvEvent))
  | reconnect (timeoutMs : Int) (outcome : DialOutcome) (opened : Nat)
  | lastError (buffer : Option Nat)

/-- All that a call takes from outside: for a command how `send` and `malloc` go and what comes on
the socket, for a reconnect how the calls on its new socket go and how many objects the process has
opened before it. -/
structure Inputs where
  outcome : SendOutcome := .whole
  payloadAllocated : Bool := true
  responseAllocated : Bool := true
  socket : List (Chunk RecvEvent) := []
  dialled : DialOutcome := ⟨none, .failed, 0, none⟩
  opened : Nat := 0

def Call.operation : Call → Inputs → Operation
  | .sendCommand command, inputs =>
      .send ⟨command, inputs.outcome, inputs.payloadAllocated, inputs.responseAllocated⟩
        inputs.socket
  | .reconnect timeoutMs, inputs => .reconnect timeoutMs inputs.dialled inputs.opened
  | .lastError buffer, _ => .lastError buffer

/-- The call that an operation is of. -/
def Operation.call : Operation → Call
  | .send attempt _ => .sendCommand attempt.command
  | .reconnect timeoutMs _ _ => .reconnect timeoutMs
  | .lastError buffer => .lastError buffer

/-- What a step takes from outside. -/
inductive Outcome where
  | nothing
  | malloc (block : Option Block)
  /-- `send`; `none` is −1. -/
  | sent (count : Option Nat)
  /-- `poll` and `recv`; no bytes at the end of the stream. -/
  | received (bytes : Bytes)
  | missed (event : RecvEvent)
  | socket (newFd : Option Descriptor)
  | connect (result : ConnectResult)
  | poll (result : Int)
  /-- `so_error`, if `getsockopt` succeeds. -/
  | soError (error : Option Int)

/-- The receive loop a command is in, with the buffers on its stack and the one for the payload. -/
inductive Reception where
  | framePrefix (framePrefixBuf : Bytes)
  | header (framePrefixBuf headerBuf : Bytes)
  | payload (framePrefixBuf headerBuf : Bytes) (respPayload : Block) (filled : Bytes)

namespace Reception

def loop : Reception → RecvLoop
  | .framePrefix buf => .framePrefix buf
  | .header _ buf => .header buf
  | .payload _ headerBuf _ filled => .payload headerBuf filled

/-- All that has been read of the answer. -/
def bytes : Reception → Bytes
  | .framePrefix buf => buf
  | .header framePrefixBuf buf => framePrefixBuf ++ buf
  | .payload framePrefixBuf headerBuf _ filled => framePrefixBuf ++ (headerBuf ++ filled)

end Reception

/-- What is given back on the way out. -/
inductive Cleanup where
  | free (block : Option Block)
  | close (newFd : Descriptor)

/-- A result, to be stored in the handle, and what is left to do before the mutex is given back.
What the call took from outside is there for the proofs. -/
structure Ending where
  inputs : Inputs
  result : Except ClientError (Option Response)
  cleanup : List Cleanup
  /-- The memory of the response, in the order in which `eop_response_free` gives it back. -/
  memory : List Block

def Ending.failed (inputs : Inputs) (failure : ClientError) (cleanup : List Cleanup) : Ending :=
  ⟨inputs, .error failure, cleanup, []⟩

/-- Where a reconnect is with its new socket, and what the calls on it returned. -/
inductive DialPoint where
  /-- At `fcntl` with `O_NONBLOCK`. -/
  | unblocking
  | connecting
  | polling (connectResult : ConnectResult)
  /-- At `getsockopt`. -/
  | asking (connectResult : ConnectResult) (pollResult : Int)
  /-- At `fcntl` with `F_GETFL`. -/
  | readingFlags (connectResult : ConnectResult) (pollResult : Int)
  /-- At the `fcntl` that takes `O_NONBLOCK` away. -/
  | blocking (connectResult : ConnectResult) (pollResult : Int)
  /-- At the assignment to `socket_fd`. -/
  | replacing (connectResult : ConnectResult) (pollResult : Int)

/-- Where a section is. -/
inductive Locals where
  /-- `eop_send_command`, at `client->next_msg_id++`. -/
  | assigning
  /-- At `malloc(send_buf_size)`. -/
  | allocating (msgId : UInt32)
  | sending (sendBuf : Block) (buffer : Bytes) (totalSent : Nat)
  /-- At `free(send_buf)`. -/
  | sentAll (sendBuf : Block)
  | receiving (reception : Reception)
  /-- At `malloc(resp_payload_len)`. -/
  | allocatingPayload (framePrefixBuf headerBuf : Bytes)
  /-- In `eop_response_create`, with all that was received. -/
  | creating (received : Bytes) (response : Response) (respPayload : Option Block)
  /-- `eop_reconnect`, at `shutdown`. -/
  | hangingUp
  | closing
  /-- At `client->socket_fd = -1`. -/
  | forgetting
  /-- At `inet_pton`. -/
  | resolving
  /-- At `socket`. -/
  | opening (ip : UInt32) (effectiveTimeout : Int)
  | dialling (newFd : Descriptor) (ip : UInt32) (effectiveTimeout : Int) (point : DialPoint)
  /-- `eop_last_error`. -/
  | readingCode
  | readingText (code : ErrorCode) (size : Nat)
  /-- At the assignment to `last_error`. -/
  | storingCode (ending : Ending)
  /-- At `last_error_msg`. -/
  | storingText (ending : Ending)
  | cleaning (ending : Ending) (rest : List Cleanup)

/-- What is left of a step: the handle, and the local variables or the answer. -/
abbrev Accessed := Client × (Locals ⊕ Answer)

/-- What a result leaves in the handle. -/
def stored : Except ClientError (Option Response) → LastError
  | .error failure => .ofFailure failure
  | .ok _ => .clear

def store (client : Client) (result : Except ClientError (Option Response)) : Client :=
  { client with lastError := stored result }

/-- The result is stored. -/
def Ending.leaves (ending : Ending) : List Cleanup → Locals ⊕ Answer
  | [] => .inr (.returned ending.result)
  | rest => .inl (.cleaning ending rest)

section Accesses

variable (client : Client)

/-- The handle stays as it is. -/
def goTo (locals : Locals) : Option Accessed := some (client, .inl locals)

/-- The end of `eop_send_command` and of `eop_reconnect`. -/
def endAccess : Locals → Outcome → Option Accessed
  | .storingCode ending, .nothing =>
      let lastError := { client.lastError with code := (stored ending.result).code }
      some ({ client with lastError }, .inl (.storingText ending))
  | .storingText ending, .nothing =>
      let lastError := { client.lastError with message := (stored ending.result).message }
      some ({ client with lastError }, ending.leaves ending.cleanup)
  | .cleaning ending (_ :: rest), .nothing => some (client, ending.leaves rest)
  | _, _ => none

/-- The test of the send loop. -/
def sendLoop (sendBuf : Block) (buffer : Bytes) (totalSent : Nat) : Locals :=
  if totalSent < buffer.length then .sending sendBuf buffer totalSent else .sentAll sendBuf

/-- Behind the header. -/
def headerRead (framePrefixBuf headerBuf : Bytes) : Locals :=
  if headerBuf.getD 0 0 ≠ eopProtocolVersion then
    .storingCode (.failed { socket := putBack (framePrefixBuf ++ headerBuf) [] }
      ⟨.errDisconnected, "Unsupported protocol version in response"⟩ [])
  else if (wordAt headerBuf 6).toNat > 0 then .allocatingPayload framePrefixBuf headerBuf
  else
    .creating (framePrefixBuf ++ headerBuf)
      ⟨(headerBuf.getD 1 0).toUInt32, wordAt headerBuf 2, []⟩ none

/-- Behind a `recv` that gave some bytes. -/
def Reception.take (bytes : Bytes) : Reception → Locals
  | .framePrefix buf =>
      if (buf ++ bytes).length < 4 then .receiving (.framePrefix (buf ++ bytes))
      else .receiving (.header (buf ++ bytes) [])
  | .header framePrefixBuf buf =>
      if (buf ++ bytes).length < 10 then .receiving (.header framePrefixBuf (buf ++ bytes))
      else headerRead framePrefixBuf (buf ++ bytes)
  | .payload framePrefixBuf headerBuf respPayload filled =>
      if (filled ++ bytes).length < (wordAt headerBuf 6).toNat then
        .receiving (.payload framePrefixBuf headerBuf respPayload (filled ++ bytes))
      else
        .creating (framePrefixBuf ++ (headerBuf ++ (filled ++ bytes)))
          ⟨(headerBuf.getD 1 0).toUInt32, wordAt headerBuf 2, filled ++ bytes⟩ (some respPayload)

/-- What a receive loop gives back when it fails. -/
def Reception.cleanup : Reception → List Cleanup
  | .payload _ _ respPayload _ => [.free (some respPayload)]
  | _ => []

/-- `eop_send_command`, step by step. -/
def sendCommandAccess (command : Command) : Locals → Outcome → Option Accessed
  | .assigning, .nothing =>
      some ({ client with nextMsgId := client.nextMsgId + 1 }, .inl (.allocating client.nextMsgId))
  | .allocating _, .malloc none =>
      goTo client (.storingCode (.failed { outcome := .allocFailed }
        ⟨.errAlloc, "Failed to allocate send buffer"⟩ []))
  | .allocating msgId, .malloc (some sendBuf) =>
      -- `none` where the payload's copy leaves a buffer
      match sendBuffer command msgId with
      | none => none
      | some (.error code) =>
          goTo client (.storingCode (.failed {}
            ⟨code, "Failed to serialize envelope"⟩ [.free (some sendBuf)]))
      | some (.ok buffer) => goTo client (sendLoop sendBuf buffer 0)
  | .sending sendBuf _ totalSent, .sent none =>
      goTo client (.storingCode (.failed { outcome := .failed totalSent }
        ⟨.errDisconnected, "Send failed"⟩ [.free (some sendBuf)]))
  | .sending sendBuf buffer totalSent, .sent (some count) =>
      -- on −1 every `send` fails
      if client.socketFd.isSome ∧ count ≤ buffer.length - totalSent then
        goTo client (sendLoop sendBuf buffer (totalSent + count))
      else none
  | .sentAll _, .nothing => goTo client (.receiving (.framePrefix []))
  | .receiving reception, .missed event =>
      (phaseFailure reception.loop.texts event).bind fun failure =>
        goTo client (.storingCode (.failed { socket := putBack reception.bytes [.event event] }
          failure reception.cleanup))
  | .receiving reception, .received [] =>
      goTo client (.storingCode (.failed { socket := putBack reception.bytes [] }
        ⟨.errDisconnected, reception.loop.texts.closed⟩ reception.cleanup))
  | .receiving reception, .received bytes =>
      if bytes.length ≤ reception.loop.wanted then goTo client (reception.take bytes)
      else none
  | .allocatingPayload framePrefixBuf headerBuf, .malloc none =>
      goTo client (.storingCode (.failed
        { payloadAllocated := false, socket := putBack (framePrefixBuf ++ headerBuf) [] }
        ⟨.errAlloc, "Failed to allocate response payload buffer"⟩ []))
  | .allocatingPayload framePrefixBuf headerBuf, .malloc (some respPayload) =>
      goTo client (.receiving (.payload framePrefixBuf headerBuf respPayload []))
  | .creating received _ respPayload, .malloc none =>
      goTo client (.storingCode (.failed
        { responseAllocated := false, socket := putBack received [] }
        ⟨.errAlloc, "Failed to allocate response struct"⟩ [.free respPayload]))
  | .creating received response respPayload, .malloc (some block) =>
      goTo client (.storingCode ⟨{ socket := putBack received [] },
        .ok (some response), [], respPayload.toList ++ [block]⟩)
  | locals, outcome => endAccess client locals outcome

/-- Connecting failed with this. -/
def dialFails (newFd : Descriptor) (connectResult : ConnectResult)
    (pollResult : Int) (soError : Option Int) (failure : ClientError) : Locals :=
  .storingCode (.failed
    { dialled := ⟨some newFd.fd, connectResult, pollResult, soError⟩, opened := newFd.object }
    failure [.close newFd])

/-- The calls on the new socket. -/
def dialAccess (newFd : Descriptor) (ip : UInt32) (effectiveTimeout : Int) :
    DialPoint → Outcome → Option Accessed
  | .unblocking, .nothing => goTo client (.dialling newFd ip effectiveTimeout .connecting)
  | .connecting, .connect connectResult =>
      if connectResult = .failed then
        goTo client (dialFails newFd .failed 0 none
          ⟨.errConnectFailed, reconnectTexts.connect⟩)
      else goTo client (.dialling newFd ip effectiveTimeout (.polling connectResult))
  | .polling connectResult, .poll pollResult =>
      if pollResult = 0 then
        goTo client (dialFails newFd connectResult pollResult none
          ⟨.errTimeout, reconnectTexts.timeout⟩)
      else if pollResult < 0 then
        goTo client (dialFails newFd connectResult pollResult none
          ⟨.errConnectFailed, reconnectTexts.poll⟩)
      else goTo client (.dialling newFd ip effectiveTimeout (.asking connectResult pollResult))
  | .asking connectResult pollResult, .soError error =>
      if error ≠ some 0 then
        goTo client (dialFails newFd connectResult pollResult error
          ⟨.errConnectFailed, reconnectTexts.soError⟩)
      else
        goTo client (.dialling newFd ip effectiveTimeout (.readingFlags connectResult pollResult))
  | .readingFlags connectResult pollResult, .nothing =>
      goTo client (.dialling newFd ip effectiveTimeout (.blocking connectResult pollResult))
  | .blocking connectResult pollResult, .nothing =>
      goTo client (.dialling newFd ip effectiveTimeout (.replacing connectResult pollResult))
  | .replacing connectResult pollResult, .nothing =>
      some ({ client with socketFd := some newFd }, .inl (.storingCode
        ⟨{ dialled := ⟨some newFd.fd, connectResult, pollResult, some 0⟩, opened := newFd.object },
          .ok none, [], []⟩))
  | _, _ => none

/-- `eop_reconnect`, step by step. -/
def reconnectAccess (inetPton : Bytes → Option UInt32) (timeoutMs : Int) :
    Locals → Outcome → Option Accessed
  | .hangingUp, .nothing => goTo client .closing
  | .closing, .nothing => goTo client .forgetting
  | .forgetting, .nothing => some ({ client with socketFd := none }, .inl .resolving)
  | .resolving, .nothing =>
      let effectiveTimeout := if timeoutMs > 0 then timeoutMs else client.connectionTimeoutMs
      match inetPton client.host with
      | none =>
          goTo client (.storingCode (.failed {}
            ⟨.errInvalidArgument, "Invalid stored host address"⟩ []))
      | some ip => goTo client (.opening ip effectiveTimeout)
  | .opening _ _, .socket none =>
      goTo client (.storingCode (.failed {}
        ⟨.errConnectFailed, reconnectTexts.socket⟩ []))
  | .opening ip effectiveTimeout, .socket (some newFd) =>
      goTo client (.dialling newFd ip effectiveTimeout .unblocking)
  | .dialling newFd ip effectiveTimeout point, outcome =>
      dialAccess client newFd ip effectiveTimeout point outcome
  | locals, outcome => endAccess client locals outcome

/-- `eop_last_error`, step by step: the code, and the text if there is a buffer for it. -/
def lastErrorAccess (buffer : Option Nat) : Locals → Outcome → Option Accessed
  | .readingCode, .nothing =>
      match buffer with
      | some (size + 1) => goTo client (.readingText client.lastError.code (size + 1))
      | _ => some (client, .inr (.reported client.lastError.code none))
  | .readingText code size, .nothing =>
      some (client, .inr (.reported code (some (strncpy client.lastError.message size))))
  | _, _ => none

def access (inetPton : Bytes → Option UInt32) : Call → Locals → Outcome → Option Accessed
  | .sendCommand command => sendCommandAccess client command
  | .reconnect timeoutMs => reconnectAccess client inetPton timeoutMs
  | .lastError buffer => lastErrorAccess client buffer

end Accesses

/-- A null payload is refused before the mutex is taken. Its error is stored in the thread, out of
the reach of other threads. -/
def Call.early : Call → Option Answer
  | .sendCommand command =>
      if command.payload = none ∧ command.payloadLen > 0 then
        some (.returned (.error ⟨.errInvalidArgument, "Payload is NULL but payload_len > 0"⟩))
      else none
  | _ => none

def Call.enter : Call → Locals
  | .sendCommand _ => .assigning
  | .reconnect _ => .hangingUp
  | .lastError _ => .readingCode

/-- The threads at a handle. A `pthread_mutex_t` has one mode. -/
def sections (inetPton : Bytes → Option UInt32) : Sections Client Call Locals Outcome Answer where
  early := Call.early
  mode _ := .exclusive
  enter := Call.enter
  access client := access client inetPton

abbrev ClientThreads (τ : Type) := SectionState τ Client Call Locals Answer

abbrev ClientTurn (τ : Type) := SectionTurn τ Client Call Locals Outcome Answer

/-! ### The calls as single steps -/

/-- A process in which nothing is open but what the handle has. -/
def alone (client : Client) (opened : Nat) : HandleState :=
  ⟨⟨fun _ => none, opened⟩, some client, .clear, []⟩

/-- A call of `Handle`: its result, and the handle after it. -/
def called (outcome : Option (Returned × HandleState)) : Option (Answer × Client) :=
  outcome.bind fun (returned, next) => next.client.map (.returned returned.result, ·)

/-- The step a call is. What others have open makes no difference to its result. -/
def operate (inetPton : Bytes → Option UInt32) (client : Client) :
    Operation → Option (Answer × Client)
  | .send attempt socket => called ((alone client 0).sendCommand attempt socket)
  | .reconnect timeoutMs outcome opened =>
      called ((alone client opened).reconnect inetPton timeoutMs outcome)
  | .lastError buffer =>
      let (code, message) := eopLastError (alone client 0) (some client) buffer
      some (.reported code message, client)

/-- The call, with what its section has taken from outside at its end. -/
def labels : Labels Call Locals Outcome Operation where
  ends
    | call, .storingText ending, _ | call, .cleaning ending _, _ => call.operation ending.inputs
    | call, _, _ => call.operation {}
  early call := call.operation {}

end ExodusOps.EopClient.Guarded
