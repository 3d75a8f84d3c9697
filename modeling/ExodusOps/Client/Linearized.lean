/-
**The calls on a handle are atomic.**

`Handle` takes a call on a handle for one step, `Guarded` for as many as it makes. For threads that
share the handle the two come to the same.

The header of the client warns of a reconnect while another thread is in `eop_send_command`. Both
take the mutex, and the theorems here make no exception for the pair.

* `access_carries` — how far each section has come, against the handle with which it began.
* `client_linearizable` — **the calls are atomic**: those of a run, in the order of the accesses
  that end their sections, are a run of the calls as single steps, with the same results, and each
  of these accesses is between the call and its return.
* `last_error_whole` — **the code and the text `eop_last_error` returns belong together**: they are
  those of the call that held the mutex last.
-/

import ExodusOps.Client.Guarded

namespace ExodusOps.EopClient.Guarded

/-! ### How far a section has come -/

section Progress

variable (inetPton : Bytes → Option UInt32)

/-- The id of the command is taken. -/
def counted (client : Client) : Client := { client with nextMsgId := client.nextMsgId + 1 }

/-- The socket is given up. -/
def hungUp (client : Client) : Client := { client with socketFd := none }

/-- The command is framed, and there is a socket it is sent on. -/
structure Sent (start : Client) (command : Command) : Prop where
  early : (Call.sendCommand command).early = none
  connected : start.socketFd.isSome = true
  framed : ∃ buffer, sendBuffer command start.nextMsgId = some (.ok buffer)

/-- A loop has not got all of its bytes, and those before it have. -/
def Reception.Open : Reception → Prop
  | .framePrefix buf => buf.length < 4
  | .header framePrefixBuf buf => framePrefixBuf.length = 4 ∧ buf.length < 10
  | .payload framePrefixBuf headerBuf _ filled => framePrefixBuf.length = 4 ∧
      headerBuf.length = 10 ∧ headerBuf.getD 0 0 = eopProtocolVersion ∧
      filled.length < (wordAt headerBuf 6).toNat

/-- Nothing has gone wrong with the new socket. -/
def DialPoint.Passed : DialPoint → Prop
  | .unblocking | .connecting => True
  | .polling connectResult => connectResult ≠ .failed
  | .asking connectResult pollResult | .readingFlags connectResult pollResult
  | .blocking connectResult pollResult | .replacing connectResult pollResult =>
      connectResult ≠ .failed ∧ 0 < pollResult

/-- **How far a section has come**, against the handle with which it began. -/
inductive Progress : Call → Client → Client → Locals → Prop where
  | assigning {command : Command} {start : Client} :
      (Call.sendCommand command).early = none →
      Progress (.sendCommand command) start start .assigning
  | allocating {command : Command} {start : Client} :
      (Call.sendCommand command).early = none →
      Progress (.sendCommand command) start (counted start) (.allocating start.nextMsgId)
  | sending {command : Command} {start : Client} {sendBuf : Block} {buffer : Bytes}
      {totalSent : Nat} : (Call.sendCommand command).early = none →
      sendBuffer command start.nextMsgId = some (.ok buffer) → totalSent < buffer.length →
      Progress (.sendCommand command) start (counted start) (.sending sendBuf buffer totalSent)
  | sentAll {command : Command} {start : Client} {sendBuf : Block} : Sent start command →
      Progress (.sendCommand command) start (counted start) (.sentAll sendBuf)
  | receiving {command : Command} {start : Client} {reception : Reception} :
      Sent start command → reception.Open →
      Progress (.sendCommand command) start (counted start) (.receiving reception)
  | allocatingPayload {command : Command} {start : Client} {framePrefixBuf headerBuf : Bytes} :
      Sent start command → framePrefixBuf.length = 4 → headerBuf.length = 10 →
      headerBuf.getD 0 0 = eopProtocolVersion → 0 < (wordAt headerBuf 6).toNat →
      Progress (.sendCommand command) start (counted start)
        (.allocatingPayload framePrefixBuf headerBuf)
  | creating {command : Command} {start : Client} {received : Bytes} {response : Response}
      {respPayload : Option Block} : Sent start command →
      (∀ allocated, receiveResponse true allocated (putBack received []) =
        (finishResponse allocated response, [])) →
      Progress (.sendCommand command) start (counted start)
        (.creating received response respPayload)
  | hangingUp {timeoutMs : Int} {start : Client} :
      Progress (.reconnect timeoutMs) start start .hangingUp
  | closing {timeoutMs : Int} {start : Client} :
      Progress (.reconnect timeoutMs) start start .closing
  | forgetting {timeoutMs : Int} {start : Client} :
      Progress (.reconnect timeoutMs) start start .forgetting
  | resolving {timeoutMs : Int} {start : Client} :
      Progress (.reconnect timeoutMs) start (hungUp start) .resolving
  | opening {timeoutMs effectiveTimeout : Int} {start : Client} {ip : UInt32} :
      inetPton start.host = some ip →
      Progress (.reconnect timeoutMs) start (hungUp start) (.opening ip effectiveTimeout)
  | dialling {timeoutMs effectiveTimeout : Int} {start : Client} {newFd : Descriptor}
      {ip : UInt32} {point : DialPoint} : inetPton start.host = some ip → point.Passed →
      Progress (.reconnect timeoutMs) start (hungUp start)
        (.dialling newFd ip effectiveTimeout point)
  | readingCode {buffer : Option Nat} {start : Client} :
      Progress (.lastError buffer) start start .readingCode
  | readingText {start : Client} {size : Nat} :
      Progress (.lastError (some (size + 1))) start start
        (.readingText start.lastError.code (size + 1))
  | storingCode {call : Call} {start shared : Client} {ending : Ending} :
      operate inetPton start (call.operation ending.inputs) =
        some (.returned ending.result, store shared ending.result) →
      Progress call start shared (.storingCode ending)
  | storingText {call : Call} {start shared : Client} {ending : Ending} :
      operate inetPton start (call.operation ending.inputs) =
        some (.returned ending.result, store shared ending.result) →
      shared.lastError.code = (stored ending.result).code →
      Progress call start shared (.storingText ending)
  | cleaning {call : Call} {start shared : Client} {ending : Ending} {rest : List Cleanup} :
      operate inetPton start (call.operation ending.inputs) =
        some (.returned ending.result, shared) →
      Progress call start shared (.cleaning ending rest)

end Progress

/-! #### The operation behind a step -/

section Operations

variable {inetPton : Bytes → Option UInt32} {start : Client} {command : Command}

theorem early_eq_none : (Call.sendCommand command).early = none ↔
    ¬ (command.payload = none ∧ command.payloadLen > 0) := by
  simp only [Call.early]
  split <;> simp_all

/-- A command that is not refused, as a single step. -/
theorem operate_send (proper : (Call.sendCommand command).early = none) (outcome : SendOutcome)
    (payloadAllocated responseAllocated : Bool) (socket : List (Chunk RecvEvent)) :
    operate inetPton start (.send ⟨command, outcome, payloadAllocated, responseAllocated⟩ socket) =
      (eopSendCommand start.nextMsgId command (HandleState.sendOutcome start outcome)
        payloadAllocated responseAllocated socket).map fun done =>
          (.returned (done.1.map some),
            store { start with nextMsgId := done.2.1 } (done.1.map some)) := by
  simp only [operate, called, alone, HandleState.sendCommand, if_neg (early_eq_none.mp proper)]
  cases eopSendCommand start.nextMsgId command (HandleState.sendOutcome start outcome)
      payloadAllocated responseAllocated socket with
  | none => rfl
  | some done =>
      obtain ⟨result, nextMsgId, left⟩ := done
      cases result <;> rfl

/-- There is no memory for the frame. -/
theorem operate_allocFailed (proper : (Call.sendCommand command).early = none) :
    operate inetPton start (.send ⟨command, .allocFailed, true, true⟩ []) =
      some (.returned (.error ⟨.errAlloc, "Failed to allocate send buffer"⟩),
        store (counted start) (.error ⟨.errAlloc, "Failed to allocate send buffer"⟩)) := by
  rw [operate_send proper]
  simp only [eopSendCommand, if_neg (early_eq_none.mp proper), HandleState.sendOutcome]
  rfl

/-- The command is of no known type. -/
theorem operate_unserialized (proper : (Call.sendCommand command).early = none) {code : ErrorCode}
    (refused : sendBuffer command start.nextMsgId = some (.error code)) :
    operate inetPton start (.send ⟨command, .whole, true, true⟩ []) =
      some (.returned (.error ⟨code, "Failed to serialize envelope"⟩),
        store (counted start) (.error ⟨code, "Failed to serialize envelope"⟩)) := by
  rw [operate_send proper]
  by_cases absent : start.socketFd.isNone = true
  · simp only [eopSendCommand, if_neg (early_eq_none.mp proper), HandleState.sendOutcome,
      if_pos absent, refused]
    rfl
  · simp only [eopSendCommand, if_neg (early_eq_none.mp proper), HandleState.sendOutcome,
      if_neg absent, refused]
    rfl

/-- A `send` fails. -/
theorem operate_sendFailed (proper : (Call.sendCommand command).early = none) {buffer : Bytes}
    (framed : sendBuffer command start.nextMsgId = some (.ok buffer)) {count : Nat}
    (short : count < buffer.length) :
    operate inetPton start (.send ⟨command, .failed count, true, true⟩ []) =
      some (.returned (.error ⟨.errDisconnected, "Send failed"⟩),
        store (counted start) (.error ⟨.errDisconnected, "Send failed"⟩)) := by
  have some_ : 0 < buffer.length := Nat.zero_lt_of_lt short
  rw [operate_send proper]
  by_cases absent : start.socketFd.isNone = true
  · simp only [eopSendCommand, if_neg (early_eq_none.mp proper), HandleState.sendOutcome,
      if_pos absent, framed, if_pos some_]
    rfl
  · simp only [eopSendCommand, if_neg (early_eq_none.mp proper), HandleState.sendOutcome,
      if_neg absent, framed, if_pos short]
    rfl

/-- The command is sent: the rest is `receiveResponse`. -/
theorem operate_received (sent : Sent start command) {payloadAllocated responseAllocated : Bool}
    {socket left : List (Chunk RecvEvent)} {result : Except ClientError Response}
    (received : receiveResponse payloadAllocated responseAllocated socket = (result, left)) :
    operate inetPton start (.send ⟨command, .whole, payloadAllocated, responseAllocated⟩ socket) =
      some (.returned (result.map some),
        store (counted start) (result.map some)) := by
  obtain ⟨buffer, framed⟩ := sent.framed
  have connected : start.socketFd.isNone = false := by
    cases there : start.socketFd with
    | none =>
        have connected := sent.connected
        rw [there] at connected
        cases connected
    | some socketFd => rfl
  rw [operate_send sent.early]
  simp only [eopSendCommand, if_neg (early_eq_none.mp sent.early), HandleState.sendOutcome,
    connected, framed, received]
  rfl

/-- Giving up the socket leaves nothing open. -/
theorem alone_release (opened : Nat) :
    (alone start opened).holding.release.descriptors = ⟨fun _ => none, opened⟩ := by
  unfold Holding.release HandleState.holding alone
  cases there : start.socketFd with
  | none => simp [there]
  | some socketFd =>
      simp only [Option.bind_some, there, Descriptors.close]
      congr 1
      exact Function.update_eq_self socketFd.fd (fun _ => none)

theorem openAt_alone (newFd : Descriptor) :
    Descriptors.openAt ⟨fun _ => none, newFd.object⟩ newFd.fd = some (newFd,
      ⟨Function.update (fun _ => none) newFd.fd (some newFd.object), newFd.object + 1⟩) := rfl

/-- A reconnect to a host that is no address. -/
theorem operate_unresolved (unknown : inetPton start.host = none) (timeoutMs : Int)
    (outcome : DialOutcome) (opened : Nat) :
    operate inetPton start (.reconnect timeoutMs outcome opened) =
      some (.returned (.error ⟨.errInvalidArgument, "Invalid stored host address"⟩),
        store (hungUp start) (.error ⟨.errInvalidArgument, "Invalid stored host address"⟩)) := by
  simp only [operate, called, alone, HandleState.reconnect, unknown]
  rfl

/-- What a reconnect comes to. -/
def dialEnds (start : Client) : Except ClientError Descriptor → Answer × Client
  | .error failure => (.returned (.error failure), store (hungUp start) (.error failure))
  | .ok newFd => (.returned (.ok none), store { start with socketFd := some newFd } (.ok none))

/-- A reconnect is the end of the old socket and a new one, or none. -/
theorem operate_dialled {ip : UInt32} (known : inetPton start.host = some ip) {timeoutMs : Int}
    {outcome : DialOutcome} {opened : Nat} {result : Except ClientError Descriptor}
    {descriptors : Descriptors}
    (dials : ∀ effectiveTimeout, ∃ calls, dial reconnectTexts ip start.port effectiveTimeout outcome
      ⟨fun _ => none, opened⟩ = some ⟨result, calls, descriptors⟩) :
    operate inetPton start (.reconnect timeoutMs outcome opened) =
      some (dialEnds start result) := by
  have released := @alone_release start opened
  obtain ⟨calls, made⟩ :=
    dials (if timeoutMs > 0 then timeoutMs else start.connectionTimeoutMs)
  simp only [operate, called, HandleState.reconnect, released]
  simp only [alone, known, made]
  cases result <;> rfl

/-- `socket` fails. -/
theorem operate_noSocket {ip : UInt32} (known : inetPton start.host = some ip) (timeoutMs : Int) :
    operate inetPton start (.reconnect timeoutMs ⟨none, .failed, 0, none⟩ 0) =
      some (.returned (.error ⟨.errConnectFailed, reconnectTexts.socket⟩),
        store (hungUp start) (.error ⟨.errConnectFailed, reconnectTexts.socket⟩)) := by
  have dials (effectiveTimeout : Int) : ∃ calls, dial reconnectTexts ip start.port effectiveTimeout
      ⟨none, .failed, 0, none⟩ ⟨fun _ => none, 0⟩ =
        some ⟨.error ⟨.errConnectFailed, reconnectTexts.socket⟩, calls, ⟨fun _ => none, 0⟩⟩ :=
    ⟨_, rfl⟩
  exact operate_dialled known dials

/-- A call on the new socket fails. -/
theorem operate_dialFailed {ip : UInt32} (known : inetPton start.host = some ip) {timeoutMs : Int}
    {newFd : Descriptor} {connectResult : ConnectResult} {pollResult : Int} {soError : Option Int}
    {failure : ClientError}
    (fails : (connectResult = .failed ∧ failure = ⟨.errConnectFailed, reconnectTexts.connect⟩) ∨
      (connectResult ≠ .failed ∧ pollResult = 0 ∧
        failure = ⟨.errTimeout, reconnectTexts.timeout⟩) ∨
      (connectResult ≠ .failed ∧ pollResult < 0 ∧
        failure = ⟨.errConnectFailed, reconnectTexts.poll⟩) ∨
      (connectResult ≠ .failed ∧ 0 < pollResult ∧ soError ≠ some 0 ∧
        failure = ⟨.errConnectFailed, reconnectTexts.soError⟩)) :
    operate inetPton start (.reconnect timeoutMs
        ⟨some newFd.fd, connectResult, pollResult, soError⟩ newFd.object) =
      some (.returned (.error failure), store (hungUp start) (.error failure)) := by
  have dials (effectiveTimeout : Int) : ∃ calls, dial reconnectTexts ip start.port effectiveTimeout
      ⟨some newFd.fd, connectResult, pollResult, soError⟩ ⟨fun _ => none, newFd.object⟩ =
        some ⟨.error failure, calls, Descriptors.close ⟨Function.update (fun _ => none) newFd.fd
          (some newFd.object), newFd.object + 1⟩ newFd.fd⟩ := by
    simp only [dial, openAt_alone, Option.bind_eq_bind, Option.bind_some]
    rcases fails with ⟨failed, rfl⟩ | ⟨passed, zero, rfl⟩ | ⟨passed, negative, rfl⟩ |
      ⟨passed, positive, refused, rfl⟩
    · rw [if_pos failed]
      exact ⟨_, rfl⟩
    · rw [if_neg passed, if_pos zero]
      exact ⟨_, rfl⟩
    · rw [if_neg passed, if_neg (by omega), if_pos negative]
      exact ⟨_, rfl⟩
    · rw [if_neg passed, if_neg (by omega), if_neg (by omega), if_pos refused]
      exact ⟨_, rfl⟩
  exact operate_dialled known dials

/-- Nothing fails. -/
theorem operate_reconnected {ip : UInt32} (known : inetPton start.host = some ip)
    {timeoutMs : Int} {newFd : Descriptor} {connectResult : ConnectResult} {pollResult : Int}
    (passed : connectResult ≠ .failed) (positive : 0 < pollResult) :
    operate inetPton start (.reconnect timeoutMs
        ⟨some newFd.fd, connectResult, pollResult, some 0⟩ newFd.object) =
      some (.returned (.ok none), store { start with socketFd := some newFd } (.ok none)) := by
  have dials (effectiveTimeout : Int) : ∃ calls, dial reconnectTexts ip start.port effectiveTimeout
      ⟨some newFd.fd, connectResult, pollResult, some 0⟩ ⟨fun _ => none, newFd.object⟩ =
        some ⟨.ok newFd, calls, ⟨Function.update (fun _ => none) newFd.fd
          (some newFd.object), newFd.object + 1⟩⟩ := by
    simp only [dial, openAt_alone, Option.bind_eq_bind, Option.bind_some]
    rw [if_neg passed, if_neg (by omega), if_neg (by omega), if_neg (fun wrong => wrong rfl)]
    exact ⟨_, rfl⟩
  exact operate_dialled known dials

end Operations

/-! #### What has been received -/

section Receptions

variable {framePrefixBuf headerBuf bytes : Bytes} {tail left : List (Chunk RecvEvent)}

/-- A phase that has all of its bytes. -/
theorem recvPhase_first (texts : PhaseTexts) {first : Bytes} {count : Nat}
    (size : first.length = count) :
    recvPhase texts (putBack (first ++ bytes) tail) count = (.ok first, putBack bytes tail) := by
  subst size
  have enough : first.length ≤ (first ++ bytes).length := by
    rw [List.length_append]
    exact Nat.le_add_right _ _
  rw [recvPhase, readExact_putBack _ _ enough, List.take_left, List.drop_left]

/-- **A receive loop that fails** fails the whole reception. -/
theorem receiveResponse_fails {reception : Reception} (unfinished : reception.Open)
    {failure : ClientError} (responseAllocated : Bool)
    (fails : ∀ {bytes : Bytes} {count : Nat}, bytes.length < count →
      recvPhase reception.loop.texts (putBack bytes tail) count = (.error failure, left)) :
    receiveResponse true responseAllocated (putBack reception.bytes tail) =
      (.error failure, left) := by
  cases reception with
  | framePrefix buf =>
      have failed : recvPhase prefixTexts (putBack buf tail) 4 = _ := fails unfinished
      simp only [receiveResponse, Reception.bytes, failed]
  | header framePrefixBuf buf =>
      obtain ⟨four, short⟩ := unfinished
      have failed : recvPhase headerTexts (putBack buf tail) 10 = _ := fails short
      simp only [receiveResponse, Reception.bytes, recvPhase_first prefixTexts four, failed]
  | payload framePrefixBuf headerBuf respPayload filled =>
      obtain ⟨four, ten, version, short⟩ := unfinished
      have failed : recvPhase payloadTexts (putBack filled tail) (wordAt headerBuf 6).toNat = _ :=
        fails short
      simp only [receiveResponse, Reception.bytes, recvPhase_first prefixTexts four,
        recvPhase_first headerTexts ten, version, ne_eq, not_true_eq_false, if_false,
        if_pos (Nat.zero_lt_of_lt short), if_true, failed]

/-- What is left to do behind a header that announces a payload. -/
def payloadPhase (responseAllocated : Bool) (headerBuf : Bytes) (socket : List (Chunk RecvEvent)) :
    Except ClientError Response × List (Chunk RecvEvent) :=
  match recvPhase payloadTexts socket (wordAt headerBuf 6).toNat with
  | (.error failure, socket) => (.error failure, socket)
  | (.ok payload, socket) => (finishResponse responseAllocated
      ⟨(headerBuf.getD 1 0).toUInt32, wordAt headerBuf 2, payload⟩, socket)

/-- The header has come, of whatever version. -/
theorem receiveResponse_header (payloadAllocated responseAllocated : Bool)
    (four : framePrefixBuf.length = 4) (ten : headerBuf.length = 10) :
    receiveResponse payloadAllocated responseAllocated
        (putBack (framePrefixBuf ++ (headerBuf ++ bytes)) tail) =
      if headerBuf.getD 0 0 ≠ eopProtocolVersion then
        (.error ⟨.errDisconnected, "Unsupported protocol version in response"⟩, putBack bytes tail)
      else if (wordAt headerBuf 6).toNat > 0 then
        if payloadAllocated then payloadPhase responseAllocated headerBuf (putBack bytes tail)
        else
          (.error ⟨.errAlloc, "Failed to allocate response payload buffer"⟩, putBack bytes tail)
      else (finishResponse responseAllocated
        ⟨(headerBuf.getD 1 0).toUInt32, wordAt headerBuf 2, []⟩, putBack bytes tail) := by
  simp only [receiveResponse, recvPhase_first prefixTexts four, recvPhase_first headerTexts ten]
  rfl

end Receptions

/-! #### Each section, step by step -/

section Carries

variable {inetPton : Bytes → Option UInt32}

/-- What a step of a section has to come to. -/
def Carries (inetPton : Bytes → Option UInt32) (call : Call) (start next : Client)
    (locals : Locals) (outcome : Outcome) : Locals ⊕ Answer → Prop
  | .inl locals' => Progress inetPton call start next locals'
  | .inr answer => operate inetPton start (labels.ends call locals outcome) = some (answer, next)

variable {call : Call} {start shared next : Client} {locals : Locals} {outcome : Outcome}
  {result : Locals ⊕ Answer} {ending : Ending}

/-- The result is stored, and what is left is given back. -/
theorem leaves_carries (rest : List Cleanup)
    (done : operate inetPton start (call.operation ending.inputs) =
      some (.returned ending.result, shared))
    (labelled : labels.ends call locals outcome = call.operation ending.inputs) :
    Carries inetPton call start shared locals outcome (ending.leaves rest) := by
  cases rest with
  | nil =>
      show operate inetPton start (labels.ends call locals outcome) = _
      rw [labelled, done]
  | cons first rest => exact .cleaning done

/-- The code is there, and the text follows. -/
theorem store_text {result : Except ClientError (Option Response)}
    (code : shared.lastError.code = (stored result).code) :
    store shared result = { shared with
      lastError := { shared.lastError with message := (stored result).message } } := by
  show { shared with lastError := stored result } =
    { shared with lastError := ⟨shared.lastError.code, (stored result).message⟩ }
  rw [code]

/-- **The end of a section.** -/
theorem end_carries (progress : Progress inetPton call start shared locals)
    (taken : endAccess shared locals outcome = some (next, result)) :
    Carries inetPton call start next locals outcome result := by
  cases outcome with
  | nothing =>
      cases progress with
      | storingCode done =>
          cases taken
          exact .storingText done rfl
      | @storingText _ _ _ ending done code =>
          cases taken
          rw [store_text code] at done
          exact leaves_carries ending.cleanup done (by cases call <;> rfl)
      | @cleaning _ _ _ ending rest done =>
          cases rest with
          | nil => cases taken
          | cons first rest =>
              cases taken
              exact leaves_carries rest done (by cases call <;> rfl)
      | _ => cases taken
  | _ => simp [endAccess] at taken

/-- The test of the send loop. -/
theorem sendLoop_carries {command : Command} {sendBuf : Block} {buffer : Bytes} {totalSent : Nat}
    (proper : (Call.sendCommand command).early = none)
    (framed : sendBuffer command start.nextMsgId = some (.ok buffer))
    (connected : buffer.length ≤ totalSent → start.socketFd.isSome = true) :
    Progress inetPton (.sendCommand command) start (counted start)
      (sendLoop sendBuf buffer totalSent) := by
  unfold sendLoop
  split
  · exact .sending proper framed (by assumption)
  · exact .sentAll ⟨proper, connected (Nat.le_of_not_lt (by assumption)), buffer, framed⟩

theorem headerRead_carries {command : Command} {framePrefixBuf headerBuf : Bytes}
    (sent : Sent start command) (four : framePrefixBuf.length = 4) (ten : headerBuf.length = 10) :
    Progress inetPton (.sendCommand command) start (counted start)
      (headerRead framePrefixBuf headerBuf) := by
  have header (payloadAllocated responseAllocated : Bool) :=
    @receiveResponse_header framePrefixBuf headerBuf [] [] payloadAllocated responseAllocated
      four ten
  rw [List.append_nil] at header
  unfold headerRead
  split
  next version =>
    have received := header true true
    rw [if_pos version] at received
    exact .storingCode (operate_received sent received)
  next version =>
    split
    next more => exact .allocatingPayload sent four ten (not_not.mp version) more
    next empty =>
      refine .creating sent fun allocated => ?_
      rw [header, if_neg version, if_neg empty]
      rfl

/-- **A `recv` that gave some bytes.** -/
theorem take_carries {command : Command} {reception : Reception} {bytes : Bytes}
    (sent : Sent start command) (unfinished : reception.Open)
    (fits : bytes.length ≤ reception.loop.wanted) :
    Progress inetPton (.sendCommand command) start (counted start)
      (reception.take bytes) := by
  cases reception with
  | framePrefix buf =>
      have short : buf.length < 4 := unfinished
      have fits : bytes.length ≤ 4 - buf.length := fits
      rw [Reception.take]
      split
      · exact .receiving sent (by assumption)
      · refine .receiving sent ⟨?_, Nat.succ_pos 9⟩
        rw [List.length_append] at *
        omega
  | header framePrefixBuf buf =>
      obtain ⟨four, short⟩ := unfinished
      have fits : bytes.length ≤ 10 - buf.length := fits
      rw [Reception.take]
      split
      · exact .receiving sent ⟨four, by assumption⟩
      · refine headerRead_carries sent four ?_
        rw [List.length_append] at *
        omega
  | payload framePrefixBuf headerBuf respPayload filled =>
      obtain ⟨four, ten, version, short⟩ := unfinished
      have fits : bytes.length ≤ (wordAt headerBuf 6).toNat - filled.length := fits
      rw [Reception.take]
      split
      · exact .receiving sent ⟨four, ten, version, by assumption⟩
      · refine .creating sent fun allocated => ?_
        have all : (filled ++ bytes).length = (wordAt headerBuf 6).toNat := by
          rw [List.length_append] at *
          omega
        have read := @recvPhase_first [] [] payloadTexts _ _ all
        rw [List.append_nil] at read
        rw [receiveResponse_header true allocated four ten, if_neg (not_not.mpr version),
          if_pos (Nat.zero_lt_of_lt short), if_pos rfl, payloadPhase, read]
        rfl

theorem sendCommand_carries {command : Command}
    (progress : Progress inetPton (.sendCommand command) start shared locals)
    (taken : sendCommandAccess shared command locals outcome = some (next, result)) :
    Carries inetPton (.sendCommand command) start next locals outcome result := by
  cases progress with
  | assigning proper =>
      cases outcome with
      | nothing =>
          cases taken
          exact .allocating proper
      | _ => cases taken
  | allocating proper =>
      cases outcome with
      | malloc block =>
          cases block with
          | none =>
              cases taken
              exact .storingCode (operate_allocFailed proper)
          | some sendBuf =>
              simp only [sendCommandAccess] at taken
              split at taken
              · cases taken
              next code refused =>
                cases taken
                exact .storingCode (operate_unserialized proper refused)
              next buffer framed =>
                cases taken
                refine sendLoop_carries proper framed fun empty => ?_
                obtain ⟨lenBuf, header, rest, four, -, -, -, rfl⟩ := sendBuffer_some framed
                rw [List.length_append, four] at empty
                omega
      | _ => cases taken
  | @sending _ _ sendBuf buffer totalSent proper framed short =>
      cases outcome with
      | sent count =>
          cases count with
          | none =>
              cases taken
              exact .storingCode (operate_sendFailed proper framed short)
          | some count =>
              simp only [sendCommandAccess] at taken
              split at taken
              next possible =>
                cases taken
                exact sendLoop_carries proper framed fun _ => possible.1
              next => cases taken
      | _ => cases taken
  | sentAll sent =>
      cases outcome with
      | nothing =>
          cases taken
          exact .receiving sent (Nat.succ_pos 3)
      | _ => cases taken
  | @receiving _ _ reception sent unfinished =>
      cases outcome with
      | missed event =>
          obtain ⟨failure, ends, left⟩ := Option.bind_eq_some_iff.mp taken
          cases left
          have received := receiveResponse_fails unfinished true fun short =>
            readExact_putBack_event _ short ends []
          exact .storingCode (operate_received sent received)
      | received bytes =>
          cases bytes with
          | nil =>
              cases taken
              have received := receiveResponse_fails unfinished true fun short =>
                readExact_putBack_end (phaseFailure reception.loop.texts) _ short
              exact .storingCode (operate_received sent received)
          | cons first more =>
              simp only [sendCommandAccess] at taken
              split at taken
              next fits =>
                cases taken
                exact take_carries sent unfinished fits
              next => cases taken
      | _ => cases taken
  | @allocatingPayload _ _ framePrefixBuf headerBuf sent four ten version more =>
      cases outcome with
      | malloc block =>
          cases block with
          | none =>
              cases taken
              have received := @receiveResponse_header framePrefixBuf headerBuf [] [] false true
                four ten
              rw [List.append_nil, if_neg (not_not.mpr version), if_pos more,
                if_neg Bool.false_ne_true] at received
              exact .storingCode (operate_received sent received)
          | some respPayload =>
              cases taken
              exact .receiving sent ⟨four, ten, version, more⟩
      | _ => cases taken
  | creating sent received =>
      cases outcome with
      | malloc block =>
          cases block with
          | none =>
              cases taken
              exact .storingCode (operate_received sent (received false))
          | some block =>
              cases taken
              exact .storingCode (operate_received sent (received true))
      | _ => cases taken
  | storingCode done => exact end_carries (.storingCode done) taken
  | storingText done code => exact end_carries (.storingText done code) taken
  | cleaning done => exact end_carries (.cleaning done) taken

theorem dial_carries {timeoutMs effectiveTimeout : Int} {newFd : Descriptor} {ip : UInt32}
    {point : DialPoint} (known : inetPton start.host = some ip) (passed : point.Passed)
    (taken : dialAccess (hungUp start) newFd ip effectiveTimeout point outcome =
      some (next, result)) :
    Carries inetPton (.reconnect timeoutMs) start next
      (.dialling newFd ip effectiveTimeout point) outcome result := by
  cases point with
  | unblocking =>
      cases outcome with
      | nothing =>
          cases taken
          exact .dialling known trivial
      | _ => cases taken
  | connecting =>
      cases outcome with
      | connect connectResult =>
          simp only [dialAccess] at taken
          split at taken
          next failed =>
            cases taken
            exact .storingCode (operate_dialFailed known (.inl ⟨rfl, rfl⟩))
          next passed =>
            cases taken
            exact .dialling known passed
      | _ => cases taken
  | polling connectResult =>
      cases outcome with
      | poll pollResult =>
          simp only [dialAccess] at taken
          split at taken
          next zero =>
            cases taken
            exact .storingCode (operate_dialFailed known (.inr (.inl ⟨passed, zero, rfl⟩)))
          next some_ =>
            split at taken
            next negative =>
              cases taken
              exact .storingCode
                (operate_dialFailed known (.inr (.inr (.inl ⟨passed, negative, rfl⟩))))
            next positive =>
              cases taken
              exact .dialling known ⟨passed, by omega⟩
      | _ => cases taken
  | asking connectResult pollResult =>
      cases outcome with
      | soError error =>
          simp only [dialAccess] at taken
          split at taken
          next refused =>
            cases taken
            exact .storingCode (operate_dialFailed known
              (.inr (.inr (.inr ⟨passed.1, passed.2, refused, rfl⟩))))
          next accepted =>
            cases taken
            exact .dialling known passed
      | _ => cases taken
  | readingFlags connectResult pollResult | blocking connectResult pollResult =>
      cases outcome with
      | nothing =>
          cases taken
          exact .dialling known passed
      | _ => cases taken
  | replacing connectResult pollResult =>
      cases outcome with
      | nothing =>
          cases taken
          exact .storingCode (operate_reconnected known passed.1 passed.2)
      | _ => cases taken

theorem reconnect_carries {timeoutMs : Int}
    (progress : Progress inetPton (.reconnect timeoutMs) start shared locals)
    (taken : reconnectAccess shared inetPton timeoutMs locals outcome = some (next, result)) :
    Carries inetPton (.reconnect timeoutMs) start next locals outcome result := by
  cases progress with
  | hangingUp =>
      cases outcome with
      | nothing =>
          cases taken
          exact .closing
      | _ => cases taken
  | closing =>
      cases outcome with
      | nothing =>
          cases taken
          exact .forgetting
      | _ => cases taken
  | forgetting =>
      cases outcome with
      | nothing =>
          cases taken
          exact .resolving
      | _ => cases taken
  | resolving =>
      cases outcome with
      | nothing =>
          simp only [reconnectAccess] at taken
          split at taken
          next unknown =>
            cases taken
            have unknown : inetPton start.host = none := unknown
            exact .storingCode (operate_unresolved unknown ..)
          next ip known =>
            cases taken
            exact .opening known
      | _ => cases taken
  | opening known =>
      cases outcome with
      | socket newFd =>
          cases newFd with
          | none =>
              cases taken
              exact .storingCode (operate_noSocket known timeoutMs)
          | some newFd =>
              cases taken
              exact .dialling known trivial
      | _ => cases taken
  | dialling known passed => exact dial_carries known passed taken
  | storingCode done => exact end_carries (.storingCode done) taken
  | storingText done code => exact end_carries (.storingText done code) taken
  | cleaning done => exact end_carries (.cleaning done) taken

theorem lastError_carries {buffer : Option Nat}
    (progress : Progress inetPton (.lastError buffer) start shared locals)
    (taken : lastErrorAccess shared buffer locals outcome = some (next, result)) :
    Carries inetPton (.lastError buffer) start next locals outcome result := by
  cases progress with
  | readingCode =>
      cases outcome with
      | nothing =>
          simp only [lastErrorAccess] at taken
          split at taken
          next size =>
            cases taken
            exact .readingText
          next small =>
            cases taken
            cases buffer with
            | none => rfl
            | some size =>
                cases size with
                | zero => rfl
                | succ size => exact absurd rfl (small size)
      | _ => cases taken
  | readingText =>
      cases outcome with
      | nothing =>
          cases taken
          rfl
      | _ => cases taken
  | storingCode _ | storingText _ _ | cleaning _ => cases taken

/-- **A step of a section** brings it forward, or ends it with the result of the whole call. -/
theorem access_carries (progress : Progress inetPton call start shared locals)
    (taken : access shared inetPton call locals outcome = some (next, result)) :
    Carries inetPton call start next locals outcome result := by
  cases call with
  | sendCommand command => exact sendCommand_carries progress taken
  | reconnect timeoutMs => exact reconnect_carries progress taken
  | lastError buffer => exact lastError_carries progress taken

end Carries

theorem early_operate {inetPton : Bytes → Option UInt32} {call : Call} {answer : Answer}
    (early : call.early = some answer) (client : Client) :
    operate inetPton client (labels.early call) = some (answer, client) := by
  cases call with
  | sendCommand command =>
      obtain ⟨null, same⟩ := Option.ite_none_right_eq_some.mp early
      cases same
      simp only [labels, Call.operation, operate, called, alone, HandleState.sendCommand,
        if_pos null]
      rfl
  | _ => cases early

/-- **Every section is atomic.** -/
theorem sections_atomic (inetPton : Bytes → Option UInt32) :
    (sections inetPton).Atomic labels (operate inetPton) (Progress inetPton) where
  early early client := early_operate early client
  enters {call} early client := by
    cases call with
    | sendCommand command => exact .assigning early
    | reconnect timeoutMs => exact .hangingUp
    | lastError buffer => exact .readingCode
  reads mode _ := by cases mode
  goesOn progress taken := access_carries progress taken
  ends progress taken := access_carries progress taken

/-! ### The threads -/

section Threads

variable {τ : Type} [DecidableEq τ] [Fintype τ] {inetPton : Bytes → Option UInt32}

variable {initial : Client} {state : ClientThreads τ} {trace : List (ClientTurn τ)}

/-- A HEARTBEAT that is not answered, with a reconnect that waits for the mutex while it is sent and
received. -/
def reconnectWaits : List (SectionEvent Bool Call Outcome) :=
  [.call true (.sendCommand ⟨6, none, 0⟩), .lock true, .access true .nothing,
    .access true (.malloc (some ⟨4096, 0⟩)), .access true (.sent (some 10)),
    .call false (.reconnect 0), .access true (.sent (some 4)), .access true .nothing,
    .access true (.missed .pollTimeout), .access true .nothing, .access true .nothing,
    .unlock true, .lock false, .access false .nothing, .access false .nothing,
    .access false .nothing, .access false .nothing, .access false (.socket (some ⟨5, 1⟩)),
    .access false .nothing, .access false (.connect .inProgress), .access false (.poll 1),
    .access false (.soError (some 111)), .access false .nothing, .access false .nothing,
    .access false .nothing, .unlock false]

/-- A handle after `eop_connect`. -/
def connectedClient : Client := ⟨some ⟨5, 0⟩, .clear, 5000, 0, text "127.0.0.1", 8080⟩

/-- What an operation stores in the handle: a command with a null payload stores nothing there. -/
def storedBy : Operation × Answer → Option LastError
  | (.send attempt _, .returned result) =>
      if attempt.command.payload = none ∧ attempt.command.payloadLen > 0 then none
      else some (stored result)
  | (.reconnect _ _ _, .returned result) => some (stored result)
  | _ => none

/-- **One operation** leaves in the handle what it stores, or what was there. -/
theorem operate_lastError {client next : Client} {operation : Operation} {answer : Answer}
    (done : operate inetPton client operation = some (answer, next)) :
    next.lastError = (storedBy (operation, answer)).getD client.lastError := by
  cases operation with
  | send attempt socket =>
      obtain ⟨command, outcome, payloadAllocated, responseAllocated⟩ := attempt
      by_cases null : command.payload = none ∧ command.payloadLen > 0
      · simp only [operate, called, alone, HandleState.sendCommand, if_pos null] at done
        cases done
        simp only [storedBy, if_pos null]
        rfl
      · rw [operate_send (early_eq_none.mpr null)] at done
        obtain ⟨⟨result, nextMsgId, left⟩, -, same⟩ := Option.map_eq_some_iff.mp done
        cases same
        simp only [storedBy, if_neg null]
        rfl
  | reconnect timeoutMs outcome opened =>
      cases address : inetPton client.host with
      | none =>
          rw [operate_unresolved address] at done
          cases done
          rfl
      | some ip =>
          simp only [operate, called, HandleState.reconnect, alone, address] at done
          obtain ⟨⟨returned, after⟩, dialled, kept⟩ := Option.bind_eq_some_iff.mp done
          obtain ⟨⟨result, calls, descriptors⟩, -, ends⟩ := Option.bind_eq_some_iff.mp dialled
          cases result with
          | error failure =>
              cases ends
              cases kept
              rfl
          | ok newFd =>
              cases ends
              cases kept
              rfl
  | lastError buffer =>
      cases done
      rfl

/-- What the operations of a run left in the handle. -/
theorem lastError_of_run {operations : List (Transition Client Operation Answer)} {client : Client}
    (run : Run (operate inetPton) initial operations client) :
    client.lastError = (latest storedBy (operations.map fun done => (done.event, done.output))).getD
      initial.lastError := by
  induction run with
  | nil => rfl
  | @snoc operations client next operation answer _ done ih =>
      rw [operate_lastError done, ih, List.map_append, List.map_singleton, latest_concat]
      cases storedBy (operation, answer) <;> rfl

/-- **The code and the text belong together.** Whatever the interleaving, `eop_last_error` returns
the code and the text of one call: of the command or the reconnect that was the last to end before
it, leaving out commands refused for a null payload; and what the handle had at first, if there was
none. -/
theorem last_error_whole {earlier later : List (ClientTurn τ)} {turn : ClientTurn τ} {thread : τ}
    {buffer : Option Nat} {answer : Answer}
    (run : Run (sections inetPton).step (.start τ Call Locals Answer initial)
      (earlier ++ turn :: later) state)
    (commit : (sections inetPton).commit labels turn = some (thread, .lastError buffer, answer)) :
    ∃ last, last = (latest storedBy ((earlier.filterMap ((sections inetPton).commit labels)).map
        Prod.snd)).getD initial.lastError ∧
      answer = .reported last.code
        (buffer.bind fun size => if size > 0 then some (strncpy last.message size) else none) := by
  obtain ⟨before, taken, -⟩ := run.cut
  obtain ⟨operations, client, ran, beside, same⟩ :=
    Sections.linearizable (sections_atomic inetPton) before
  rcases beside.step (sections_atomic inetPton) (Sections.disciplined before) taken with
    ⟨silent, -⟩ | ⟨_, _, _, next, made, done, -⟩
  · rw [silent] at commit
    cases commit
  · rw [made] at commit
    cases commit
    refine ⟨client.lastError, ?_, ?_⟩
    · rw [lastError_of_run ran, same]
    · cases done
      rfl

/-- Then the thread whose command timed out asks for the error, and has read the code. -/
def thenAsks : List (SectionEvent Bool Call Outcome) :=
  reconnectWaits ++ [.call true (.lastError (some 12)), .lock true, .access true .nothing]

theorem last_error_whole_thenAsks :
    ∃ state next, ∃ last : LastError, Run (sections loopback).step
        (.start Bool Call Locals Answer connectedClient)
        (execTrace (sections loopback).step (.start Bool Call Locals Answer connectedClient)
          thenAsks ++ [⟨state, .access true .nothing, none, next⟩]) next ∧
      (sections loopback).commit labels ⟨state, .access true .nothing, none, next⟩ =
        some (true, .lastError (some 12),
          .reported last.code (some (strncpy last.message 12))) ∧
      last = .ofFailure ⟨.errConnectFailed, reconnectTexts.soError⟩ := by
  let start := SectionState.start Bool Call Locals Answer connectedClient
  let state := execFinal (sections loopback).step start thenAsks
  let next := execFinal (sections loopback).step start (thenAsks ++ [.access true .nothing])
  have taken : (sections loopback).step state (.access true .nothing) = some (none, next) := by rfl
  have possible : (exec (sections loopback).step start thenAsks).isSome = true := by
    decide +kernel
  have run : Run (sections loopback).step start
      (execTrace (sections loopback).step start thenAsks ++
        [⟨state, .access true .nothing, none, next⟩]) next :=
    .snoc (run_of_possible possible) taken
  have commit : (sections loopback).commit labels ⟨state, .access true .nothing, none, next⟩ =
      some (true, .lastError (some 12), _) := rfl
  obtain ⟨last, same, answered⟩ := last_error_whole run commit
  refine ⟨state, next, last, run, commit.trans (by rw [answered]; rfl), same.trans ?_⟩
  rfl

end Threads

end ExodusOps.EopClient.Guarded
