/-
**Whose answer is it?**

A call of `eop_send_command` returns the next frame on the connection and does not look at its id.
That frame is the answer to the command exactly when nothing else was owed to the client:
`response_answers_iff`. The server sends a welcome nobody asks for, does not answer HEARTBEATs, and
may answer after a call has given up, so each of these shifts all later responses by one.
`welcome_returned`: the first call on a connection returns the welcome.
-/

import ExodusOps.Client.Conversation
import ExodusOps.Lib.JsonFlat

namespace ExodusOps

open EopClient MessageSerializer

variable {codec : JsonCodec} {config : ServerConfig}

/-- One step taken by the handle or the server. -/
abbrev Turn := Transition Conversation Happening (Option (Except ClientError Response))

/-! ### The call that is waiting -/

/-- A step that sent a whole command, as the state before it and the command. -/
def callBegun (turn : Turn) : Option (Conversation × Command) :=
  match turn.event with
  | .command command .whole =>
      if turn.after.calling.isSome then some (turn.before, command) else none
  | _ => none

/-- What is known of a waiting call. -/
structure Waiting (trace : List Turn) (call : Call) (exchange : Exchange) (before : Conversation)
    (command : Command) (start : Exchange) (buffer : Bytes) : Prop where
  begun : latest callBegun trace = some (before, command)
  connected : before.exchange = some start
  consistent : Consistent before.world start
  framed : sendBuffer command before.nextMsgId = some (.ok buffer)
  call_eq : call = ⟨before.nextMsgId, start.sent.length⟩
  progress : Progress start buffer exchange

theorem Waiting.later {trace : List Turn} {call : Call} {exchange after : Exchange}
    {before : Conversation} {command : Command} {start : Exchange} {buffer : Bytes}
    (waiting : Waiting trace call exchange before command start buffer) {turn : Turn}
    (other : callBegun turn = none) (progress : Progress start buffer after) :
    Waiting (trace ++ [turn]) call after before command start buffer :=
  { waiting with begun := by rw [latest_concat, other]; exact waiting.begun, progress := progress }

/-- The command of the call comes behind all that the server had not served. -/
theorem Waiting.offset_eq {trace : List Turn} {call : Call} {exchange : Exchange}
    {before : Conversation} {command : Command} {start : Exchange} {buffer : Bytes}
    (waiting : Waiting trace call exchange before command start buffer) :
    start.served + start.unserved.length = call.offset := by
  have bound := waiting.consistent.served_le
  rw [waiting.call_eq, Exchange.unserved, List.length_drop]
  exact Nat.add_sub_cancel' bound

/-- **A call that waits** has sent its command, and only the server has moved since. -/
theorem waiting_of_run {first state : Conversation} {trace : List Turn}
    (initial : ∀ exchange ∈ first.exchange, Consistent first.world exchange)
    (idle : first.calling = none) (run : Run (converse codec config) first trace state)
    {call : Call} (calling : state.calling = some call) :
    ∃ exchange before command start buffer, state.exchange = some exchange ∧
      Waiting trace call exchange before command start buffer := by
  induction run with
  | nil => cases idle.symm.trans calling
  | @snoc trace state next happening output previous taken ih =>
      have consistent := consistent_of_run initial previous
      cases happening with
      | connected | disconnected =>
          obtain ⟨_, idle, same⟩ := Option.bind_eq_some_iff.mp taken
          rw [Option.guard_eq_some'] at idle
          cases same
          rw [Option.isNone_iff_eq_none.mp idle] at calling
          cases calling
      | command command outcome =>
          obtain ⟨idle, sent⟩ := converse_command taken
          obtain ⟨_, ⟨same, _⟩ | ⟨rfl, start, buffer, found, framed, grown, call_eq⟩⟩ :=
            Conversation.send_cases sent
          · rw [same, idle] at calling
            cases calling
          · rw [call_eq] at calling
            refine ⟨_, state, command, start, buffer, grown, ?_, found, consistent start found,
              framed, (Option.some.inj calling).symm, ⟨rfl, rfl, fun _ => ⟨[], [], ?_⟩⟩⟩
            · rw [latest_concat, callBegun]
              simp [call_eq]
            · exact ⟨(List.append_nil _).symm, rfl, List.nil_prefix, .nil _⟩
      | receive payloadAllocated responseAllocated socket =>
          obtain ⟨_, _, _, _, _, _, _, _, _, rfl⟩ := converse_receive taken
          cases calling
      | accepted now =>
          obtain ⟨exchange, world, found, unlinked, _, rfl⟩ := converse_accepted taken
          obtain ⟨_, before, command, start, buffer, same, waiting⟩ := ih calling
          cases found.symm.trans same
          refine ⟨_, before, command, start, buffer, rfl, waiting.later rfl ?_⟩
          exact ⟨waiting.progress.sent, waiting.progress.taken, waiting.progress.answers⟩
      | server event socket =>
          obtain ⟨_, world, stepped, ⟨none, rfl⟩ | ⟨exchange, after, found, followed, rfl⟩⟩ :=
            converse_server taken
          · obtain ⟨_, _, _, _, _, same, _⟩ := ih calling
            cases none.symm.trans same
          · obtain ⟨_, before, command, start, buffer, same, waiting⟩ := ih calling
            cases found.symm.trans same
            exact ⟨after, before, command, start, buffer, rfl, waiting.later rfl
              (waiting.progress.server (consistent exchange found) stepped followed)⟩

/-! ### The response -/

/-- Nothing is owed to the client: the welcome has come, all that was written is read, and the
server has nothing left to answer. -/
def Settled (state : Conversation) : Prop :=
  ∃ exchange, state.exchange = some exchange ∧ exchange.written ≠ [] ∧
    exchange.taken = (streamOf exchange.written).length ∧ OnlyHeartbeats exchange.unserved

/-- The call has read what the server wrote in answer to its command, from the first byte to the
last, and returns the id that was sent. -/
def ReadsAnswer (state next : Conversation) (response : Response) (answer : Written) : Prop :=
  ∃ call exchange after before later, state.calling = some call ∧
    state.exchange = some exchange ∧ next.exchange = some after ∧
    exchange.written = before ++ answer :: later ∧ answer.request = some call.offset ∧
    exchange.taken = (streamOf before).length ∧
    after.taken = exchange.taken + answer.bytes.length ∧ response.msgId = call.msgId

/-- The response is the server's answer to the command of the call: that is what the call has read,
and the response has its type, its id and its payload. -/
def AnswersCall (state next : Conversation) (response : Response) : Prop :=
  ∃ answer frame, ReadsAnswer state next response answer ∧ answer.bytes = wireFrame frame ∧
    response = responseOf frame

/-- What the server reads at the first byte of a command. -/
theorem frame_of_command {command : Command} {msgId : UInt32} {buffer bytes rest : Bytes}
    {frame : Frame} (framed : sendBuffer command msgId = some (.ok buffer))
    (isFrame : IsFrame bytes frame) (starts : buffer = bytes ++ rest) :
    frame.messageType = command.msgType.toUInt8 ∧ frame.messageId = msgId := by
  obtain ⟨lenBuf, header, behind, four, ten, type, id, rfl⟩ := sendBuffer_some framed
  obtain ⟨lenBuf', envelope, four', ten', _, _, frameType, frameId, rfl⟩ := isFrame
  simp only [List.append_assoc] at starts
  obtain ⟨rfl, behindLength⟩ := List.append_inj starts (four.trans four'.symm)
  obtain ⟨rfl, _⟩ := List.append_inj behindLength (ten.trans ten'.symm)
  exact ⟨frameType.trans type, frameId.trans id⟩

theorem eq_nil_of_streamOf {written : List Written}
    (nonempty : ∀ one ∈ written, one.bytes ≠ []) (none : (streamOf written).length = 0) :
    written = [] := by
  cases written with
  | nil => rfl
  | cons first rest =>
      rw [streamOf, List.flatMap_cons, List.length_append] at none
      exact absurd (List.length_eq_zero_iff.mp (by omega)) (nonempty first List.mem_cons_self)

/-- **The first answer since the call began** is to the first pending request. -/
theorem Waiting.first_answer {trace : List Turn} {call : Call} {exchange : Exchange}
    {before : Conversation} {command : Command} {start : Exchange} {buffer : Bytes}
    (waiting : Waiting trace call exchange before command start buffer) {bytes : Bytes}
    {first : Written} {later : List Written}
    (read : bytes <+: (start.sent ++ buffer).drop start.served)
    (answered : Answered start.served bytes (first :: later)) :
    ∃ (heartbeats request rest : Bytes) (frame answer : Frame),
      start.unserved ++ buffer = heartbeats ++ (request ++ rest) ∧ OnlyHeartbeats heartbeats ∧
      IsFrame request frame ∧ frame.messageType ≠ .heartbeat ∧
      first = ⟨some (start.served + heartbeats.length), wireFrame answer⟩ ∧
      answer.messageId = frame.messageId ∧ answer.payload.length < 2 ^ 32 := by
  obtain ⟨heartbeats, request, rest, frame, answer, rfl, found⟩ := answered.first_answer
  obtain ⟨unread, pending⟩ := read
  rw [List.drop_append_of_le_length waiting.consistent.served_le] at pending
  refine ⟨heartbeats, request, rest ++ unread, frame, answer, ?_, found⟩
  rw [Exchange.unserved, ← pending]
  simp only [List.append_assoc]

/-- **An answer to the call comes first**: everything before it had been read when it began. -/
theorem Waiting.settled_of_answers {trace : List Turn} {call : Call} {exchange : Exchange}
    {before : Conversation} {command : Command} {start : Exchange} {buffer : Bytes}
    (waiting : Waiting trace call exchange before command start buffer) {world : World}
    (consistent : Consistent world exchange) {front later : List Written} {answer : Written}
    (written : exchange.written = front ++ answer :: later)
    (request : answer.request = some call.offset)
    (position : exchange.taken = (streamOf front).length) :
    Settled before ∧ command.msgType.toUInt8 ≠ MessageType.heartbeat := by
  have offset : call.offset = start.sent.length := by rw [waiting.call_eq]
  have bound := waiting.consistent.taken_le
  rw [← waiting.progress.taken, position] at bound
  have welcomed : start.written ≠ [] := by
    intro nothing
    have none : front = [] := by
      refine eq_nil_of_streamOf (fun one member => consistent.nonempty one ?_) ?_
      · rw [written]
        exact List.mem_append_left _ member
      · rw [nothing] at bound
        exact Nat.le_zero.mp bound
    have welcome := consistent.welcome_first answer (by rw [written, none]; rfl)
    cases welcome.symm.trans request
  obtain ⟨bytes, more, grown, _, read, answered⟩ := waiting.progress.answers welcomed
  have first : front = start.written ∧ more = answer :: later := by
    rcases List.append_eq_append_iff.mp (grown.symm.trans written) with
      ⟨between, rfl, rest⟩ | ⟨between, split, rest⟩
    · have none : between = [] := by
        refine eq_nil_of_streamOf (fun one member => consistent.nonempty one ?_) ?_
        · rw [written]
          simp [member]
        · rw [streamOf_append, List.length_append] at bound
          omega
      rw [none] at rest ⊢
      exact ⟨List.append_nil _, rest⟩
    · cases between with
      | nil => exact ⟨by rw [split, List.append_nil], rest.symm⟩
      | cons one others =>
          -- a request the server had read before the command was sent
          cases (List.cons.inj rest).1
          have early := waiting.consistent.requests answer (by rw [split]; simp) _ request
          have late := waiting.consistent.served_le
          omega
  obtain ⟨rfl, rfl⟩ := first
  obtain ⟨heartbeats, asked, rest, frame, reply, pending, only, isRequest, type, same, _⟩ :=
    waiting.first_answer read answered
  rw [same, offset] at request
  have length : start.unserved.length = heartbeats.length := by
    rw [Exchange.unserved, List.length_drop]
    have := Option.some.inj request
    omega
  obtain ⟨rfl, buffer_eq⟩ := List.append_inj pending length
  refine ⟨⟨start, waiting.connected, welcomed, ?_, only⟩, ?_⟩
  · rw [← waiting.progress.taken, position]
  · rw [← (frame_of_command waiting.framed isRequest buffer_eq).1]
    exact type

/-- **If nothing is owed, the next frame is the answer.** -/
theorem Waiting.answers_of_settled {trace : List Turn} {call : Call} {exchange : Exchange}
    {before : Conversation} {command : Command} {start : Exchange} {buffer : Bytes}
    (waiting : Waiting trace call exchange before command start buffer)
    (welcomed : start.written ≠ [])
    (caught : start.taken = (streamOf start.written).length)
    (only : OnlyHeartbeats start.unserved)
    (type : command.msgType.toUInt8 ≠ MessageType.heartbeat)
    {payloadAllocated responseAllocated : Bool} {socket left : List (Chunk RecvEvent)}
    {response : Response} (starts : streamBytes socket <+: exchange.unread)
    (received : receiveResponse payloadAllocated responseAllocated socket = (.ok response, left)) :
    ∃ answer later reply, exchange.written = start.written ++ answer :: later ∧
      answer.request = some call.offset ∧
      (streamBytes socket).length - (streamBytes left).length = answer.bytes.length ∧
      response.msgId = call.msgId ∧ answer.bytes = wireFrame reply ∧
      response = responseOf reply := by
  obtain ⟨bytes, more, grown, _, read, answered⟩ := waiting.progress.answers welcomed
  rw [Exchange.unread, grown, waiting.progress.taken, caught, streamOf_append,
    List.drop_left] at starts
  cases more with
  | nil => exact absurd (List.prefix_nil.mp starts) (receiveResponse_nonempty received)
  | cons answer later =>
      obtain ⟨heartbeats, asked, rest, frame, reply, pending, others, isRequest, other, rfl, id,
        short⟩ := waiting.first_answer read answered
      obtain rfl := only.unique others isRequest other
        (fun _ _ _ isFrame behind => by
          rw [(frame_of_command waiting.framed isFrame behind).1]
          exact type) pending
      have sent := frame_of_command waiting.framed isRequest (List.append_cancel_left pending)
      obtain ⟨rfl, consumed⟩ := receiveResponse_of_starts received reply short starts
      refine ⟨_, later, reply, grown, ?_, ?_, ?_, rfl, rfl⟩
      · exact congrArg some waiting.offset_eq
      · rw [consumed, List.length_append, Nat.add_sub_cancel]
      · rw [waiting.call_eq]
        exact id.trans sent.2

/-- **Whose answer is it?** In every run of the handle and the server: a response returned by
`eop_send_command` is the server's answer to the command of that call exactly when the command is
not a HEARTBEAT and nothing was owed to the client when it was sent. A call that reads the answer
returns it. -/
theorem response_answers_iff {registry : NodeRegistry} {trace : List Turn} {state : Conversation}
    (run : Run (converse codec config) (.start registry) trace state)
    {payloadAllocated responseAllocated : Bool} {socket : List (Chunk RecvEvent)}
    {response : Response} {next : Conversation}
    (returned : converse codec config state (.receive payloadAllocated responseAllocated socket) =
      some (some (.ok response), next)) :
    ∃ before command, latest callBegun trace = some (before, command) ∧
      (AnswersCall state next response ↔
        Settled before ∧ command.msgType.toUInt8 ≠ MessageType.heartbeat) ∧
      ∀ answer, ReadsAnswer state next response answer → AnswersCall state next response := by
  obtain ⟨call, exchange, _, left, calling, found, starts, received, same, finished⟩ :=
    converse_receive returned
  cases same
  obtain ⟨_, before, command, start, buffer, here, waiting⟩ :=
    waiting_of_run (fun _ none => by cases none) rfl run calling
  cases found.symm.trans here
  have settled {answer : Written} (reads : ReadsAnswer state next response answer) :
      Settled before ∧ command.msgType.toUInt8 ≠ MessageType.heartbeat := by
    obtain ⟨_, _, _, front, later, called, linked, _, written, request, position, _⟩ := reads
    cases calling.symm.trans called
    cases found.symm.trans linked
    have consistent := consistent_of_run (fun _ none => by cases none) run exchange found
    exact waiting.settled_of_answers consistent written request position
  have answers (nothing : Settled before ∧ command.msgType.toUInt8 ≠ MessageType.heartbeat) :
      AnswersCall state next response := by
    obtain ⟨⟨_, connected, welcomed, caught, only⟩, type⟩ := nothing
    cases waiting.connected.symm.trans connected
    obtain ⟨answer, later, reply, written, request, consumed, id, bytes, content⟩ :=
      waiting.answers_of_settled welcomed caught only type starts received
    rw [finished]
    exact ⟨answer, reply, ⟨call, exchange, _, start.written, later, calling, found, rfl, written,
      request, waiting.progress.taken.trans caught, by rw [consumed], id⟩, bytes, content⟩
  refine ⟨before, command, waiting.begun, ⟨?_, answers⟩, fun answer reads => ?_⟩
  · rintro ⟨answer, _, reads, _⟩
    exact settled reads
  · exact answers (settled reads)

/-- Everything unread, in one piece. -/
def arriving (state : Conversation) : List (Chunk RecvEvent) :=
  putBack ((state.exchange.map Exchange.unread).getD []) []

/-- The command that registers a node. -/
def registerCommand : Command :=
  let payload := registrationPayload Json.flatCodec (text "vault-01") (text "Vault 1")
    (text "10.0.0.1") 100
  ⟨eopRegister, some payload, UInt64.ofNat payload.length⟩

/-- A handle connects and is welcomed. -/
def welcomed : List Happening :=
  [.connected, .accepted 0, .server ⟨1, .welcome 0 true⟩ [], .server ⟨2, .configure 0 true⟩ []]

/-- **The welcome is returned**: the first command of a connection is sent with id 0, and its call
returns an ACK with id 1. -/
theorem welcome_returned :
    ∃ trace state response next,
      Run (converse Json.flatCodec .default) (.start .empty) trace state ∧
      state.calling.map Call.msgId = some 0 ∧
      converse Json.flatCodec .default state (.receive true true (arriving state)) =
        some (some (.ok response), next) ∧
      response.msgType = MessageType.ack.toUInt32 ∧ response.msgId = 1 := by
  let events := welcomed ++ [.command registerCommand .whole]
  let state := execFinal (converse Json.flatCodec .default) (.start .empty) events
  have facts : (exec (converse Json.flatCodec .default) (.start .empty) events).isSome = true ∧
      state.calling.map Call.msgId = some 0 ∧
      (converse Json.flatCodec .default state (.receive true true (arriving state))).map
        (fun result => result.1.bind fun returned => returned.toOption.map fun response =>
          (response.msgType, response.msgId)) =
        some (some (MessageType.ack.toUInt32, 1)) := by decide +kernel
  obtain ⟨possible, sent, received⟩ := facts
  obtain ⟨⟨output, next⟩, taken, fields⟩ := Option.map_eq_some_iff.mp received
  obtain ⟨result, rfl, fields⟩ := Option.bind_eq_some_iff.mp fields
  cases result with
  | error failure => cases fields
  | ok response =>
      obtain ⟨type, id⟩ := Prod.mk.inj (Option.some.inj fields)
      exact ⟨_, state, response, next, run_of_possible possible, sent, taken, type, id⟩

/-- A HEARTBEAT that reads the welcome, and then a REGISTER. -/
def heartbeatFirst : List Happening :=
  let heartbeat : Command := ⟨0x06, none, 0⟩
  let greeted := execFinal (converse Json.flatCodec .default) (.start .empty)
    (welcomed ++ [.command heartbeat .whole])
  welcomed ++ [.command heartbeat .whole, .receive true true (arriving greeted),
    .server ⟨3, .frame 0 ⟨.heartbeat, 0, []⟩ []⟩ (putBack (wireFrame ⟨.heartbeat, 0, []⟩) []),
    .command registerCommand .whole,
    .server ⟨4, .frame 0 (registerCommand.frame 1) []⟩
      (putBack (wireFrame (registerCommand.frame 1)) [])]

/-- Once the welcome is out of the way, the answer to a REGISTER is returned to its caller. -/
theorem response_answers_iff_after_heartbeat :
    ∃ state response next,
      converse Json.flatCodec .default state (.receive true true (arriving state)) =
        some (some (.ok response), next) ∧ AnswersCall state next response := by
  let trace := execTrace (converse Json.flatCodec .default) (.start .empty) heartbeatFirst
  let state := execFinal (converse Json.flatCodec .default) (.start .empty) heartbeatFirst
  have facts : (exec (converse Json.flatCodec .default) (.start .empty)
        heartbeatFirst).isSome = true ∧
      (converse Json.flatCodec .default state (.receive true true (arriving state))).map
        (fun result => (result.1.bind Except.toOption).isSome) = some true ∧
      ((latest callBegun trace).map fun begun => (begun.2.msgType,
        begun.1.exchange.map fun exchange => (exchange.written.isEmpty,
          decide (exchange.taken = (streamOf exchange.written).length), exchange.unserved))) =
        some (eopRegister, some (false, true, [])) := by decide +kernel
  obtain ⟨possible, received, last⟩ := facts
  obtain ⟨⟨output, next⟩, taken, ok⟩ := Option.map_eq_some_iff.mp received
  obtain ⟨response, found⟩ := Option.isSome_iff_exists.mp ok
  obtain ⟨result, rfl, success⟩ := Option.bind_eq_some_iff.mp found
  cases result with
  | error failure => cases success
  | ok returned =>
      obtain ⟨before, command, begun, answers, _⟩ :=
        response_answers_iff (run_of_possible possible) taken
      rw [begun] at last
      obtain ⟨type, connection⟩ := Prod.mk.inj (Option.some.inj last)
      obtain ⟨exchange, linked, fields⟩ := Option.map_eq_some_iff.mp connection
      obtain ⟨written, caught, served⟩ := by simpa only [Prod.mk.injEq] using fields
      refine ⟨state, returned, next, taken, answers.mpr ⟨⟨exchange, linked, ?_, ?_, ?_⟩, ?_⟩⟩
      · rintro empty
        rw [empty] at written
        cases written
      · exact of_decide_eq_true caught
      · rw [served]
        exact .nil
      · simp only at type
        rw [type]
        decide

end ExodusOps
