/-
**A client handle and the server.**

The runs of `converse` are the calls on one handle of the C client (`eop_connect`,
`eop_send_command`, `eop_reconnect`) interleaved with the steps of the running server. Between the
two are the byte streams of the connection the handle has at the time: what the client has sent and
the server has read, what the server has written and the client has read. A call sends its command
and later returns what it read; the mutex of the handle keeps other calls out in between, the server
goes on.

* `Answered` — which frames the server takes off a stream of bytes, and what it writes for them.
* `Consistent` — the invariant of a connection: one welcome first, then answers to what was read.
* `Progress` — what can happen to the connection while a call waits.
-/

import ExodusOps.Client.SendCommand
import ExodusOps.Server.Discipline

namespace ExodusOps

open EopClient MessageSerializer

variable {codec : JsonCodec} {config : ServerConfig}

/-! ### The state -/

/-- A frame the server has written to the client. -/
structure Written where
  /-- Where the request it answers begins in what the client sent; `none` for the welcome. -/
  request : Option Nat
  bytes : Bytes

def streamOf (written : List Written) : Bytes := written.flatMap Written.bytes

theorem streamOf_append (first second : List Written) :
    streamOf (first ++ second) = streamOf first ++ streamOf second :=
  List.flatMap_append

/-- One connection of the handle, from both ends. -/
structure Exchange where
  /-- The server's number for it, once a worker has taken it off the queue. -/
  conn : Option Nat
  /-- What the client has sent, and how much of it the server has read. -/
  sent : Bytes
  served : Nat
  /-- What the server has written, and how many bytes of it the client has read. -/
  written : List Written
  taken : Nat

namespace Exchange

/-- A connection that has just been made. -/
def fresh : Exchange := ⟨none, [], 0, [], 0⟩

def unserved (exchange : Exchange) : Bytes := exchange.sent.drop exchange.served

def unread (exchange : Exchange) : Bytes := (streamOf exchange.written).drop exchange.taken

end Exchange

/-- A call of `eop_send_command` that has sent its command: the id, and where its bytes begin. -/
structure Call where
  msgId : UInt32
  offset : Nat

/-- The server and the handle. No connection is `socket_fd == -1`. -/
structure Conversation where
  world : World
  nextMsgId : UInt32
  exchange : Option Exchange
  calling : Option Call

def Conversation.start (registry : NodeRegistry) : Conversation := ⟨.boot registry, 0, none, none⟩

/-! ### The machine -/

/-- How the send loop of `eop_send_command` ends. -/
inductive SendOutcome where
  | allocFailed
  /-- `send` failed after so many bytes. -/
  | failed (count : Nat)
  | whole

inductive Happening where
  /-- `eop_connect` or `eop_reconnect` has made a new connection. -/
  | connected
  /-- `eop_reconnect` has closed the old connection and failed to make a new one. -/
  | disconnected
  /-- The sending half of `eop_send_command`. -/
  | command (command : Command) (outcome : SendOutcome)
  /-- Its receiving half: `socket` is what `poll` and `recv` deliver. -/
  | receive (payloadAllocated responseAllocated : Bool) (socket : List (Chunk RecvEvent))
  /-- A worker takes the handle's connection off the queue. -/
  | accepted (now : Time)
  /-- Any other step of the server; `socket` is what `recv` delivers if the step reads from the
  handle's connection. -/
  | server (event : Event) (socket : List (Chunk Errno))

/-- The sending half of `eop_send_command`. -/
def Conversation.send (state : Conversation) (command : Command) (outcome : SendOutcome) :
    Option (Option (Except ClientError Response) × Conversation) :=
  if command.payload = none ∧ command.payloadLen > 0 then
    some (some (.error ⟨.errInvalidArgument, "Payload is NULL but payload_len > 0"⟩), state)
  else
    let msgId := state.nextMsgId
    let state := { state with nextMsgId := msgId + 1 }
    match outcome, sendBuffer command msgId with
    | .allocFailed, _ =>
        some (some (.error ⟨.errAlloc, "Failed to allocate send buffer"⟩), state)
    | _, none => none
    | _, some (.error code) => some (some (.error ⟨code, "Failed to serialize envelope"⟩), state)
    | .failed count, some (.ok buffer) =>
        if count < buffer.length then
          some (some (.error ⟨.errDisconnected, "Send failed"⟩),
            { state with exchange := state.exchange.map fun exchange =>
              { exchange with sent := exchange.sent ++ buffer.take count } })
        else none
    | .whole, some (.ok buffer) =>
        match state.exchange with
        | none => some (some (.error ⟨.errDisconnected, "Send failed"⟩), state)
        | some exchange => some (none, { state with
            exchange := some { exchange with sent := exchange.sent ++ buffer }
            calling := some ⟨msgId, exchange.sent.length⟩ })

namespace Exchange

/-- The server writes to the connection. -/
def deliver (codec : JsonCodec) (exchange : Exchange) (request : Option Nat)
    (output : Option (Nat × Reply)) : Option Exchange :=
  match output with
  | none => some exchange
  | some (_, reply) => do
      let frame ← reply.frame codec
      let bytes ← buildFrame frame.messageType frame.messageId frame.payload
      some { exchange with written := exchange.written ++ [⟨request, bytes⟩] }

/-- What a step of the server does to the connection. -/
def follow (codec : JsonCodec) (exchange : Exchange) (event : Event)
    (output : Option (Nat × Reply)) (socket : List (Chunk Errno)) : Option Exchange :=
  match event.action with
  | .welcome conn _ =>
      if exchange.conn = some conn then exchange.deliver codec none output else some exchange
  | .frame conn frame _ =>
      if exchange.conn = some conn then
        match readFrame socket with
        | (.error _, _) => none
        | (.ok read, left) => do
            guard (read = frame ∧ streamBytes socket <+: exchange.unserved)
            let delivered ← exchange.deliver codec (some exchange.served) output
            some { delivered with
              served := exchange.served +
                ((streamBytes socket).length - (streamBytes left).length) }
      else some exchange
  | .teardown conn status =>
      if exchange.conn = some conn then
        match (readFrame socket).1 with
        | .error ending => do
            guard (ending = status ∧ streamBytes socket <+: exchange.unserved)
            some exchange
        | .ok _ => none
      else some exchange
  | _ => some exchange

end Exchange

/-- **One step of the handle or the server**: what `eop_send_command` returns, if it returns, and
the next state. -/
def converse (codec : JsonCodec) (config : ServerConfig) (state : Conversation)
    (happening : Happening) : Option (Option (Except ClientError Response) × Conversation) :=
  match happening with
  | .connected => do
      guard state.calling.isNone
      some (none, { state with exchange := some .fresh })
  | .disconnected => do
      guard state.calling.isNone
      some (none, { state with exchange := none })
  | .command command outcome => do
      guard state.calling.isNone
      state.send command outcome
  | .receive payloadAllocated responseAllocated socket => do
      let _ ← state.calling
      let exchange ← state.exchange
      guard (streamBytes socket <+: exchange.unread)
      let (result, left) := receiveResponse payloadAllocated responseAllocated socket
      some (some result, { state with
        calling := none
        exchange := some { exchange with
          taken := exchange.taken + ((streamBytes socket).length - (streamBytes left).length) } })
  | .accepted now => do
      let exchange ← state.exchange
      guard exchange.conn.isNone
      let (_, world) ← step codec config state.world ⟨now, .accept⟩
      some (none, { state with
        world := world
        exchange := some { exchange with conn := some state.world.connections.length } })
  | .server event socket => do
      let (output, world) ← step codec config state.world event
      match state.exchange with
      | none => some (none, { state with world := world })
      | some exchange => do
          let exchange ← exchange.follow codec event output socket
          some (none, { state with world := world, exchange := some exchange })

/-! ### Reading requests -/

/-- **What the server writes for a stream of bytes**: from `offset` on it takes the bytes frame by
frame, and writes one answer for each but the HEARTBEATs. -/
inductive Answered : Nat → Bytes → List Written → Prop where
  | nil (offset : Nat) : Answered offset [] []
  | heartbeat {offset : Nat} {bytes rest : Bytes} {frame : Frame} {written : List Written} :
      IsFrame bytes frame → frame.messageType = .heartbeat →
        Answered (offset + bytes.length) rest written → Answered offset (bytes ++ rest) written
  | request {offset : Nat} {bytes rest : Bytes} {frame answer : Frame} {written : List Written} :
      IsFrame bytes frame → frame.messageType ≠ .heartbeat →
        answer.messageId = frame.messageId → answer.payload.length < 2 ^ 32 →
          Answered (offset + bytes.length) rest written →
            Answered offset (bytes ++ rest) (⟨some offset, wireFrame answer⟩ :: written)

theorem Answered.append {offset : Nat} {bytes more : Bytes} {written later : List Written}
    (first : Answered offset bytes written) (second : Answered (offset + bytes.length) more later) :
    Answered offset (bytes ++ more) (written ++ later) := by
  induction first with
  | nil offset => exact second
  | heartbeat isFrame type _ ih =>
      rw [List.append_assoc]
      refine .heartbeat isFrame type (ih ?_)
      rwa [Nat.add_assoc, ← List.length_append]
  | request isFrame type id short _ ih =>
      rw [List.append_assoc]
      refine .request isFrame type id short (ih ?_)
      rwa [Nat.add_assoc, ← List.length_append]

/-- Whole HEARTBEAT frames and nothing else. -/
inductive OnlyHeartbeats : Bytes → Prop where
  | nil : OnlyHeartbeats []
  | cons {bytes rest : Bytes} {frame : Frame} : IsFrame bytes frame →
      frame.messageType = .heartbeat → OnlyHeartbeats rest → OnlyHeartbeats (bytes ++ rest)

/-- **The first answer** is to the first frame that is not a HEARTBEAT. -/
theorem Answered.first_answer {offset : Nat} {bytes : Bytes} {first : Written}
    {later : List Written} (served : Answered offset bytes (first :: later)) :
    ∃ (heartbeats request rest : Bytes) (frame answer : Frame),
      bytes = heartbeats ++ (request ++ rest) ∧ OnlyHeartbeats heartbeats ∧
      IsFrame request frame ∧ frame.messageType ≠ .heartbeat ∧
      first = ⟨some (offset + heartbeats.length), wireFrame answer⟩ ∧
      answer.messageId = frame.messageId ∧ answer.payload.length < 2 ^ 32 := by
  generalize all : first :: later = written at served
  induction served with
  | nil => cases all
  | @heartbeat offset bytes rest frame written isFrame type _ ih =>
      obtain ⟨heartbeats, request, behind, asked, answer, rfl, only, isRequest, other, rfl, id,
        short⟩ := ih all
      refine ⟨bytes ++ heartbeats, request, behind, asked, answer, by rw [List.append_assoc],
        .cons isFrame type only, isRequest, other, ?_, id, short⟩
      rw [List.length_append, Nat.add_assoc]
  | @request offset bytes rest frame answer written isFrame type id short _ _ =>
      cases all
      exact ⟨[], bytes, rest, frame, answer, rfl, .nil, isFrame, type, rfl, id, short⟩

/-- HEARTBEATs before something else: there is one way to tell where they end. -/
theorem OnlyHeartbeats.unique {heartbeats other request rest behind : Bytes} {frame : Frame}
    (first : OnlyHeartbeats heartbeats) (second : OnlyHeartbeats other)
    (isRequest : IsFrame request frame) (type : frame.messageType ≠ .heartbeat)
    (different : ∀ bytes asked later, IsFrame bytes asked → behind = bytes ++ later →
      asked.messageType ≠ .heartbeat)
    (same : heartbeats ++ behind = other ++ (request ++ rest)) : heartbeats = other := by
  induction first generalizing other with
  | nil =>
      cases second with
      | nil => rfl
      | cons isFrame heartbeat _ =>
          rw [List.append_assoc] at same
          exact absurd heartbeat (different _ _ _ isFrame same)
  | cons isFrame heartbeat _ ih =>
      rw [List.append_assoc] at same
      cases second with
      | nil =>
          obtain ⟨_, rfl⟩ := isFrame.unique isRequest same
          exact absurd heartbeat type
      | cons isFrame' _ only =>
          rw [List.append_assoc] at same
          obtain ⟨rfl, _⟩ := isFrame.unique isFrame' same
          rw [ih only (List.append_cancel_left same)]

/-- Each answer is to a request among the bytes read. -/
theorem Answered.bounds {offset : Nat} {bytes : Bytes} {written : List Written}
    (answered : Answered offset bytes written) {answer : Written} (member : answer ∈ written) :
    answer.bytes ≠ [] ∧ ∃ start, answer.request = some start ∧ start < offset + bytes.length := by
  induction answered with
  | nil => cases member
  | heartbeat _ _ _ ih =>
      obtain ⟨nonempty, start, request, below⟩ := ih member
      refine ⟨nonempty, start, request, ?_⟩
      rw [List.length_append]
      omega
  | request isFrame _ _ _ _ ih =>
      rw [List.length_append]
      rcases List.mem_cons.mp member with rfl | later
      · refine ⟨List.ne_nil_of_length_pos ?_, _, rfl, ?_⟩
        · simp only [wireFrame_length]
          omega
        · have := isFrame.length_pos
          omega
      · obtain ⟨nonempty, start, request, below⟩ := ih later
        exact ⟨nonempty, start, request, by omega⟩

/-! ### What a step of the server does to the connection -/

namespace Exchange

theorem deliver_eq_some {exchange after : Exchange} {request : Option Nat}
    {output : Option (Nat × Reply)}
    (delivered : exchange.deliver codec request output = some after) :
    (output = none ∧ after = exchange) ∨
    ∃ target reply framed, output = some (target, reply) ∧
      framed.messageType = reply.messageType ∧ framed.messageId = reply.messageId ∧
      framed.payload.length < 2 ^ 32 ∧
      after = { exchange with written := exchange.written ++ [⟨request, wireFrame framed⟩] } := by
  cases output with
  | none => exact .inl ⟨rfl, (Option.some.inj delivered).symm⟩
  | some sent =>
      obtain ⟨target, reply⟩ := sent
      obtain ⟨frame, written, building⟩ := Option.bind_eq_some_iff.mp delivered
      obtain ⟨bytes, built, same⟩ := Option.bind_eq_some_iff.mp building
      obtain ⟨payload, _, rfl⟩ := Option.map_eq_some_iff.mp written
      obtain ⟨framed, short, rfl⟩ := buildFrame_some built
      cases same
      exact .inr ⟨target, reply, ⟨reply.messageType, reply.messageId, framed⟩, rfl, rfl, rfl,
        short, rfl⟩

/-- A frame read from the connection: its bytes were the next ones. -/
theorem follow_frame {exchange after : Exchange} {now : Time} {conn : Nat} {frame : Frame}
    {listing : List NodeEntry} {output : Option (Nat × Reply)} {socket : List (Chunk Errno)}
    (ours : exchange.conn = some conn)
    (followed : exchange.follow codec ⟨now, .frame conn frame listing⟩ output socket = some after) :
    ∃ bytes delivered, IsFrame bytes frame ∧ bytes <+: exchange.unserved ∧
      exchange.deliver codec (some exchange.served) output = some delivered ∧
      after = { delivered with served := exchange.served + bytes.length } := by
  simp only [follow, if_pos ours] at followed
  split at followed
  · cases followed
  · rename_i read left accepted
    obtain ⟨_, guarded, delivering⟩ := Option.bind_eq_some_iff.mp followed
    rw [Option.guard_eq_some'] at guarded
    obtain ⟨rfl, starts⟩ := guarded
    obtain ⟨delivered, sending, same⟩ := Option.bind_eq_some_iff.mp delivering
    obtain ⟨bytes, isFrame, split⟩ := readFrame_ok accepted
    refine ⟨bytes, delivered, isFrame, ?_, sending, ?_⟩
    · exact (List.prefix_append bytes (streamBytes left)).trans (split ▸ starts)
    · rw [← Option.some.inj same, split, List.length_append, Nat.add_sub_cancel]

/-- **A step of the server, seen from the connection**: nothing, its welcome, or one frame read. -/
theorem follow_cases {exchange after : Exchange} {world next : World} {event : Event}
    {output : Option (Nat × Reply)} {socket : List (Chunk Errno)}
    (taken : step codec config world event = some (output, next))
    (followed : exchange.follow codec event output socket = some after) :
    (after = exchange ∧ ∀ conn, exchange.conn = some conn → event.action ≠ .welcome conn true) ∨
    (∃ conn framed, exchange.conn = some conn ∧ event.action = .welcome conn true ∧
      framed.messageType = .ack ∧ framed.payload.length < 2 ^ 32 ∧
      after = { exchange with written := exchange.written ++ [⟨none, wireFrame framed⟩] }) ∨
    (∃ conn frame listing bytes more, exchange.conn = some conn ∧
      event.action = .frame conn frame listing ∧ bytes ≠ [] ∧ bytes <+: exchange.unserved ∧
      Answered exchange.served bytes more ∧
      after = { exchange with
        written := exchange.written ++ more, served := exchange.served + bytes.length }) := by
  obtain ⟨now, action⟩ := event
  cases action with
  | welcome conn sent =>
      obtain ⟨connection, _, _, _, rfl, _⟩ := step_welcome_iff.mp taken
      by_cases ours : exchange.conn = some conn
      · simp only [follow, if_pos ours] at followed
        rcases deliver_eq_some followed with ⟨silent, rfl⟩ |
          ⟨_, _, framed, written, type, _, short, rfl⟩
        · refine .inl ⟨rfl, fun _ _ same => ?_⟩
          cases same
          cases silent
        · cases sent with
          | false => cases written
          | true =>
              cases written
              exact .inr (.inl ⟨conn, framed, ours, rfl, type, short, rfl⟩)
      · simp only [follow, if_neg ours, Option.some.injEq] at followed
        refine .inl ⟨followed.symm, fun other linked same => ?_⟩
        cases same
        exact ours linked
  | frame conn frame listing =>
      obtain ⟨connection, served, _, _, _, rfl, _, rfl, _⟩ := step_frame_iff.mp taken
      by_cases ours : exchange.conn = some conn
      · obtain ⟨bytes, delivered, isFrame, starts, sending, rfl⟩ := follow_frame ours followed
        have nonempty := List.ne_nil_of_length_pos isFrame.length_pos
        have whole : bytes ++ [] = bytes := List.append_nil bytes
        rcases dispatch_reply codec world.registry connection.activeNodeId frame now listing with
          ⟨heartbeat, silent⟩ | ⟨other, reply, answered, answers⟩
        · rw [silent] at sending
          cases sending
          refine .inr (.inr ⟨conn, frame, listing, bytes, [], ours, rfl, nonempty, starts,
            whole ▸ .heartbeat isFrame heartbeat (.nil _), by rw [List.append_nil]⟩)
        · rw [answered] at sending
          rcases deliver_eq_some sending with ⟨impossible, _⟩ |
            ⟨_, _, framed, same, _, id, short, rfl⟩
          · cases impossible
          · cases same
            exact .inr (.inr ⟨conn, frame, listing, bytes, [⟨_, wireFrame framed⟩], ours, rfl,
              nonempty, starts,
              whole ▸ .request isFrame other (id.trans answers.envelope_id) short (.nil _), rfl⟩)
      · simp only [follow, if_neg ours, Option.some.injEq] at followed
        exact .inl ⟨followed.symm, fun _ _ same => by cases same⟩
  | teardown conn status =>
      refine .inl ⟨?_, fun _ _ same => by cases same⟩
      simp only [follow] at followed
      split_ifs at followed
      · split at followed
        · obtain ⟨_, _, same⟩ := Option.bind_eq_some_iff.mp followed
          exact (Option.some.inj same).symm
        · cases followed
      · exact (Option.some.inj followed).symm
  | accept => exact .inl ⟨(Option.some.inj followed).symm, fun _ _ same => by cases same⟩
  | configure conn applied =>
      exact .inl ⟨(Option.some.inj followed).symm, fun _ _ same => by cases same⟩
  | tickStart snapshot =>
      exact .inl ⟨(Option.some.inj followed).symm, fun _ _ same => by cases same⟩
  | tickOffline => exact .inl ⟨(Option.some.inj followed).symm, fun _ _ same => by cases same⟩

end Exchange

/-! ### The invariant of a connection -/

/-- What holds of the handle's connection at any time. -/
structure Consistent (world : World) (exchange : Exchange) : Prop where
  /-- Nothing is written before the welcome, and frames are served only after it. -/
  unlinked : exchange.conn = none → exchange.written = []
  linked : ∀ conn, exchange.conn = some conn → ∃ phase, world.phase conn = some phase ∧
    (phase = .dequeued → exchange.written = []) ∧
    (phase = .welcomed ∨ phase = .serving → exchange.written ≠ [])
  welcome_first : ∀ first ∈ exchange.written.head?, first.request = none
  requests : ∀ written ∈ exchange.written, ∀ start ∈ written.request, start < exchange.served
  nonempty : ∀ written ∈ exchange.written, written.bytes ≠ []
  served_le : exchange.served ≤ exchange.sent.length
  taken_le : exchange.taken ≤ (streamOf exchange.written).length

theorem consistent_fresh (world : World) : Consistent world .fresh :=
  ⟨fun _ => rfl, nofun, nofun, nofun, nofun, Nat.le_refl _, Nat.le_refl _⟩

/-- Sending more does not matter. -/
theorem Consistent.sendMore {world : World} {exchange : Exchange}
    (consistent : Consistent world exchange) (bytes : Bytes) :
    Consistent world { exchange with sent := exchange.sent ++ bytes } := by
  refine { consistent with served_le := ?_ }
  rw [List.length_append]
  exact Nat.le_add_right_of_le consistent.served_le

/-- How far a connection can get in a step that is not its welcome. -/
theorem phase_forward {world next : World} {event : Event} {output : Option (Nat × Reply)}
    (taken : step codec config world event = some (output, next)) {conn : Nat} {phase : Phase}
    (before : world.phase conn = some phase) (other : event.action ≠ .welcome conn true) :
    ∃ after, next.phase conn = some after ∧ (after = .dequeued → phase = .dequeued) ∧
      (after = .welcomed ∨ after = .serving → phase = .welcomed ∨ phase = .serving) := by
  rcases phase_cases taken conn with same | ⟨_, absent, _⟩ | ⟨sent, action, _, after⟩ |
    ⟨applied, _, welcomed, after⟩ | ⟨_, _, _, after⟩
  · exact ⟨phase, same.trans before, id, id⟩
  · cases absent.symm.trans before
  · cases sent with
    | true => exact absurd action other
    | false => exact ⟨.returned, after, by simp, by simp⟩
  · cases welcomed.symm.trans before
    cases applied with
    | true => exact ⟨.serving, after, by simp, fun _ => .inl rfl⟩
    | false => exact ⟨.returned, after, by simp, by simp⟩
  · exact ⟨.returned, after, by simp, by simp⟩

/-- A welcome is written to a connection that has been written nothing. -/
theorem Consistent.unwelcomed {exchange : Exchange} {world next : World} {event : Event}
    {output : Option (Nat × Reply)} (consistent : Consistent world exchange)
    (taken : step codec config world event = some (output, next)) {conn : Nat} {sent : Bool}
    (ours : exchange.conn = some conn) (action : event.action = .welcome conn sent) :
    exchange.written = [] := by
  obtain ⟨now, _⟩ := event
  subst action
  obtain ⟨connection, found, phase, _⟩ := step_welcome_iff.mp taken
  obtain ⟨_, before, dequeued, _⟩ := consistent.linked conn ours
  rw [World.phase_eq found, phase] at before
  cases before
  exact dequeued rfl

/-- A connection that is served has been welcomed. -/
theorem Consistent.welcomed {exchange : Exchange} {world next : World} {event : Event}
    {output : Option (Nat × Reply)} (consistent : Consistent world exchange)
    (taken : step codec config world event = some (output, next)) {conn : Nat} {frame : Frame}
    {listing : List NodeEntry} (ours : exchange.conn = some conn)
    (action : event.action = .frame conn frame listing) : exchange.written ≠ [] := by
  obtain ⟨now, _⟩ := event
  subst action
  obtain ⟨connection, _, found, phase, _⟩ := step_frame_iff.mp taken
  obtain ⟨_, before, _, opened⟩ := consistent.linked conn ours
  rw [World.phase_eq found, phase] at before
  cases before
  exact opened (.inr rfl)

/-- **One step of the server** keeps the connection consistent. -/
theorem Consistent.server {exchange after : Exchange} {world next : World} {event : Event}
    {output : Option (Nat × Reply)} {socket : List (Chunk Errno)}
    (consistent : Consistent world exchange)
    (taken : step codec config world event = some (output, next))
    (followed : exchange.follow codec event output socket = some after) :
    Consistent next after := by
  rcases Exchange.follow_cases taken followed with ⟨rfl, other⟩ |
    ⟨conn, framed, ours, action, _, _, rfl⟩ |
    ⟨conn, frame, listing, bytes, more, ours, action, nonempty, starts, answered, rfl⟩
  · refine { consistent with linked := fun conn ours => ?_ }
    obtain ⟨phase, before, dequeued, opened⟩ := consistent.linked conn ours
    obtain ⟨later, moved, back, forth⟩ := phase_forward taken before (other conn ours)
    exact ⟨later, moved, fun early => dequeued (back early), fun late => opened (forth late)⟩
  · have nothing := consistent.unwelcomed taken ours action
    obtain ⟨now, _⟩ := event
    subst action
    have moved := step_phase taken conn
    refine ⟨?_, ?_, ?_, ?_, ?_, consistent.served_le, ?_⟩
    · intro unlinked
      cases unlinked.symm.trans ours
    · intro other linked
      cases linked.symm.trans ours
      exact ⟨.welcomed, moved.trans (if_pos rfl), nofun, fun _ => by simp⟩
    · rw [nothing]
      rintro _ ⟨⟩
      rfl
    · rw [nothing]
      rintro written member start request
      cases List.mem_singleton.mp member
      cases request
    · rw [nothing]
      intro written member
      cases List.mem_singleton.mp member
      exact List.ne_nil_of_length_pos (by simp only [wireFrame_length]; omega)
    · have none := consistent.taken_le
      rw [nothing] at none
      exact none.trans (Nat.zero_le _)
  · obtain ⟨welcome, answers, first⟩ :=
      List.exists_cons_of_ne_nil (consistent.welcomed taken ours action)
    obtain ⟨now, _⟩ := event
    subst action
    have moved := step_phase taken conn
    obtain ⟨connection, _, found, phase, _⟩ := step_frame_iff.mp taken
    refine ⟨?_, ?_, ?_, ?_, ?_, ?_, ?_⟩
    · intro unlinked
      cases unlinked.symm.trans ours
    · intro other linked
      cases linked.symm.trans ours
      refine ⟨.serving, moved.trans ?_, nofun, fun _ => by simp [first]⟩
      exact (World.phase_eq found).trans (congrArg some phase)
    · have same := consistent.welcome_first
      rw [first] at same ⊢
      exact same
    · intro written member start request
      rcases List.mem_append.mp member with old | new
      · exact Nat.lt_add_right _ (consistent.requests written old start request)
      · obtain ⟨_, begin, same, below⟩ := answered.bounds new
        cases same.symm.trans request
        exact below
    · intro written member
      rcases List.mem_append.mp member with old | new
      · exact consistent.nonempty written old
      · exact (answered.bounds new).1
    · have room := starts.length_le
      have bound := consistent.served_le
      rw [Exchange.unserved, List.length_drop] at room
      simp only
      omega
    · have bound := consistent.taken_le
      simp only [streamOf_append, List.length_append]
      omega

/-! ### Inversion -/

/-- **The sending half**: it adds bytes to the connection, and where it sent a whole command the
call goes on. -/
theorem Conversation.send_cases {state next : Conversation} {command : Command}
    {outcome : SendOutcome} {output : Option (Except ClientError Response)}
    (sent : state.send command outcome = some (output, next)) :
    next.world = state.world ∧
    ((next.calling = state.calling ∧ ∃ bytes, next.exchange = state.exchange.map fun exchange =>
      { exchange with sent := exchange.sent ++ bytes }) ∨
    (outcome = .whole ∧ ∃ exchange buffer, state.exchange = some exchange ∧
      sendBuffer command state.nextMsgId = some (.ok buffer) ∧
      next.exchange = some { exchange with sent := exchange.sent ++ buffer } ∧
      next.calling = some ⟨state.nextMsgId, exchange.sent.length⟩)) := by
  have unchanged : state.exchange = state.exchange.map fun exchange =>
      { exchange with sent := exchange.sent ++ [] } := by
    cases state.exchange <;> simp
  unfold Conversation.send at sent
  split_ifs at sent
  · cases sent
    exact ⟨rfl, .inl ⟨rfl, [], unchanged⟩⟩
  · simp only at sent
    split at sent
    · cases sent
      exact ⟨rfl, .inl ⟨rfl, [], unchanged⟩⟩
    · cases sent
    · cases sent
      exact ⟨rfl, .inl ⟨rfl, [], unchanged⟩⟩
    · rename_i count buffer _
      split_ifs at sent
      cases sent
      exact ⟨rfl, .inl ⟨rfl, buffer.take count, rfl⟩⟩
    · rename_i buffer framed
      split at sent
      · rename_i none
        cases sent
        exact ⟨rfl, .inl ⟨rfl, [], unchanged⟩⟩
      · rename_i exchange found
        cases sent
        exact ⟨rfl, .inr ⟨rfl, exchange, buffer, found, framed, rfl, rfl⟩⟩

section Inversion

variable {state next : Conversation} {output : Option (Except ClientError Response)}

theorem converse_command {command : Command} {outcome : SendOutcome}
    (taken : converse codec config state (.command command outcome) = some (output, next)) :
    state.calling = none ∧ state.send command outcome = some (output, next) := by
  obtain ⟨_, idle, sent⟩ := Option.bind_eq_some_iff.mp taken
  rw [Option.guard_eq_some'] at idle
  exact ⟨Option.isNone_iff_eq_none.mp idle, sent⟩

theorem converse_receive {payloadAllocated responseAllocated : Bool}
    {socket : List (Chunk RecvEvent)}
    (taken : converse codec config state
      (.receive payloadAllocated responseAllocated socket) = some (output, next)) :
    ∃ call exchange result left, state.calling = some call ∧ state.exchange = some exchange ∧
      streamBytes socket <+: exchange.unread ∧
      receiveResponse payloadAllocated responseAllocated socket = (result, left) ∧
      output = some result ∧
      next = { state with
        calling := none
        exchange := some { exchange with
          taken := exchange.taken +
            ((streamBytes socket).length - (streamBytes left).length) } } := by
  obtain ⟨call, calling, reading⟩ := Option.bind_eq_some_iff.mp taken
  obtain ⟨exchange, found, guarding⟩ := Option.bind_eq_some_iff.mp reading
  obtain ⟨_, starts, same⟩ := Option.bind_eq_some_iff.mp guarding
  rw [Option.guard_eq_some'] at starts
  cases same
  exact ⟨call, exchange, _, _, calling, found, starts, rfl, rfl, rfl⟩

theorem converse_accepted {now : Time}
    (taken : converse codec config state (.accepted now) = some (output, next)) :
    ∃ exchange world, state.exchange = some exchange ∧ exchange.conn = none ∧
      step codec config state.world ⟨now, .accept⟩ = some (none, world) ∧
      next = { state with
        world := world
        exchange := some { exchange with conn := some state.world.connections.length } } := by
  obtain ⟨exchange, found, guarding⟩ := Option.bind_eq_some_iff.mp taken
  obtain ⟨_, unlinked, same⟩ := Option.bind_eq_some_iff.mp guarding
  rw [Option.guard_eq_some'] at unlinked
  cases same
  exact ⟨exchange, _, found, Option.isNone_iff_eq_none.mp unlinked, rfl, rfl⟩

theorem converse_server {event : Event} {socket : List (Chunk Errno)}
    (taken : converse codec config state (.server event socket) = some (output, next)) :
    ∃ sent world, step codec config state.world event = some (sent, world) ∧
      ((state.exchange = none ∧ next = { state with world := world }) ∨
      ∃ exchange after, state.exchange = some exchange ∧
        exchange.follow codec event sent socket = some after ∧
        next = { state with world := world, exchange := some after }) := by
  obtain ⟨⟨sent, world⟩, stepped, following⟩ := Option.bind_eq_some_iff.mp taken
  refine ⟨sent, world, stepped, ?_⟩
  cases found : state.exchange with
  | none =>
      simp only [found] at following
      cases following
      exact .inl ⟨rfl, rfl⟩
  | some exchange =>
      simp only [found] at following
      obtain ⟨after, followed, same⟩ := Option.bind_eq_some_iff.mp following
      cases same
      exact .inr ⟨exchange, after, rfl, followed, rfl⟩

end Inversion

/-! ### Runs -/

/-- What a receive leaves unread. -/
theorem taken_le_of_receive {exchange : Exchange} {socket left : List (Chunk RecvEvent)}
    (bound : exchange.taken ≤ (streamOf exchange.written).length)
    (starts : streamBytes socket <+: exchange.unread) :
    exchange.taken + ((streamBytes socket).length - (streamBytes left).length) ≤
      (streamOf exchange.written).length := by
  have room := starts.length_le
  rw [Exchange.unread, List.length_drop] at room
  omega

/-- **The connection stays consistent** in every state reached. -/
theorem consistent_of_run {start state : Conversation}
    {trace : List (Transition Conversation Happening (Option (Except ClientError Response)))}
    (initial : ∀ exchange ∈ start.exchange, Consistent start.world exchange)
    (run : Run (converse codec config) start trace state) :
    ∀ exchange ∈ state.exchange, Consistent state.world exchange := by
  refine run.invariant (fun state => ∀ exchange ∈ state.exchange, Consistent state.world exchange)
    initial fun {state happening output next} taken consistent => ?_
  cases happening with
  | connected =>
      obtain ⟨_, _, same⟩ := Option.bind_eq_some_iff.mp taken
      cases same
      rintro _ ⟨⟩
      exact consistent_fresh _
  | disconnected =>
      obtain ⟨_, _, same⟩ := Option.bind_eq_some_iff.mp taken
      cases same
      intro _ member
      cases member
  | command command outcome =>
      obtain ⟨_, sent⟩ := converse_command taken
      obtain ⟨world, ⟨_, bytes, grown⟩ | ⟨_, exchange, buffer, found, _, grown, _⟩⟩ :=
        Conversation.send_cases sent
      · rw [world, grown]
        intro exchange member
        obtain ⟨old, found, rfl⟩ := Option.map_eq_some_iff.mp member
        exact (consistent old found).sendMore bytes
      · rw [world, grown]
        rintro _ ⟨⟩
        exact (consistent exchange found).sendMore buffer
  | receive payloadAllocated responseAllocated socket =>
      obtain ⟨_, exchange, _, left, _, found, starts, _, _, rfl⟩ := converse_receive taken
      rintro _ ⟨⟩
      have before := consistent exchange found
      exact { before with taken_le := taken_le_of_receive before.taken_le starts }
  | accepted now =>
      obtain ⟨exchange, world, found, unlinked, accept, rfl⟩ := converse_accepted taken
      rintro _ ⟨⟩
      have before := consistent exchange found
      have phase := step_phase accept state.world.connections.length
      refine { before with unlinked := nofun, linked := fun conn same => ?_ }
      cases same
      exact ⟨.dequeued, phase.trans (if_pos rfl), fun _ => before.unlinked unlinked, by simp⟩
  | server event socket =>
      obtain ⟨sent, world, stepped, ⟨none, rfl⟩ | ⟨exchange, after, found, followed, rfl⟩⟩ :=
        converse_server taken
      · intro exchange member
        cases none.symm.trans member
      · rintro _ ⟨⟩
        exact (consistent exchange found).server stepped followed

/-- **While a call waits**: the command is the last thing sent, nothing is read, and what the server
writes is its answers to what it reads. -/
structure Progress (start : Exchange) (buffer : Bytes) (exchange : Exchange) : Prop where
  sent : exchange.sent = start.sent ++ buffer
  taken : exchange.taken = start.taken
  answers : start.written ≠ [] → ∃ bytes more, exchange.written = start.written ++ more ∧
    exchange.served = start.served + bytes.length ∧
    bytes <+: (start.sent ++ buffer).drop start.served ∧ Answered start.served bytes more

theorem Progress.server {start exchange after : Exchange} {buffer : Bytes} {world next : World}
    {event : Event} {output : Option (Nat × Reply)} {socket : List (Chunk Errno)}
    (progress : Progress start buffer exchange) (consistent : Consistent world exchange)
    (taken : step codec config world event = some (output, next))
    (followed : exchange.follow codec event output socket = some after) :
    Progress start buffer after := by
  rcases Exchange.follow_cases taken followed with ⟨rfl, _⟩ |
    ⟨conn, framed, ours, action, _, _, rfl⟩ |
    ⟨conn, frame, listing, bytes, more, ours, action, _, starts, answered, rfl⟩
  · exact progress
  · refine ⟨progress.sent, progress.taken, fun welcomed => ?_⟩
    -- the welcome is not written twice
    obtain ⟨_, _, written, _⟩ := progress.answers welcomed
    rw [consistent.unwelcomed taken ours action] at written
    exact absurd (List.append_eq_nil_iff.mp written.symm).1 welcomed
  · refine ⟨progress.sent, progress.taken, fun welcomed => ?_⟩
    obtain ⟨before, earlier, written, served, ⟨rest, split⟩, answers⟩ := progress.answers welcomed
    refine ⟨before ++ bytes, earlier ++ more, ?_, ?_, ?_, ?_⟩
    · simp only [written, List.append_assoc]
    · simp only [served, List.length_append, Nat.add_assoc]
    · rw [Exchange.unserved, progress.sent, served, ← List.drop_drop, ← split,
        List.drop_left] at starts
      rw [← split]
      exact (List.prefix_append_right_inj before).mpr starts
    · rw [served] at answered
      exact answers.append answered

end ExodusOps
