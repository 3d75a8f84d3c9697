/-
**Draining the welcome.**

The programs that come with the client begin a connection with a HEARTBEAT. It is never answered, so
its call returns the welcome, and from then on the connection owes the client nothing but the answer
to the command just sent. `welcome_drained`: if nothing goes wrong on the way, the first call
returns the welcome, a later HEARTBEAT times out without reading a byte, and every other call
returns the answer to itself.

* `Replied` — what the server has written is its welcome and then its answers to what it has read.
* `Rested` — between two calls: untouched before the first, and after it settled (`Settled`).
-/

import ExodusOps.Client.Alignment
import ExodusOps.Client.Correlation

namespace ExodusOps

open EopClient MessageSerializer

variable {codec : JsonCodec} {config : ServerConfig}

/-! ### What goes right -/

/-- A handle that has just been connected to a server, which may be in any state. -/
def Conversation.justConnected (world : World) (nextMsgId : UInt32) : Conversation :=
  ⟨world, nextMsgId, some .fresh, none⟩

/-- **Nothing goes wrong**: the handle keeps its connection, a command is sent whole, and a call
that receives is given all it is owed, in any pieces, before `poll` times out. All that is owed has
been written when the welcome has and what the server has yet to read is HEARTBEATs. -/
def Undisturbed (turn : Turn) : Prop :=
  match turn.event with
  | .connected | .disconnected => False
  | .command command outcome =>
      outcome = .whole ∧ command.Valid ∧ command.payloadLen.toNat ≤ 65536
  | .receive payloadAllocated responseAllocated socket =>
      payloadAllocated = true ∧ responseAllocated = true ∧
        ∃ exchange pieces, turn.before.exchange = some exchange ∧ exchange.written ≠ [] ∧
          OnlyHeartbeats exchange.unserved ∧ DataOnly pieces ∧
          streamBytes pieces = exchange.unread ∧ socket = pieces ++ [.event .pollTimeout]
  | .accepted _ | .server _ _ => True

/-- The calls that have sent their commands. -/
def callsBegun (trace : List Turn) : List (Conversation × Command) := trace.filterMap callBegun

theorem callsBegun_concat (trace : List Turn) (turn : Turn) :
    callsBegun (trace ++ [turn]) = callsBegun trace ++ (callBegun turn).toList :=
  filterMap_concat _ _ _

/-- The first call is a HEARTBEAT. -/
def HeartbeatFirst (trace : List Turn) : Prop :=
  ∀ first ∈ (callsBegun trace).head?, first.2.msgType.toUInt8 = MessageType.heartbeat

theorem HeartbeatFirst.earlier {earlier later : List Turn}
    (first : HeartbeatFirst (earlier ++ later)) : HeartbeatFirst earlier := by
  intro begun member
  refine first begun ?_
  rw [callsBegun, List.filterMap_append, List.head?_append, ← callsBegun, member]
  rfl

/-- What the receiving half of a call does, given the calls before it: the first returns the
welcome, a later HEARTBEAT times out and reads nothing, any other command is answered. -/
def Drains (calls : List (Conversation × Command)) (command : Command) (turn : Turn) : Prop :=
  match calls with
  | [] => ∃ exchange after welcome, turn.before.exchange = some exchange ∧
      turn.after.exchange = some after ∧ exchange.written = [⟨none, wireFrame welcome⟩] ∧
      welcome.messageType = .ack ∧ exchange.taken = 0 ∧
      after.taken = (wireFrame welcome).length ∧ turn.output = some (.ok (responseOf welcome))
  | _ :: _ =>
      if command.msgType.toUInt8 = MessageType.heartbeat then
        turn.output = some (.error ⟨.errTimeout, "Timeout waiting for frame length prefix"⟩) ∧
          turn.after.exchange = turn.before.exchange
      else ∃ response, turn.output = some (.ok response) ∧
        AnswersCall turn.before turn.after response

/-! ### The sending half -/

/-- A command that is sent whole. -/
theorem Conversation.send_whole {state : Conversation} {command : Command} {exchange : Exchange}
    (valid : command.Valid) (short : command.payloadLen.toNat ≤ 65536)
    (found : state.exchange = some exchange) :
    state.send command .whole = some (none, { state with
      nextMsgId := state.nextMsgId + 1
      exchange := some { exchange with
        sent := exchange.sent ++ wireFrame (command.frame state.nextMsgId) }
      calling := some ⟨state.nextMsgId, exchange.sent.length⟩ }) := by
  have pointer : ¬ (command.payload = none ∧ command.payloadLen > 0) := by
    rintro ⟨null, positive⟩
    have readableBytes := valid.pointed
    rw [null] at readableBytes
    rw [gt_iff_lt, UInt64.lt_iff_toNat_lt] at positive
    exact absurd (Nat.le_zero.mp readableBytes) (Nat.pos_iff_ne_zero.mp positive)
  simp only [Conversation.send, if_neg pointer, sendBuffer_eq valid state.nextMsgId (by omega),
    found]

theorem isFrame_command {command : Command} (valid : command.Valid)
    (short : command.payloadLen.toNat ≤ 65536) (msgId : UInt32) :
    IsFrame (wireFrame (command.frame msgId)) (command.frame msgId) :=
  isFrame_wireFrame _ (by rw [Command.frame, valid.bytes_length]; exact short)

/-! ### The receiving half -/

/-- What comes before `poll` times out. -/
theorem EopClient.DataOnly.leading_append {pieces : List (Chunk RecvEvent)}
    (dataOnly : DataOnly pieces) (event : RecvEvent) :
    leading (pieces ++ [.event event]) = streamBytes pieces ∧
      streamBytes (pieces ++ [.event event]) = streamBytes pieces := by
  induction pieces with
  | nil => exact ⟨rfl, rfl⟩
  | cons chunk rest ih =>
      have behind := ih fun other member => dataOnly other (List.mem_cons_of_mem _ member)
      cases chunk with
      | event other => exact absurd List.mem_cons_self (dataOnly other)
      | data first more =>
          simp only [List.cons_append, leading, streamBytes, behind.1, behind.2, and_self]

/-- A call that is given one frame before anything else. -/
theorem receiveResponse_leading (frame : Frame) (bounded : frame.payload.length < 2 ^ 32)
    {socket : List (Chunk RecvEvent)} (starts : leading socket = wireFrame frame) :
    ∃ left, receiveResponse true true socket = (.ok (responseOf frame), left) ∧
      streamBytes left = (streamBytes socket).drop (wireFrame frame).length := by
  have size := wireFrame_length frame
  rw [← starts] at size
  obtain ⟨socket1, first, ahead1, remaining1⟩ :=
    recvPhase_leading prefixTexts socket 4 (by omega)
  have length1 : (leading socket1).length = 10 + frame.payload.length := by
    rw [ahead1, List.length_drop]
    omega
  obtain ⟨socket2, second, ahead2, remaining2⟩ :=
    recvPhase_leading headerTexts socket1 10 (by omega)
  have length2 : (leading socket2).length = frame.payload.length := by
    rw [ahead2, List.length_drop]
    omega
  obtain ⟨left, third, _, remaining3⟩ :=
    recvPhase_leading payloadTexts socket2 frame.payload.length length2.ge
  have body : (leading socket).drop 4 = wireHeader frame ++ frame.payload := by
    rw [starts, wireFrame, wireBody, List.drop_left' (be32_length _)]
  have header : (leading socket1).take 10 = wireHeader frame := by
    rw [ahead1, body, List.take_left' (wireHeader_length frame)]
  have payload : (leading socket2).take frame.payload.length = frame.payload := by
    rw [ahead2, ahead1, body, List.drop_left' (wireHeader_length frame), List.take_length]
  rw [header] at second
  rw [payload, ← wordAt_wireHeader_length frame bounded] at third
  refine ⟨left, ?_, ?_⟩
  · rw [receiveResponse_of_reads first second rfl third, wordAt_wireHeader_id]
    rfl
  · rw [remaining3, remaining2, remaining1, List.drop_drop, List.drop_drop, ← starts, size,
      ← Nat.add_assoc]

/-- A call that is given nothing. -/
theorem receiveResponse_silent (payloadAllocated responseAllocated : Bool)
    {pieces : List (Chunk RecvEvent)} (dataOnly : DataOnly pieces)
    (nothing : streamBytes pieces = []) :
    receiveResponse payloadAllocated responseAllocated (pieces ++ [.event .pollTimeout]) =
      (.error ⟨.errTimeout, "Timeout waiting for frame length prefix"⟩, []) := by
  cases pieces with
  | nil => rfl
  | cons chunk rest =>
      cases chunk with
      | event other => exact absurd List.mem_cons_self (dataOnly other)
      | data first more => cases nothing

/-! ### HEARTBEATs are not answered -/

theorem OnlyHeartbeats.strip {all bytes rest : Bytes} {frame : Frame} (only : OnlyHeartbeats all)
    (isFrame : IsFrame bytes frame) (starts : all = bytes ++ rest) :
    frame.messageType = .heartbeat ∧ OnlyHeartbeats rest := by
  cases only with
  | nil =>
      have positive := isFrame.length_pos
      rw [(List.append_eq_nil_iff.mp starts.symm).1] at positive
      exact absurd positive (Nat.lt_irrefl 0)
  | cons first heartbeat others =>
      obtain ⟨rfl, rfl⟩ := first.unique isFrame starts
      exact ⟨heartbeat, List.append_cancel_left starts ▸ others⟩

theorem OnlyHeartbeats.single {bytes : Bytes} {frame : Frame} (isFrame : IsFrame bytes frame)
    (heartbeat : frame.messageType = .heartbeat) : OnlyHeartbeats bytes := by
  have alone := OnlyHeartbeats.cons isFrame heartbeat .nil
  rwa [List.append_nil] at alone

theorem OnlyHeartbeats.append {first second : Bytes} (before : OnlyHeartbeats first)
    (after : OnlyHeartbeats second) : OnlyHeartbeats (first ++ second) := by
  induction before with
  | nil => exact after
  | cons isFrame heartbeat _ ih =>
      rw [List.append_assoc]
      exact .cons isFrame heartbeat ih

/-- **No answers to HEARTBEATs.** -/
theorem Answered.silent {offset : Nat} {bytes : Bytes} {written : List Written}
    (answered : Answered offset bytes written) (rest : Bytes)
    (only : OnlyHeartbeats (bytes ++ rest)) :
    written = [] ∧ OnlyHeartbeats rest := by
  induction answered with
  | nil offset => exact ⟨rfl, only⟩
  | heartbeat isFrame _ _ ih => exact ih (only.strip isFrame (List.append_assoc _ _ _)).2
  | request isFrame type _ _ _ _ =>
      exact absurd (only.strip isFrame (List.append_assoc _ _ _)).1 type

/-- **One answer to one request** that comes last, once the server has nothing left but
HEARTBEATs. -/
theorem Answered.one_answer {front request : Bytes} {frame : Frame} (only : OnlyHeartbeats front)
    (isRequest : IsFrame request frame) (type : frame.messageType ≠ .heartbeat) {offset : Nat}
    {bytes behind : Bytes} {written : List Written} (answered : Answered offset bytes written)
    (pending : bytes ++ behind = front ++ request) (left : OnlyHeartbeats behind) :
    ∃ answer : Frame, written = [⟨some (offset + front.length), wireFrame answer⟩] ∧
      answer.messageId = frame.messageId ∧ answer.payload.length < 2 ^ 32 := by
  induction only generalizing offset bytes behind written with
  | nil =>
      cases answered with
      | nil =>
          have whole : behind = request ++ [] := by rw [List.append_nil]; exact pending
          exact absurd (left.strip isRequest whole).1 type
      | heartbeat isFrame heartbeat _ =>
          rw [List.append_assoc] at pending
          obtain ⟨_, rfl⟩ := isFrame.unique isRequest
            (pending.trans (List.append_nil request).symm)
          exact absurd heartbeat type
      | request isFrame _ id short later =>
          rw [List.append_assoc] at pending
          obtain ⟨rfl, rfl⟩ := isFrame.unique isRequest
            (pending.trans (List.append_nil request).symm)
          have none := List.append_cancel_left (pending.trans (List.append_nil _).symm)
          obtain ⟨rfl, rfl⟩ := List.append_eq_nil_iff.mp none
          obtain ⟨rfl, _⟩ := later.silent [] .nil
          exact ⟨_, rfl, id, short⟩
  | @cons first rest heartbeatFrame isHeartbeat heartbeat _ ih =>
      rw [List.append_assoc] at pending
      cases answered with
      | nil =>
          -- the request itself is among what is left
          obtain ⟨_, impossible, _⟩ := ih (.nil offset) (List.nil_append _)
            (left.strip isHeartbeat pending).2
          cases impossible
      | heartbeat isFrame _ later =>
          rw [List.append_assoc] at pending
          obtain ⟨rfl, _⟩ := isFrame.unique isHeartbeat pending
          obtain ⟨answer, same, id, short⟩ := ih later (List.append_cancel_left pending) left
          refine ⟨answer, ?_, id, short⟩
          rw [same, List.length_append, Nat.add_assoc]
      | request isFrame other _ _ _ =>
          rw [List.append_assoc] at pending
          obtain ⟨_, rfl⟩ := isFrame.unique isHeartbeat pending
          exact absurd heartbeat other

/-! ### What the server has written -/

/-- The welcome first, and then the answers to all that has been read. -/
structure Replied (exchange : Exchange) : Prop where
  unread : exchange.written = [] → exchange.served = 0
  welcome : ∀ first answers, exchange.written = first :: answers →
    ∃ framed : Frame, first = ⟨none, wireFrame framed⟩ ∧ framed.messageType = .ack ∧
      framed.payload.length < 2 ^ 32
  answered : Answered 0 (exchange.sent.take exchange.served) exchange.written.tail

/-- **One step of the server** answers what it reads. -/
theorem Replied.server {exchange after : Exchange} {world next : World} {event : Event}
    {output : Option (Nat × Reply)} {socket : List (Chunk Errno)} (replied : Replied exchange)
    (consistent : Consistent world exchange)
    (taken : step codec config world event = some (output, next))
    (followed : exchange.follow codec event output socket = some after) : Replied after := by
  rcases Exchange.follow_cases taken followed with ⟨rfl, _⟩ |
    ⟨conn, framed, ours, action, ack, short, rfl⟩ |
    ⟨conn, frame, listing, bytes, more, ours, action, _, starts, answers, rfl⟩
  · exact replied
  · have nothing := consistent.unwelcomed taken ours action
    refine ⟨?_, ?_, ?_⟩
    · intro none
      exact absurd none (by simp)
    · intro first answers same
      rw [nothing] at same
      cases same
      exact ⟨framed, rfl, ack, short⟩
    · have answered := replied.answered
      rw [nothing] at answered
      simp only [nothing]
      exact answered
  · obtain ⟨first, answers', written⟩ :=
      List.exists_cons_of_ne_nil (consistent.welcomed taken ours action)
    refine ⟨?_, ?_, ?_⟩
    · intro none
      exact absurd none (by simp [written])
    · intro other answers same
      rw [written] at same
      cases same
      exact replied.welcome first answers' written
    · obtain ⟨rest, split⟩ := starts
      have read : exchange.sent.take (exchange.served + bytes.length) =
          exchange.sent.take exchange.served ++ bytes := by
        rw [List.take_add, ← Exchange.unserved, ← split, List.take_left]
      have answered := replied.answered
      rw [written] at answered
      simp only [read, written, List.cons_append, List.tail_cons]
      refine answered.append ?_
      rw [Nat.zero_add, List.length_take, Nat.min_eq_left consistent.served_le]
      exact answers

theorem Replied.sendMore {exchange : Exchange} (replied : Replied exchange)
    (bound : exchange.served ≤ exchange.sent.length) (bytes : Bytes) :
    Replied { exchange with sent := exchange.sent ++ bytes } := by
  refine { replied with answered := ?_ }
  simp only [List.take_append_of_le_length bound]
  exact replied.answered

/-- What the server does not touch. -/
theorem Exchange.follow_keeps {exchange after : Exchange} {world next : World} {event : Event}
    {output : Option (Nat × Reply)} {socket : List (Chunk Errno)}
    (taken : step codec config world event = some (output, next))
    (followed : exchange.follow codec event output socket = some after) :
    after.sent = exchange.sent ∧ after.taken = exchange.taken := by
  rcases Exchange.follow_cases taken followed with ⟨rfl, _⟩ | ⟨_, _, _, _, _, _, rfl⟩ |
    ⟨_, _, _, _, _, _, _, _, _, _, rfl⟩
  · exact ⟨rfl, rfl⟩
  · exact ⟨rfl, rfl⟩
  · exact ⟨rfl, rfl⟩

/-- **A settled connection stays settled** while the server goes on. -/
theorem settled_server {exchange after : Exchange} {world next : World} {event : Event}
    {output : Option (Nat × Reply)} {socket : List (Chunk Errno)}
    (consistent : Consistent world exchange) (welcomed : exchange.written ≠ [])
    (only : OnlyHeartbeats exchange.unserved)
    (taken : step codec config world event = some (output, next))
    (followed : exchange.follow codec event output socket = some after) :
    after.written = exchange.written ∧ OnlyHeartbeats after.unserved := by
  rcases Exchange.follow_cases taken followed with ⟨rfl, _⟩ |
    ⟨conn, framed, ours, action, _, _, rfl⟩ |
    ⟨conn, frame, listing, bytes, more, ours, action, _, starts, answers, rfl⟩
  · exact ⟨rfl, only⟩
  · exact absurd (consistent.unwelcomed taken ours action) welcomed
  · obtain ⟨rest, split⟩ := starts
    rw [← split] at only
    obtain ⟨rfl, left⟩ := answers.silent rest only
    refine ⟨List.append_nil _, ?_⟩
    rw [Exchange.unserved, ← List.drop_drop, ← Exchange.unserved, ← split, List.drop_left]
    exact left

/-! ### Between the calls and during a call -/

/-- The connection between two calls: untouched before the first, and settled after it. -/
def Rested (calls : List (Conversation × Command)) (state : Conversation) : Prop :=
  match calls with
  | [] => ∃ exchange, state.exchange = some exchange ∧ exchange.sent = [] ∧ exchange.taken = 0
  | _ :: _ => Settled state

theorem Rested.connected {calls : List (Conversation × Command)} {state : Conversation}
    (rested : Rested calls state) : ∃ exchange, state.exchange = some exchange := by
  cases calls with
  | nil =>
      obtain ⟨exchange, found, _⟩ := rested
      exact ⟨exchange, found⟩
  | cons first others =>
      obtain ⟨exchange, found, _⟩ := rested
      exact ⟨exchange, found⟩

theorem Rested.kept {calls : List (Conversation × Command)} {state next : Conversation}
    (rested : Rested calls state) {exchange after : Exchange}
    (found : state.exchange = some exchange) (moved : next.exchange = some after)
    (sent : after.sent = exchange.sent) (taken : after.taken = exchange.taken)
    (settled : exchange.written ≠ [] → OnlyHeartbeats exchange.unserved →
      after.written = exchange.written ∧ OnlyHeartbeats after.unserved) : Rested calls next := by
  cases calls with
  | nil =>
      obtain ⟨_, same, unsent, untaken⟩ := rested
      cases found.symm.trans same
      exact ⟨after, moved, sent.trans unsent, taken.trans untaken⟩
  | cons first others =>
      obtain ⟨_, same, welcomed, caught, only⟩ := rested
      cases found.symm.trans same
      obtain ⟨written, left⟩ := settled welcomed only
      exact ⟨after, moved, written ▸ welcomed, by rw [taken, caught, written], left⟩

/-- Where the handle is in a run in which nothing goes wrong. -/
structure InStep (trace : List Turn) (state : Conversation) : Prop where
  replied : ∀ exchange ∈ state.exchange, Replied exchange
  idle : state.calling = none → Rested (callsBegun trace) state
  busy : ∀ call ∈ state.calling, ∃ calls before command,
    callsBegun trace = calls ++ [(before, command)] ∧ command.Valid ∧
      command.payloadLen.toNat ≤ 65536 ∧ Rested calls before

/-- A call that receives what it is owed: it returns the one frame there is to read, or nothing. -/
structure Receives (turn : Turn) (exchange : Exchange) : Prop where
  connected : turn.before.exchange = some exchange
  welcomed : exchange.written ≠ []
  only : OnlyHeartbeats exchange.unserved
  returns : ∀ frame : Frame, frame.payload.length < 2 ^ 32 → exchange.unread = wireFrame frame →
    turn.output = some (.ok (responseOf frame)) ∧ turn.after.exchange =
      some { exchange with taken := exchange.taken + (wireFrame frame).length }
  silent : exchange.unread = [] →
    turn.output = some (.error ⟨.errTimeout, "Timeout waiting for frame length prefix"⟩) ∧
      turn.after.exchange = turn.before.exchange

theorem receives_of_undisturbed {turn : Turn} {payloadAllocated responseAllocated : Bool}
    {socket : List (Chunk RecvEvent)}
    (receive : turn.event = .receive payloadAllocated responseAllocated socket)
    (taken : converse codec config turn.before turn.event = some (turn.output, turn.after))
    (undisturbed : Undisturbed turn) :
    ∃ call exchange, turn.before.calling = some call ∧ turn.after.calling = none ∧
      Receives turn exchange := by
  obtain ⟨state, _, output, next⟩ := turn
  subst receive
  dsimp only at taken
  obtain ⟨rfl, rfl, exchange, pieces, found, welcomed, only, dataOnly, arrives, rfl⟩ := undisturbed
  obtain ⟨call, _, result, left, calling, connected, _, received, rfl, rfl⟩ :=
    converse_receive taken
  cases found.symm.trans connected
  obtain ⟨ahead, all⟩ := dataOnly.leading_append .pollTimeout
  refine ⟨call, exchange, calling, rfl, found, welcomed, only, ?_, ?_⟩
  · intro frame bounded one
    obtain ⟨left', returned, remaining⟩ :=
      receiveResponse_leading frame bounded (ahead.trans (arrives.trans one))
    cases received.symm.trans returned
    refine ⟨rfl, ?_⟩
    rw [remaining, all, arrives, one, List.drop_length]
    rfl
  · intro nothing
    have timeout := receiveResponse_silent true true dataOnly (arrives.trans nothing)
    cases received.symm.trans timeout
    refine ⟨rfl, ?_⟩
    rw [all, arrives, nothing]
    exact found.symm

section Receiving

variable {trace : List Turn} {call : Call} {exchange start : Exchange} {before : Conversation}
  {command : Command} {buffer : Bytes} {turn : Turn}

/-- **The first call** returns the welcome. -/
theorem Receives.first (receives : Receives turn exchange) (replied : Replied exchange)
    (waiting : Waiting trace call exchange before command start buffer)
    (rested : Rested [] before) (only : OnlyHeartbeats buffer) :
    Drains [] command turn ∧ Settled turn.after := by
  obtain ⟨_, connected, unsent, untaken⟩ := rested
  cases waiting.connected.symm.trans connected
  obtain ⟨welcome, answers, written⟩ := List.exists_cons_of_ne_nil receives.welcomed
  obtain ⟨frame, rfl, ack, bounded⟩ := replied.welcome _ _ written
  have sent := waiting.progress.sent
  rw [unsent, List.nil_append] at sent
  have silent : answers = [] := by
    have answered := replied.answered
    rw [written, List.tail_cons] at answered
    refine (answered.silent (exchange.sent.drop exchange.served) ?_).1
    rwa [List.take_append_drop, sent]
  subst silent
  have taken : exchange.taken = 0 := waiting.progress.taken.trans untaken
  have unread : exchange.unread = wireFrame frame := by
    rw [Exchange.unread, written, taken]
    exact List.append_nil _
  obtain ⟨output, after⟩ := receives.returns frame bounded unread
  rw [taken, Nat.zero_add] at after
  refine ⟨⟨exchange, _, frame, receives.connected, after, written, ack, taken, rfl, output⟩,
    _, after, receives.welcomed, ?_, receives.only⟩
  rw [written]
  simp [streamOf]

/-- What a later call finds: the answers to its command and to what was pending before it. -/
theorem Waiting.owed (waiting : Waiting trace call exchange before command start buffer)
    (started : start.written ≠ []) (caught : start.taken = (streamOf start.written).length) :
    ∃ bytes more, exchange.written = start.written ++ more ∧ exchange.unread = streamOf more ∧
      bytes ++ exchange.unserved = start.unserved ++ buffer ∧
      Answered start.served bytes more := by
  obtain ⟨bytes, more, grown, served, ⟨behind, split⟩, answered⟩ :=
    waiting.progress.answers started
  refine ⟨bytes, more, grown, ?_, ?_, answered⟩
  · rw [Exchange.unread, grown, waiting.progress.taken, caught, streamOf_append, List.drop_left]
  · have unserved : exchange.unserved = behind := by
      rw [Exchange.unserved, waiting.progress.sent, served, ← List.drop_drop, ← split,
        List.drop_left]
    rw [unserved, split, Exchange.unserved,
      List.drop_append_of_le_length waiting.consistent.served_le]

/-- **A later HEARTBEAT** times out. -/
theorem Receives.heartbeat (receives : Receives turn exchange)
    (waiting : Waiting trace call exchange before command start buffer)
    (settled : Settled before) (only : OnlyHeartbeats buffer) :
    (turn.output = some (.error ⟨.errTimeout, "Timeout waiting for frame length prefix"⟩) ∧
      turn.after.exchange = turn.before.exchange) ∧ Settled turn.after := by
  obtain ⟨_, connected, started, caught, pending⟩ := settled
  cases waiting.connected.symm.trans connected
  obtain ⟨bytes, more, grown, unread, split, answered⟩ := waiting.owed started caught
  obtain ⟨rfl, _⟩ := answered.silent exchange.unserved (split ▸ pending.append only)
  have returned := receives.silent unread
  refine ⟨returned, exchange, returned.2.trans receives.connected, receives.welcomed, ?_,
    receives.only⟩
  rw [waiting.progress.taken, caught, grown, List.append_nil]

/-- **Any other later call** returns the answer to its command. -/
theorem Receives.request (receives : Receives turn exchange)
    (waiting : Waiting trace call exchange before command start buffer)
    (calling : turn.before.calling = some call) (settled : Settled before) {frame : Frame}
    (isFrame : IsFrame buffer frame) (type : frame.messageType ≠ .heartbeat)
    (id : frame.messageId = before.nextMsgId) :
    (∃ response, turn.output = some (.ok response) ∧
      AnswersCall turn.before turn.after response) ∧ Settled turn.after := by
  obtain ⟨_, connected, started, caught, pending⟩ := settled
  cases waiting.connected.symm.trans connected
  obtain ⟨bytes, more, grown, unread, split, answered⟩ := waiting.owed started caught
  obtain ⟨answer, rfl, answerId, bounded⟩ :=
    answered.one_answer pending isFrame type split receives.only
  obtain ⟨output, after⟩ := receives.returns answer bounded (unread.trans (List.append_nil _))
  refine ⟨⟨_, output, _, answer, ⟨call, exchange, _, start.written, [], calling,
    receives.connected, after, grown, ?_, waiting.progress.taken.trans caught, rfl, ?_⟩, rfl, rfl⟩,
    _, after, receives.welcomed, ?_, receives.only⟩
  · exact congrArg some waiting.offset_eq
  · rw [waiting.call_eq]
    exact answerId.trans id
  · rw [grown, streamOf_append, List.length_append, waiting.progress.taken, caught]
    simp [streamOf]

end Receiving

/-! ### Runs -/

section Runs

variable {world : World} {nextMsgId : UInt32} {trace : List Turn} {state : Conversation}

/-- **The receiving half of a call** in such a run. -/
theorem InStep.drains
    (run : Run (converse codec config) (.justConnected world nextMsgId) trace state)
    (inStep : InStep trace state) (heartbeatFirst : HeartbeatFirst trace) {turn : Turn}
    (here : turn.before = state) {payloadAllocated responseAllocated : Bool}
    {socket : List (Chunk RecvEvent)}
    (receive : turn.event = .receive payloadAllocated responseAllocated socket)
    (taken : converse codec config turn.before turn.event = some (turn.output, turn.after))
    (undisturbed : Undisturbed turn) :
    ∃ calls before command, callsBegun trace = calls ++ [(before, command)] ∧
      Drains calls command turn ∧ Settled turn.after := by
  subst here
  obtain ⟨call, exchange, calling, _, receives⟩ := receives_of_undisturbed receive taken undisturbed
  obtain ⟨calls, before, command, begun, valid, short, rested⟩ := inStep.busy call calling
  obtain ⟨_, before', command', start, buffer, found, waiting⟩ := waiting_of_run
    (fun _ fresh => by cases fresh; exact consistent_fresh world) rfl run calling
  cases receives.connected.symm.trans found
  have same := waiting.begun
  rw [latest_eq_getLast, ← callsBegun, begun, List.getLast?_concat] at same
  cases same
  have framed := waiting.framed
  rw [sendBuffer_eq valid _ (by omega)] at framed
  cases framed
  have isFrame := isFrame_command valid short before.nextMsgId
  refine ⟨calls, before, command, begun, ?_⟩
  cases calls with
  | nil =>
      refine receives.first (inStep.replied exchange found) waiting rested (.single isFrame ?_)
      exact heartbeatFirst (before, command) (by rw [begun]; rfl)
  | cons first others =>
      by_cases heartbeat : command.msgType.toUInt8 = MessageType.heartbeat
      · simp only [Drains, if_pos heartbeat]
        exact receives.heartbeat waiting rested (.single isFrame heartbeat)
      · simp only [Drains, if_neg heartbeat]
        exact receives.request waiting calling rested isFrame heartbeat rfl

/-- **One step** of such a run. -/
theorem InStep.step
    (run : Run (converse codec config) (.justConnected world nextMsgId) trace state)
    (inStep : InStep trace state) {happening : Happening}
    {output : Option (Except ClientError Response)} {next : Conversation}
    (taken : converse codec config state happening = some (output, next))
    (undisturbed : Undisturbed ⟨state, happening, output, next⟩)
    (heartbeatFirst : HeartbeatFirst trace) :
    InStep (trace ++ [⟨state, happening, output, next⟩]) next := by
  have consistent := consistent_of_run
    (fun _ fresh => by cases fresh; exact consistent_fresh world) run
  cases happening with
  | connected => exact undisturbed.elim
  | disconnected => exact undisturbed.elim
  | command command outcome =>
      obtain ⟨idle, sent⟩ := converse_command taken
      obtain ⟨rfl, valid, short⟩ := undisturbed
      have rested := inStep.idle idle
      obtain ⟨exchange, found⟩ := rested.connected
      rw [Conversation.send_whole valid short found] at sent
      cases sent
      refine ⟨?_, nofun, ?_⟩
      · rintro _ ⟨⟩
        exact (inStep.replied exchange found).sendMore (consistent exchange found).served_le _
      · rintro call -
        exact ⟨callsBegun trace, state, command, callsBegun_concat trace _, valid, short, rested⟩
  | receive payloadAllocated responseAllocated socket =>
      obtain ⟨calls, before, command, begun, _, settled⟩ :=
        inStep.drains run heartbeatFirst rfl rfl taken undisturbed
      obtain ⟨_, exchange, _, _, _, found, _, _, _, rfl⟩ := converse_receive taken
      refine ⟨?_, fun _ => ?_, nofun⟩
      · rintro _ ⟨⟩
        have replied := inStep.replied exchange found
        exact ⟨replied.unread, replied.welcome, replied.answered⟩
      · rw [callsBegun_concat, begun]
        cases calls <;> exact settled
  | accepted now =>
      have same := (callsBegun_concat trace ⟨state, .accepted now, output, next⟩).trans
        (List.append_nil _)
      obtain ⟨exchange, after, found, _, _, rfl⟩ := converse_accepted taken
      refine ⟨?_, fun idle => ?_, same ▸ inStep.busy⟩
      · rintro _ ⟨⟩
        have replied := inStep.replied exchange found
        exact ⟨replied.unread, replied.welcome, replied.answered⟩
      · rw [same]
        exact (inStep.idle idle).kept found rfl rfl rfl fun _ only => ⟨rfl, only⟩
  | server event socket =>
      have same := (callsBegun_concat trace ⟨state, .server event socket, output, next⟩).trans
        (List.append_nil _)
      obtain ⟨_, after, stepped, ⟨none, rfl⟩ | ⟨exchange, moved, found, followed, rfl⟩⟩ :=
        converse_server taken
      · refine ⟨fun _ found => ?_, fun idle => ?_, same ▸ inStep.busy⟩
        · cases none.symm.trans found
        · obtain ⟨_, found⟩ := (inStep.idle idle).connected
          cases none.symm.trans found
      · have before := consistent exchange found
        refine ⟨?_, fun idle => ?_, same ▸ inStep.busy⟩
        · rintro _ ⟨⟩
          exact (inStep.replied exchange found).server before stepped followed
        · rw [same]
          obtain ⟨sent, read⟩ := Exchange.follow_keeps stepped followed
          exact (inStep.idle idle).kept found rfl sent read fun welcomed only =>
            settled_server before welcomed only stepped followed

theorem inStep_of_run
    (run : Run (converse codec config) (.justConnected world nextMsgId) trace state)
    (undisturbed : ∀ turn ∈ trace, Undisturbed turn) (heartbeatFirst : HeartbeatFirst trace) :
    InStep trace state := by
  induction run with
  | nil =>
      refine ⟨?_, fun _ => ⟨.fresh, rfl, rfl, rfl⟩, nofun⟩
      rintro _ ⟨⟩
      exact ⟨fun _ => rfl, nofun, .nil 0⟩
  | snoc previous taken ih =>
      have before := ih (fun turn member => undisturbed turn (List.mem_append_left _ member))
        heartbeatFirst.earlier
      exact before.step previous taken
        (undisturbed _ (List.mem_append_right _ List.mem_cons_self)) heartbeatFirst.earlier

end Runs

/-- **The welcome is drained.** In every run of a new connection in which nothing goes wrong and the
first call is a HEARTBEAT, every command goes out and its call waits; the first call returns the
welcome, every later HEARTBEAT times out having read nothing, and every other call returns the
answer to its own command, with its id. -/
theorem welcome_drained {world : World} {nextMsgId : UInt32} {trace : List Turn}
    {finish : Conversation}
    (run : Run (converse codec config) (.justConnected world nextMsgId) trace finish)
    (undisturbed : ∀ turn ∈ trace, Undisturbed turn) (heartbeatFirst : HeartbeatFirst trace) :
    ∀ earlier turn later, trace = earlier ++ turn :: later →
      match turn.event with
      | .command command _ => callBegun turn = some (turn.before, command)
      | .receive _ _ _ => ∃ calls before command,
          callsBegun earlier = calls ++ [(before, command)] ∧ Drains calls command turn
      | _ => True := by
  rintro earlier turn later rfl
  obtain ⟨before, taken, _⟩ := run.cut
  have inStep := inStep_of_run before
    (fun other member => undisturbed other (List.mem_append_left _ member)) heartbeatFirst.earlier
  have here := undisturbed turn (by simp)
  split
  · rename_i command outcome event
    rw [event] at taken
    obtain ⟨idle, sent⟩ := converse_command taken
    rw [Undisturbed, event] at here
    obtain ⟨rfl, valid, short⟩ := here
    obtain ⟨exchange, found⟩ := (inStep.idle idle).connected
    rw [Conversation.send_whole valid short found] at sent
    obtain ⟨_, after⟩ := Prod.mk.inj (Option.some.inj sent)
    rw [callBegun, event, ← after]
    rfl
  · rename_i receive
    obtain ⟨calls, before, command, begun, drains, _⟩ :=
      inStep.drains before heartbeatFirst.earlier rfl receive taken here
    exact ⟨calls, before, command, begun, drains⟩
  · trivial

/-- A step in which nothing goes wrong and the server has read all there is. -/
def prompt (turn : Turn) : Bool :=
  match turn.event with
  | .connected | .disconnected => false
  | .command command .whole =>
      decide (eopRegister ≤ command.msgType ∧ command.msgType ≤ eopEdgeTelemetry) &&
        decide (command.payloadLen.toNat ≤ (command.payload.getD []).length) &&
        decide (command.payloadLen.toNat ≤ 65536)
  | .command _ _ => false
  | .receive payloadAllocated responseAllocated socket =>
      payloadAllocated && responseAllocated &&
        match turn.before.exchange with
        | some exchange => !exchange.written.isEmpty && exchange.unserved.isEmpty &&
            decide (socket = putBack exchange.unread [] ++ [.event .pollTimeout])
        | none => false
  | .accepted _ | .server _ _ => true

theorem undisturbed_of_prompt {turn : Turn} (soon : prompt turn = true) : Undisturbed turn := by
  unfold prompt at soon
  unfold Undisturbed
  split at soon
  · cases soon
  · cases soon
  · rename_i command event
    simp only [Bool.and_eq_true, decide_eq_true_eq] at soon
    rw [event]
    exact ⟨rfl, ⟨soon.1.1, soon.1.2⟩, soon.2⟩
  · cases soon
  · rename_i payloadAllocated responseAllocated socket event
    simp only [Bool.and_eq_true] at soon
    obtain ⟨allocated, given⟩ := soon
    split at given
    · rename_i exchange found
      simp only [Bool.and_eq_true, decide_eq_true_eq, Bool.not_eq_true', List.isEmpty_iff,
        List.isEmpty_eq_false_iff] at given
      obtain ⟨⟨welcomed, served⟩, arrives⟩ := given
      rw [event]
      refine ⟨allocated.1, allocated.2, exchange, putBack exchange.unread [], found, welcomed,
        served ▸ .nil, ?_, ?_, arrives⟩
      · cases exchange.unread <;> simp [DataOnly, putBack]
      · rw [streamBytes_putBack]
        exact List.append_nil _
    · cases given
  · rename_i event
    rw [event]
    trivial
  · rename_i event
    rw [event]
    trivial

/-- A call that receives all there is, and the calls before it. -/
def thenReceive (events : List Happening) : List Happening :=
  let state := execFinal (converse Json.flatCodec .default) (.justConnected (.boot .empty) 0) events
  events ++ [.receive true true (arriving state ++ [.event .pollTimeout])]

/-- A HEARTBEAT, a REGISTER and a HEARTBEAT on a new connection. -/
def drainedRun : List Happening :=
  let heartbeat : Command := ⟨0x06, none, 0⟩
  let greeted := thenReceive [.accepted 0, .server ⟨1, .welcome 0 true⟩ [],
    .server ⟨2, .configure 0 true⟩ [], .command heartbeat .whole,
    .server ⟨3, .frame 0 ⟨.heartbeat, 0, []⟩ []⟩ (putBack (wireFrame ⟨.heartbeat, 0, []⟩) [])]
  let registered := thenReceive (greeted ++ [.command registerCommand .whole,
    .server ⟨4, .frame 0 (registerCommand.frame 1) []⟩
      (putBack (wireFrame (registerCommand.frame 1)) [])])
  thenReceive (registered ++ [.command heartbeat .whole,
    .server ⟨5, .frame 0 ⟨.heartbeat, 2, []⟩ []⟩ (putBack (wireFrame ⟨.heartbeat, 2, []⟩) [])])

/-- The three calls return the welcome (id 1), the answer to the REGISTER (sent with id 1) and a
timeout. -/
theorem welcome_drained_register :
    ∃ trace finish,
      Run (converse Json.flatCodec .default) (.justConnected (.boot .empty) 0) trace finish ∧
      (∀ turn ∈ trace, Undisturbed turn) ∧ HeartbeatFirst trace ∧
      trace.filterMap (fun turn => turn.output.map fun result => result.toOption.map
        Response.msgId) = [some 1, some 1, none] ∧
      ∀ earlier turn later, trace = earlier ++ turn :: later →
        match turn.event with
        | .command command _ => callBegun turn = some (turn.before, command)
        | .receive _ _ _ => ∃ calls before command,
            callsBegun earlier = calls ++ [(before, command)] ∧ Drains calls command turn
        | _ => True := by
  let machine := converse Json.flatCodec .default
  let start := Conversation.justConnected (.boot .empty) 0
  let trace := execTrace machine start drainedRun
  have facts : (exec machine start drainedRun).isSome = true ∧ trace.all prompt = true ∧
      ((callsBegun trace).head?.map fun first => first.2.msgType) = some 6 ∧
      trace.filterMap (fun turn => turn.output.map fun result => result.toOption.map
        Response.msgId) = [some 1, some 1, none] := by decide +kernel
  obtain ⟨possible, soon, first, returned⟩ := facts
  have undisturbed : ∀ turn ∈ trace, Undisturbed turn := fun turn member =>
    undisturbed_of_prompt (List.all_eq_true.mp soon turn member)
  have heartbeatFirst : HeartbeatFirst trace := by
    intro begun member
    rw [member] at first
    have type : begun.2.msgType = 6 := Option.some.inj first
    rw [type]
    rfl
  exact ⟨trace, _, run_of_possible possible, undisturbed, heartbeatFirst, returned,
    welcome_drained (run_of_possible possible) undisturbed heartbeatFirst⟩

end ExodusOps
