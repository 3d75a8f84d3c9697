/-
**Calls that fail in the middle of a frame.**

`eopSendCommand` is a whole call of `eop_send_command` on a connection, of which `socket` is all
that `poll` and `recv` will still deliver. A call that gives up keeps what it has read of a frame to
itself, and the next call starts where it stopped. So the responses of a handle are whole frames of
the server as long as every call gets a frame whole or not at all (`responses_whole_of_unbroken`);
`payload_returned_as_frame` is a call that times out between header and payload, and the next one,
which returns a frame the server never sent.
-/

import ExodusOps.Client.Conversation
import ExodusOps.Wire.Grammar

namespace ExodusOps

open EopClient MessageSerializer

/-! ### The calls on a handle -/

/-- `eop_send_command`: what it returns, the next message id, and what is left on the socket. -/
def eopSendCommand (nextMsgId : UInt32) (command : Command) (outcome : SendOutcome)
    (payloadAllocated responseAllocated : Bool) (socket : List (Chunk RecvEvent)) :
    Option (Except ClientError Response × UInt32 × List (Chunk RecvEvent)) :=
  if command.payload = none ∧ command.payloadLen > 0 then
    some (.error ⟨.errInvalidArgument, "Payload is NULL but payload_len > 0"⟩, nextMsgId, socket)
  else
    match outcome, sendBuffer command nextMsgId with
    | .allocFailed, _ =>
        some (.error ⟨.errAlloc, "Failed to allocate send buffer"⟩, nextMsgId + 1, socket)
    | _, none => none
    | _, some (.error code) =>
        some (.error ⟨code, "Failed to serialize envelope"⟩, nextMsgId + 1, socket)
    | .failed count, some (.ok buffer) =>
        if count < buffer.length then
          some (.error ⟨.errDisconnected, "Send failed"⟩, nextMsgId + 1, socket)
        else none
    | .whole, some (.ok _) =>
        let (result, left) := receiveResponse payloadAllocated responseAllocated socket
        some (result, nextMsgId + 1, left)

/-- A handle, and what its connection will still deliver. -/
structure Handle where
  nextMsgId : UInt32
  socket : List (Chunk RecvEvent)
  deriving DecidableEq

/-- A call: its arguments, how its sends end and whether its allocations succeed. -/
structure Attempt where
  command : Command
  outcome : SendOutcome
  payloadAllocated : Bool
  responseAllocated : Bool

/-- One call on a handle. -/
def Handle.call (handle : Handle) (attempt : Attempt) :
    Option (Except ClientError Response × Handle) :=
  (eopSendCommand handle.nextMsgId attempt.command attempt.outcome attempt.payloadAllocated
    attempt.responseAllocated handle.socket).map fun (result, nextMsgId, socket) =>
      (result, ⟨nextMsgId, socket⟩)

/-- The call sends its command and waits for the answer. -/
def Handle.Waits (handle : Handle) (attempt : Attempt) : Prop :=
  ¬ (attempt.command.payload = none ∧ attempt.command.payloadLen > 0) ∧
    attempt.outcome = .whole ∧
    ∃ buffer, sendBuffer attempt.command handle.nextMsgId = some (.ok buffer)

/-- **A call waits for its answer or leaves the socket alone.** -/
theorem Handle.call_cases {handle next : Handle} {attempt : Attempt}
    {result : Except ClientError Response} (called : handle.call attempt = some (result, next)) :
    (handle.Waits attempt ∧ receiveResponse attempt.payloadAllocated attempt.responseAllocated
      handle.socket = (result, next.socket)) ∨
    (next.socket = handle.socket ∧ ∃ failure, result = .error failure) := by
  obtain ⟨⟨returned, nextMsgId, socket⟩, sent, same⟩ := Option.map_eq_some_iff.mp called
  cases same
  unfold eopSendCommand at sent
  split_ifs at sent with null
  · cases sent
    exact .inr ⟨rfl, _, rfl⟩
  · split at sent
    · cases sent
      exact .inr ⟨rfl, _, rfl⟩
    · cases sent
    · cases sent
      exact .inr ⟨rfl, _, rfl⟩
    · split_ifs at sent
      cases sent
      exact .inr ⟨rfl, _, rfl⟩
    · rename_i buffer outcome framed
      cases sent
      exact .inl ⟨⟨null, outcome, buffer, framed⟩, rfl⟩

/-! ### One call at the beginning of a frame -/

theorem phaseFailure_ends (texts : PhaseTexts) (event : RecvEvent) :
    phaseFailure texts event ≠ none := by
  cases event <;> simp [phaseFailure]

/-- A phase that gets its bytes before anything else happens. -/
theorem recvPhase_leading (texts : PhaseTexts) (socket : List (Chunk RecvEvent)) (count : Nat)
    (enough : count ≤ (leading socket).length) :
    ∃ left, recvPhase texts socket count = (.ok ((leading socket).take count), left) ∧
      leading left = (leading socket).drop count ∧
      streamBytes left = (streamBytes socket).drop count :=
  readExact_leading _ _ socket count enough

/-- A phase that does not. -/
theorem recvPhase_leading_short (texts : PhaseTexts) (socket : List (Chunk RecvEvent))
    (count : Nat) (short : (leading socket).length < count) :
    ∃ failure left, recvPhase texts socket count = (.error failure, left) ∧
      streamBytes left = (streamBytes socket).drop (leading socket).length :=
  readExact_leading_short (phaseFailure_ends texts) _ socket count short

/-- **Nothing breaks off a frame.** Where the call waits, no byte arrives before it gives up; or the
whole frame arrives, or all that ever will, and a payload finds memory. The frame is the one whose
header the next fourteen bytes are. -/
def Unbroken (handle : Handle) (attempt : Attempt) : Prop :=
  handle.Waits attempt →
    let arriving := (leading handle.socket).length
    let coming := (streamBytes handle.socket).length
    let size := 14 + (wordAt (streamBytes handle.socket) 10).toNat
    arriving = 0 ∨ ((size ≤ arriving ∨ arriving = coming) ∧
      (attempt.payloadAllocated = true ∨ size = 14 ∨ coming ≤ 14))

/-- Bytes that begin a frame, once enough of them have come. -/
theorem split_wireFrame {bytes rest : Bytes} {frame : Frame}
    (starts : bytes <+: wireFrame frame ++ rest)
    (whole : 14 + frame.payload.length ≤ bytes.length) :
    bytes = wireFrame frame ++ bytes.drop (14 + frame.payload.length) := by
  have front : bytes.take (14 + frame.payload.length) = wireFrame frame := by
    rw [List.prefix_iff_eq_take.mp starts, List.take_take, Nat.min_eq_left whole,
      List.take_left' (wireFrame_length frame)]
  rw [← front, List.take_append_drop]

theorem header_of_starts {bytes rest : Bytes} {frame : Frame}
    (starts : bytes <+: wireFrame frame ++ rest) (enough : 14 ≤ bytes.length) :
    (bytes.drop 4).take 10 = wireHeader frame := by
  obtain ⟨later, whole⟩ := starts
  have front : ((bytes ++ later).drop 4).take 10 = (bytes.drop 4).take 10 := by
    rw [List.drop_append_of_le_length (by omega),
      List.take_append_of_le_length (by rw [List.length_drop]; omega)]
  rw [← front, whole, wireFrame, wireBody, List.append_assoc, List.append_assoc,
    List.drop_left' (be32_length _), List.take_left' (wireHeader_length frame)]

/-- **Where a call stops** that began with a frame, if nothing broke it off: where it began, behind
the frame, or at the end of all. -/
theorem receiveResponse_stops (payloadAllocated responseAllocated : Bool)
    {socket : List (Chunk RecvEvent)} (frame : Frame) (bounded : frame.payload.length < 2 ^ 32)
    {rest : Bytes} (starts : streamBytes socket <+: wireFrame frame ++ rest)
    (unbroken : (leading socket).length = 0 ∨
      ((14 + frame.payload.length ≤ (leading socket).length ∨
        (leading socket).length = (streamBytes socket).length) ∧
      (payloadAllocated = true ∨ frame.payload.length = 0 ∨ (streamBytes socket).length ≤ 14))) :
    let left := (receiveResponse payloadAllocated responseAllocated socket).2
    streamBytes left = streamBytes socket ∨ streamBytes left = [] ∨
      streamBytes socket = wireFrame frame ++ streamBytes left := by
  have inside := (leading_starts socket).length_le
  rcases Nat.lt_or_ge (leading socket).length 4 with short | four
  · obtain ⟨failure, left, first, remaining⟩ := recvPhase_leading_short prefixTexts socket 4 short
    simp only [receiveResponse, first, remaining]
    rcases unbroken with none | ⟨big | all, _⟩
    · exact .inl (by rw [none, List.drop_zero])
    · omega
    · exact .inr (.inl (List.drop_eq_nil_of_le all.ge))
  obtain ⟨socket1, first, ahead1, remaining1⟩ := recvPhase_leading prefixTexts socket 4 four
  have length1 : (leading socket1).length = (leading socket).length - 4 := by
    rw [ahead1, List.length_drop]
  rcases Nat.lt_or_ge (leading socket).length 14 with short | fourteen
  · obtain ⟨failure, left, second, remaining⟩ :=
      recvPhase_leading_short headerTexts socket1 10 (by omega)
    simp only [receiveResponse, first, second, remaining, remaining1, length1, List.drop_drop]
    rcases unbroken with none | ⟨big | all, _⟩
    · omega
    · omega
    · exact .inr (.inl (List.drop_eq_nil_of_le (by omega)))
  obtain ⟨socket2, second, ahead2, remaining2⟩ :=
    recvPhase_leading headerTexts socket1 10 (by omega)
  have length2 : (leading socket2).length = (leading socket).length - 14 := by
    rw [ahead2, List.length_drop]
    omega
  have header : (leading socket1).take 10 = wireHeader frame := by
    rw [ahead1]
    exact header_of_starts ((leading_starts socket).trans starts) fourteen
  have behind : streamBytes socket2 = (streamBytes socket).drop 14 := by
    rw [remaining2, remaining1, List.drop_drop]
  have version : (wireHeader frame).getD 0 0 = eopProtocolVersion := rfl
  rw [header] at second
  simp only [receiveResponse, first, second, version, ne_eq, not_true_eq_false, if_false,
    wordAt_wireHeader_length frame bounded]
  by_cases empty : frame.payload.length = 0
  · rw [if_neg (by omega), behind]
    have whole := split_wireFrame starts (by omega)
    rw [empty] at whole
    exact .inr (.inr whole)
  rw [if_pos (by omega)]
  cases payloadAllocated with
  | false =>
      rcases unbroken with none | ⟨_, no | zero | last⟩
      · omega
      · cases no
      · omega
      · exact .inr (.inl (by
          simp only [Bool.false_eq_true, if_false, behind]
          exact List.drop_eq_nil_of_le last))
  | true =>
      rcases Nat.lt_or_ge (leading socket2).length frame.payload.length with short | enough
      · obtain ⟨failure, left, third, remaining⟩ :=
          recvPhase_leading_short payloadTexts socket2 _ short
        simp only [if_true, third, remaining, behind, List.drop_drop, length2]
        rcases unbroken with none | ⟨big | all, _⟩
        · omega
        · omega
        · exact .inr (.inl (List.drop_eq_nil_of_le (by omega)))
      · obtain ⟨left, third, _, remaining⟩ := recvPhase_leading payloadTexts socket2 _ enough
        simp only [if_true, third, remaining, behind, List.drop_drop]
        exact .inr (.inr (split_wireFrame starts (by omega)))

theorem payloadLength_of_starts {bytes rest : Bytes} {frame : Frame}
    (bounded : frame.payload.length < 2 ^ 32) (starts : bytes <+: wireFrame frame ++ rest)
    (enough : 14 ≤ bytes.length) : (wordAt bytes 10).toNat = frame.payload.length := by
  obtain ⟨later, whole⟩ := starts
  rw [← wordAt_append_left (by omega) later, whole, wireFrame, wireBody, List.append_assoc,
    List.append_assoc]
  rw [show (10 : Nat) = 4 + 6 from rfl, wordAt_envelope (be32_length _) (wireHeader_length frame)
    (Nat.le_refl 6)]
  exact wordAt_wireHeader_length frame bounded

/-! ### The calls of a connection -/

/-- The socket is at the beginning of a frame, with all before it read. -/
def AtFrame (frames : List Frame) (stream : Bytes) (socket : List (Chunk RecvEvent)) : Prop :=
  ∃ earlier later, frames = earlier ++ later ∧
    stream = (earlier.map wireFrame).flatten ++ streamBytes socket ∧
    streamBytes socket <+: (later.map wireFrame).flatten

/-- **One call** that is not broken off leaves the socket at the beginning of a frame, or with
nothing to come. -/
theorem AtFrame.call {frames : List Frame}
    (short : ∀ frame ∈ frames, frame.payload.length < 2 ^ 32 - 10) {stream : Bytes}
    {handle next : Handle} {attempt : Attempt} {result : Except ClientError Response}
    (before : AtFrame frames stream handle.socket ∨ streamBytes handle.socket = [])
    (called : handle.call attempt = some (result, next)) (unbroken : Unbroken handle attempt) :
    AtFrame frames stream next.socket ∨ streamBytes next.socket = [] := by
  rcases Handle.call_cases called with ⟨waits, received⟩ | ⟨same, _⟩
  · have left : (receiveResponse attempt.payloadAllocated attempt.responseAllocated
        handle.socket).2 = next.socket := by rw [received]
    have exhausted (nothing : streamBytes handle.socket = []) : streamBytes next.socket = [] := by
      have silent := (leading_starts handle.socket).length_le
      have starts : streamBytes handle.socket <+: wireFrame ⟨0, 0, []⟩ ++ [] := by
        rw [nothing]
        exact List.nil_prefix
      rw [nothing] at silent
      have stops := receiveResponse_stops attempt.payloadAllocated attempt.responseAllocated
        ⟨0, 0, []⟩ (by decide) starts (.inl (Nat.le_zero.mp silent))
      rw [left, nothing] at stops
      rcases stops with same | same | whole
      · exact same
      · exact same
      · cases whole
    rcases before with ⟨earlier, later, rfl, position, starts⟩ | nothing
    · cases later with
      | nil => exact .inr (exhausted (List.prefix_nil.mp starts))
      | cons frame later =>
          have bounded := short frame (by simp)
          rw [List.map_cons, List.flatten_cons] at starts
          have stops := receiveResponse_stops attempt.payloadAllocated attempt.responseAllocated
            frame (by omega) starts (by
              rcases unbroken waits with silent | ⟨whole, memory⟩
              · exact .inl silent
              · refine .inr ?_
                rcases Nat.lt_or_ge (streamBytes handle.socket).length 14 with few | enough
                · have := (leading_starts handle.socket).length_le
                  exact ⟨.inr (by omega), .inr (.inr (by omega))⟩
                · rw [payloadLength_of_starts (by omega) starts enough] at whole memory
                  exact ⟨whole, memory.imp_right (Or.imp_left (by omega))⟩)
          rw [left] at stops
          rcases stops with same | nothing | whole
          · exact .inl ⟨earlier, frame :: later, rfl, by rw [same, position], by
              rw [same, List.map_cons, List.flatten_cons]; exact starts⟩
          · exact .inr nothing
          · refine .inl ⟨earlier ++ [frame], later, by simp, ?_, ?_⟩
            · rw [position, whole]
              simp
            · rw [whole] at starts
              exact (List.prefix_append_right_inj (wireFrame frame)).mp starts
    · exact .inr (exhausted nothing)
  · rwa [same]

theorem atFrame_of_run {frames : List Frame}
    (short : ∀ frame ∈ frames, frame.payload.length < 2 ^ 32 - 10) {start finish : Handle}
    (sent : streamBytes start.socket <+: (frames.map wireFrame).flatten)
    {trace : List (Transition Handle Attempt (Except ClientError Response))}
    (run : Run Handle.call start trace finish)
    (unbroken : ∀ turn ∈ trace, Unbroken turn.before turn.event) :
    AtFrame frames (streamBytes start.socket) finish.socket ∨ streamBytes finish.socket = [] := by
  induction run with
  | nil => exact .inl ⟨[], frames, rfl, rfl, sent⟩
  | snoc previous taken ih =>
      have before := ih fun turn member => unbroken turn (List.mem_append_left _ member)
      exact AtFrame.call short before taken
        (unbroken _ (List.mem_append_right _ List.mem_cons_self))

/-- **Every response is a whole frame of the server**, in every run of calls on one connection that
is sent frames of ADR-003, in which no call is broken off within a frame: the response has the
frame's type, id and payload, and the call has read that frame, from its first byte to its last. -/
theorem responses_whole_of_unbroken {frames : List Frame}
    (short : ∀ frame ∈ frames, frame.payload.length < 2 ^ 32 - 10) {start finish : Handle}
    (sent : streamBytes start.socket <+: (frames.map wireFrame).flatten)
    {trace : List (Transition Handle Attempt (Except ClientError Response))}
    (run : Run Handle.call start trace finish)
    (unbroken : ∀ turn ∈ trace, Unbroken turn.before turn.event) :
    ∀ turn ∈ trace, ∀ response, turn.output = .ok response →
      ∃ earlier frame later, frames = earlier ++ frame :: later ∧
        response = responseOf frame ∧
        streamBytes start.socket =
          (earlier.map wireFrame).flatten ++ streamBytes turn.before.socket ∧
        streamBytes turn.before.socket = wireFrame frame ++ streamBytes turn.after.socket := by
  intro turn member response returned
  obtain ⟨earlierTurns, laterTurns, rfl⟩ := List.append_of_mem member
  obtain ⟨before, called, _⟩ := run.cut
  rw [returned] at called
  rcases Handle.call_cases called with ⟨_, received⟩ | ⟨_, _, failed⟩
  · have some := receiveResponse_nonempty received
    rcases atFrame_of_run short sent before
      fun other inside => unbroken other (List.mem_append_left _ inside) with
      ⟨earlier, later, rfl, position, starts⟩ | nothing
    · cases later with
      | nil => exact absurd (List.prefix_nil.mp starts) some
      | cons frame later =>
          have bounded := short frame (by simp)
          rw [List.map_cons, List.flatten_cons] at starts
          obtain ⟨same, consumed⟩ :=
            receiveResponse_of_starts received frame (by omega) starts
          exact ⟨earlier, frame, later, rfl, same, position, consumed⟩
    · exact absurd nothing some
  · cases failed

/-- A query of a node, sent whole. -/
def queryAttempt : Attempt := ⟨⟨0x04, some (text "x"), 1⟩, .whole, true, true⟩

/-- A frame whose payload is itself a frame. -/
def nestedFrame : Frame := ⟨.ack, 0, wireFrame ⟨.ack, 42, []⟩⟩

/-- A call that times out before its answer arrives, and one that reads it whole. -/
theorem responses_whole_of_unbroken_late :
    ∃ trace finish response,
      Run Handle.call ⟨0, [.event .pollTimeout, .data 0 ((wireFrame nestedFrame).drop 1)]⟩
        trace finish ∧
      (∃ turn ∈ trace, turn.output = .ok response) ∧ response = responseOf nestedFrame := by
  let start : Handle := ⟨0, [.event .pollTimeout, .data 0 ((wireFrame nestedFrame).drop 1)]⟩
  let trace := execTrace Handle.call start [queryAttempt, queryAttempt]
  have facts : (exec Handle.call start [queryAttempt, queryAttempt]).isSome = true ∧
      (trace.map fun turn => turn.output.toOption) = [none, some (responseOf nestedFrame)] ∧
      (∀ turn ∈ trace, turn.event.payloadAllocated = true ∧
        ((leading turn.before.socket).length = 0 ∨
          14 + (wordAt (streamBytes turn.before.socket) 10).toNat ≤
            (leading turn.before.socket).length)) ∧
      streamBytes start.socket = ([nestedFrame].map wireFrame).flatten := by
    decide +kernel
  obtain ⟨possible, outputs, whole, stream⟩ := facts
  have run := run_of_possible possible
  obtain ⟨turn, member, output⟩ : ∃ turn ∈ trace,
      turn.output.toOption = some (responseOf nestedFrame) := by
    have inside : some (responseOf nestedFrame) ∈ trace.map fun turn => turn.output.toOption := by
      rw [outputs]
      simp
    exact List.mem_map.mp inside
  cases result : turn.output with
  | error failure =>
      rw [result] at output
      cases output
  | ok response =>
      obtain ⟨earlier, frame, later, split, same, _⟩ :=
        responses_whole_of_unbroken
          (show ∀ frame ∈ [nestedFrame], frame.payload.length < 2 ^ 32 - 10 by decide)
          (stream ▸ List.prefix_refl _) run (fun turn member _ =>
            (whole turn member).2.imp_right fun all => ⟨.inl all, .inl (whole turn member).1⟩)
          turn member response result
      obtain ⟨rfl, rfl, rfl⟩ : earlier = [] ∧ frame = nestedFrame ∧ later = [] := by
        cases earlier with
        | nil => simpa [eq_comm] using split
        | cons first rest => simp at split
      exact ⟨trace, _, response, run, ⟨turn, member, result⟩, same⟩

/-- `nestedFrame`, with a time-out between its header and its payload. -/
def brokenOff : Handle :=
  ⟨0, [.data 0 (((wireFrame nestedFrame).drop 1).take 13), .event .pollTimeout,
    .data 0 (nestedFrame.payload.drop 1)]⟩

/-- **A response the server never sent**: the server has sent `nestedFrame` and nothing else. The
first call times out within it, and the second returns its payload as a frame. -/
theorem payload_returned_as_frame :
    streamBytes brokenOff.socket = wireFrame nestedFrame ∧
    brokenOff.call queryAttempt =
      some (.error ⟨.errTimeout, "Timeout waiting for response payload"⟩,
        ⟨1, [.data 0 (nestedFrame.payload.drop 1)]⟩) ∧
    Handle.call ⟨1, [.data 0 (nestedFrame.payload.drop 1)]⟩ queryAttempt =
      some (.ok ⟨2, 42, []⟩, ⟨2, []⟩) ∧
    ⟨2, 42, []⟩ ≠ responseOf nestedFrame := by
  decide

end ExodusOps
