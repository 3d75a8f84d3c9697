/-
**One command of the C client: `eop_envelope_serialize` and the two halves of `eop_send_command`.**

The sending half frames a command in a buffer obtained from `malloc`: a four-byte prefix, then the
envelope that `eopEnvelopeSerialize` writes behind it. Sizes are `size_t`, the two lengths on the
wire are truncated to 32 bits. The receiving half takes a prefix, a header and a payload off the
socket in three phases; the prefix is read and not used, the header's own length says how much
payload follows.

* `sendBuffer_eq` — a valid command is framed as ADR-003 says. `sendBuffer_some`: whatever is sent
  begins with the command's own header.
* `receiveResponse_wireFrame` — any stream that starts with a frame gives its fields and stops at
  its last byte.
-/

import ExodusOps.Wire.MessageSerializer

namespace ExodusOps.EopClient

open MessageSerializer

/-- `eop_error_code`. -/
inductive ErrorCode where
  | ok | errTimeout | errDisconnected | errConnectFailed | errInvalidArgument | errAlloc
  | errNotEnoughSpace | errInvalidMessageType
  deriving DecidableEq, Repr

def eopProtocolVersion : UInt8 := 1

def eopEnvelopeHeaderSize : UInt64 := 10

def eopFramePrefixSize : UInt64 := 4

/-- The smallest value of `eop_message_type_t`. -/
def eopRegister : UInt32 := 0x01

/-- The largest value of `eop_message_type_t`. -/
def eopEdgeTelemetry : UInt32 := 0x09

/-! ### Sending -/

/-- What a caller passes to `eop_send_command`: the enumeration is an `unsigned int`, and `none` is
the null pointer. -/
structure Command where
  msgType : UInt32
  payload : Option Bytes
  payloadLen : UInt64

/-- The first `count` bytes behind a pointer; `none` when fewer are readable. -/
def readable (bytes : Bytes) (count : Nat) : Option Bytes :=
  if count ≤ bytes.length then some (bytes.take count) else none

/-- The guarded `memcpy` of the payload, as the pieces it stores. -/
def Command.payloadCopy (command : Command) : Option (List Bytes) :=
  match command.payload with
  | some bytes =>
      if command.payloadLen > 0 then (readable bytes command.payloadLen.toNat).map ([·])
      else some []
  | none => some []

/-- `eop_envelope_serialize`: the code returned and the output buffer, or `none` for an access
outside a buffer. The sum of the first test is of `size_t`. -/
def eopEnvelopeSerialize (command : Command) (msgId : UInt32) (outBuf : Bytes) (outLen : UInt64) :
    Option (ErrorCode × Bytes) :=
  if outLen < eopEnvelopeHeaderSize + command.payloadLen then some (.errNotEnoughSpace, outBuf)
  else if command.msgType < eopRegister ∨ command.msgType > eopEdgeTelemetry then
    some (.errInvalidMessageType, outBuf)
  else if command.payload = none ∧ command.payloadLen > 0 then some (.errInvalidArgument, outBuf)
  else do
    let copied ← command.payloadCopy
    let outBuf ← writeAll outBuf 0 ([[eopProtocolVersion], [command.msgType.toUInt8], be32 msgId,
      be32 command.payloadLen.toUInt32] ++ copied)
    some (.ok, outBuf)

/-- The buffer `eop_send_command` sends. Every byte of the allocation is written before it is sent,
so its first contents are taken to be zero. -/
def sendBuffer (command : Command) (msgId : UInt32) : Option (Except ErrorCode Bytes) := do
  let frameBodySize : UInt64 := eopEnvelopeHeaderSize + command.payloadLen
  let sendBufSize : UInt64 := eopFramePrefixSize + frameBodySize
  let sendBuf ← writeAt (List.replicate sendBufSize.toNat 0) 0 (be32 frameBodySize.toUInt32)
  let (code, body) ← eopEnvelopeSerialize command msgId (sendBuf.drop 4) frameBodySize
  if code = .ok then some (.ok (sendBuf.take 4 ++ body)) else some (.error code)

/-- The calls the protocol allows: a type of the enumeration, and a pointer to the bytes promised,
which may be null when there are none. -/
structure Command.Valid (command : Command) : Prop where
  type_range : eopRegister ≤ command.msgType ∧ command.msgType ≤ eopEdgeTelemetry
  pointed : command.payloadLen.toNat ≤ (command.payload.getD []).length

/-- The payload bytes of a command. -/
def Command.bytes (command : Command) : Bytes :=
  (command.payload.getD []).take command.payloadLen.toNat

/-- A command as a message. -/
def Command.frame (command : Command) (msgId : UInt32) : Frame :=
  ⟨command.msgType.toUInt8, msgId, command.bytes⟩

theorem Command.Valid.bytes_length {command : Command} (valid : command.Valid) :
    command.bytes.length = command.payloadLen.toNat := by
  rw [bytes, List.length_take]
  exact Nat.min_eq_left valid.pointed

theorem Command.Valid.payloadCopy {command : Command} (valid : command.Valid) :
    ∃ copied, command.payloadCopy = some copied ∧ copied.flatten = command.bytes := by
  obtain ⟨msgType, payload, payloadLen⟩ := command
  have pointed := valid.pointed
  simp only [Command.payloadCopy, Command.bytes] at pointed ⊢
  cases payload with
  | none => exact ⟨[], rfl, by simp⟩
  | some bytes =>
      simp only [Option.getD_some] at pointed ⊢
      by_cases positive : payloadLen > 0
      · refine ⟨[bytes.take payloadLen.toNat], ?_, List.flatten_singleton⟩
        simp only [if_pos positive, readable, if_pos pointed, Option.map_some]
      · refine ⟨[], if_neg positive, ?_⟩
        rw [gt_iff_lt, UInt64.lt_iff_toNat_lt, Nat.not_lt] at positive
        rw [Nat.le_zero.mp positive, List.take_zero, List.flatten_nil]

/-- **A serialised envelope.** Where the test passes and the buffer has room, the body of the frame
is written at its front. -/
theorem eopEnvelopeSerialize_front {command : Command} (valid : command.Valid) (msgId : UInt32)
    {outBuf : Bytes} {outLen : UInt64}
    (passes : ¬ outLen < eopEnvelopeHeaderSize + command.payloadLen)
    (room : 10 + command.payloadLen.toNat ≤ outBuf.length) :
    eopEnvelopeSerialize command msgId outBuf outLen =
      some (.ok, wireBody (command.frame msgId) ++
        outBuf.drop (10 + command.payloadLen.toNat)) := by
  have known : ¬ (command.msgType < eopRegister ∨ command.msgType > eopEdgeTelemetry) :=
    not_or.mpr ⟨UInt32.not_lt.mpr valid.type_range.1, UInt32.not_lt.mpr valid.type_range.2⟩
  have pointer : ¬ (command.payload = none ∧ command.payloadLen > 0) := by
    rintro ⟨null, positive⟩
    have readableBytes := valid.pointed
    rw [gt_iff_lt, UInt64.lt_iff_toNat_lt] at positive
    rw [null] at readableBytes
    exact Nat.not_lt.mpr readableBytes positive
  obtain ⟨copied, copy, contents⟩ := valid.payloadCopy
  have pieces : wireBody (command.frame msgId) =
      ([[eopProtocolVersion], [command.msgType.toUInt8], be32 msgId,
        be32 command.payloadLen.toUInt32] ++ copied).flatten := by
    rw [List.flatten_append, contents, wireBody, wireHeader, Command.frame]
    simp only [valid.bytes_length, List.flatten_cons, List.flatten_nil, List.append_assoc,
      List.append_nil]
    rfl
  have size : (wireBody (command.frame msgId)).length = 10 + command.payloadLen.toNat := by
    rw [wireBody_length, Command.frame, valid.bytes_length]
  have filled := writeAll_append [] outBuf _ ((congrArg List.length pieces).symm.trans size ▸ room)
  rw [List.nil_append, List.nil_append, List.length_nil, ← pieces, size] at filled
  unfold eopEnvelopeSerialize
  rw [if_neg passes, if_neg known, if_neg pointer, copy, Option.bind_eq_bind, Option.bind_some,
    filled]
  rfl

/-- In a buffer of the right size the body of the frame is all there is. -/
theorem eopEnvelopeSerialize_eq {command : Command} (valid : command.Valid) (msgId : UInt32)
    {outBuf : Bytes} (size : outBuf.length = 10 + command.payloadLen.toNat) :
    eopEnvelopeSerialize command msgId outBuf (eopEnvelopeHeaderSize + command.payloadLen) =
      some (.ok, wireBody (command.frame msgId)) := by
  rw [eopEnvelopeSerialize_front valid msgId (UInt64.lt_irrefl _) size.ge,
    List.drop_eq_nil_of_le size.le, List.append_nil]

/-- Short of a wrap of `size_t`, the buffer has room for the prefix and the envelope. -/
theorem sendBuffer_of_short {command : Command} (msgId : UInt32)
    (short : command.payloadLen.toNat < 2 ^ 64 - 14) :
    sendBuffer command msgId =
      (eopEnvelopeSerialize command msgId (List.replicate (10 + command.payloadLen.toNat) 0)
        (eopEnvelopeHeaderSize + command.payloadLen)).bind fun (code, body) =>
          if code = .ok then
            some (.ok (be32 (UInt32.ofNat (10 + command.payloadLen.toNat)) ++ body))
          else some (.error code) := by
  have bodySize : (eopEnvelopeHeaderSize + command.payloadLen).toNat =
      10 + command.payloadLen.toNat := by
    rw [UInt64.toNat_add, show eopEnvelopeHeaderSize.toNat = 10 from rfl]
    omega
  have bufSize : (eopFramePrefixSize + (eopEnvelopeHeaderSize + command.payloadLen)).toNat =
      14 + command.payloadLen.toNat := by
    rw [UInt64.toNat_add, bodySize, show eopFramePrefixSize.toNat = 4 from rfl]
    omega
  have prefixWord : (eopEnvelopeHeaderSize + command.payloadLen).toUInt32 =
      UInt32.ofNat (10 + command.payloadLen.toNat) := by
    rw [← bodySize]
    rfl
  have stored := writeAt_append [] (List.replicate (14 + command.payloadLen.toNat) 0)
    (be32 (UInt32.ofNat (10 + command.payloadLen.toNat))) (by simp; omega)
  rw [List.nil_append, List.length_nil, List.nil_append, be32_length, List.drop_replicate,
    show 14 + command.payloadLen.toNat - 4 = 10 + command.payloadLen.toNat by omega] at stored
  simp only [sendBuffer, bufSize, prefixWord, stored, Option.bind_eq_bind, Option.bind_some]
  rw [List.drop_left' (be32_length _), List.take_left' (be32_length _)]

/-- **A framed command.** Short of a wrap of `size_t`, a valid command is sent as ADR-003 says. -/
theorem sendBuffer_eq {command : Command} (valid : command.Valid) (msgId : UInt32)
    (short : command.payloadLen.toNat < 2 ^ 64 - 14) :
    sendBuffer command msgId = some (.ok (wireFrame (command.frame msgId))) := by
  rw [sendBuffer_of_short msgId short,
    eopEnvelopeSerialize_eq valid msgId List.length_replicate, wireFrame, Command.frame,
    valid.bytes_length]
  rfl

/-- A command of no known type is refused. -/
theorem sendBuffer_unknown {command : Command} (msgId : UInt32)
    (unknown : command.msgType < eopRegister ∨ command.msgType > eopEdgeTelemetry)
    (short : command.payloadLen.toNat < 2 ^ 64 - 14) :
    sendBuffer command msgId = some (.error .errInvalidMessageType) := by
  rw [sendBuffer_of_short msgId short, eopEnvelopeSerialize, if_neg (UInt64.lt_irrefl _),
    if_pos unknown]
  rfl

/-- The stores behind a buffer that is sent: a length, and the envelope in what is left of the
allocation. -/
theorem sendBuffer_stores {command : Command} {msgId : UInt32} {buffer : Bytes}
    (framed : sendBuffer command msgId = some (.ok buffer)) :
    ∃ (lenBuf room body : Bytes) (copied : List Bytes), lenBuf.length = 4 ∧
      4 + room.length =
        (eopFramePrefixSize + (eopEnvelopeHeaderSize + command.payloadLen)).toNat ∧
      command.payloadCopy = some copied ∧
      writeAll room 0 ([[eopProtocolVersion], [command.msgType.toUInt8], be32 msgId,
        be32 command.payloadLen.toUInt32] ++ copied) = some body ∧
      buffer = lenBuf ++ body := by
  obtain ⟨sendBuf, stored, sealed⟩ := Option.bind_eq_some_iff.mp framed
  obtain ⟨⟨code, body⟩, serialized, finished⟩ := Option.bind_eq_some_iff.mp sealed
  obtain ⟨fits, size⟩ := writeAt_eq_some stored
  rw [List.length_replicate] at fits size
  rw [be32_length] at fits
  simp only at finished
  split at finished
  · rename_i done
    cases finished
    subst done
    unfold eopEnvelopeSerialize at serialized
    split_ifs at serialized
    case pos => cases serialized
    case pos => cases serialized
    case pos => cases serialized
    case neg =>
        obtain ⟨copied, copy, filling⟩ := Option.bind_eq_some_iff.mp serialized
        obtain ⟨body, filled, same⟩ := Option.bind_eq_some_iff.mp filling
        cases same
        refine ⟨sendBuf.take 4, sendBuf.drop 4, body, copied, ?_, ?_, copy, filled, rfl⟩
        · rw [List.length_take]
          omega
        · rw [List.length_drop, size]
          omega
  · cases finished

/-- **Whatever is sent begins with the command's header**, behind four bytes of length. -/
theorem sendBuffer_some {command : Command} {msgId : UInt32} {buffer : Bytes}
    (framed : sendBuffer command msgId = some (.ok buffer)) :
    ∃ lenBuf header rest : Bytes, lenBuf.length = 4 ∧ header.length = 10 ∧
      header.getD 1 0 = command.msgType.toUInt8 ∧ wordAt header 2 = msgId ∧
      buffer = lenBuf ++ (header ++ rest) := by
  obtain ⟨lenBuf, room, body, copied, four, _, _, filled, rfl⟩ := sendBuffer_stores framed
  obtain ⟨_, whole⟩ := writeAll_eq_some filled
  rw [List.flatten_append, List.append_assoc] at whole
  have header : [[eopProtocolVersion], [command.msgType.toUInt8], be32 msgId,
      be32 command.payloadLen.toUInt32].flatten = [eopProtocolVersion,
        command.msgType.toUInt8] ++ be32 msgId ++ be32 command.payloadLen.toUInt32 := rfl
  rw [header] at whole
  exact ⟨lenBuf, _, _, four, rfl, rfl,
    wordAt_be32 [eopProtocolVersion, command.msgType.toUInt8] _ msgId, congrArg (lenBuf ++ ·) whole⟩

/-- **A command that is sent has not wrapped `size_t`**: the copy of its payload would have left the
allocation. -/
theorem sendBuffer_bounded {command : Command} (valid : command.Valid) {msgId : UInt32}
    {buffer : Bytes} (framed : sendBuffer command msgId = some (.ok buffer)) :
    command.payloadLen.toNat < 2 ^ 64 - 14 := by
  obtain ⟨_, room, _, copied, _, size, copy, filled, _⟩ := sendBuffer_stores framed
  obtain ⟨_, copy', contents⟩ := valid.payloadCopy
  cases copy.symm.trans copy'
  obtain ⟨fits, _⟩ := writeAll_eq_some filled
  have bound := command.payloadLen.toNat_lt
  rw [List.flatten_append, List.length_append, contents, valid.bytes_length,
    show [[eopProtocolVersion], [command.msgType.toUInt8], be32 msgId,
      be32 command.payloadLen.toUInt32].flatten.length = 10 from rfl] at fits
  simp only [UInt64.toNat_add, show eopFramePrefixSize.toNat = 4 from rfl,
    show eopEnvelopeHeaderSize.toNat = 10 from rfl] at size
  omega

/-! ### Receiving -/

/-- What can come of waiting for data other than data. -/
inductive RecvEvent where
  | pollTimeout | pollError | recvError
  deriving DecidableEq, Repr

/-- What `set_client_error` records. -/
structure ClientError where
  code : ErrorCode
  message : String
  deriving DecidableEq, Repr

/-- The error texts of one receive phase. -/
structure PhaseTexts where
  timeout : String
  poll : String
  closed : String
  recv : String

def prefixTexts : PhaseTexts where
  timeout := "Timeout waiting for frame length prefix"
  poll := "Poll error waiting for frame length prefix"
  closed := "Server closed connection"
  recv := "Recv error reading frame length prefix"

def headerTexts : PhaseTexts where
  timeout := "Timeout waiting for response header"
  poll := "Poll error waiting for response header"
  closed := "Server closed connection"
  recv := "Recv error reading response header"

def payloadTexts : PhaseTexts where
  timeout := "Timeout waiting for response payload"
  poll := "Poll error waiting for response payload"
  closed := "Server closed connection during payload recv"
  recv := "Recv error reading response payload"

/-- Every occurrence ends the phase; nothing is retried. -/
def phaseFailure (texts : PhaseTexts) : RecvEvent → Option ClientError
  | .pollTimeout => some ⟨.errTimeout, texts.timeout⟩
  | .pollError => some ⟨.errDisconnected, texts.poll⟩
  | .recvError => some ⟨.errDisconnected, texts.recv⟩

/-- One of the three loops of `poll` and `recv`. -/
def recvPhase (texts : PhaseTexts) (socket : List (Chunk RecvEvent)) (count : Nat) :
    Except ClientError Bytes × List (Chunk RecvEvent) :=
  readExact (phaseFailure texts) ⟨.errDisconnected, texts.closed⟩ socket count

/-- `eop_response_t`. The payload pointer is null exactly when the payload is empty. -/
structure Response where
  msgType : UInt32
  msgId : UInt32
  payload : Bytes
  deriving DecidableEq, Repr

/-- `eop_response_create` at the end of a call. -/
def finishResponse (responseAllocated : Bool) (response : Response) :
    Except ClientError Response :=
  if responseAllocated then .ok response
  else .error ⟨.errAlloc, "Failed to allocate response struct"⟩

/-- Phases 0 to 2 of `eop_send_command`. The booleans say whether the two allocations succeed. -/
def receiveResponse (payloadAllocated responseAllocated : Bool)
    (socket : List (Chunk RecvEvent)) : Except ClientError Response × List (Chunk RecvEvent) :=
  match recvPhase prefixTexts socket 4 with
  | (.error failure, socket) => (.error failure, socket)
  | (.ok _, socket) =>
      match recvPhase headerTexts socket 10 with
      | (.error failure, socket) => (.error failure, socket)
      | (.ok header, socket) =>
          if header.getD 0 0 ≠ eopProtocolVersion then
            (.error ⟨.errDisconnected, "Unsupported protocol version in response"⟩, socket)
          else
            let respMsgType := (header.getD 1 0).toUInt32
            let respMsgId := wordAt header 2
            let respPayloadLen := (wordAt header 6).toNat
            if respPayloadLen > 0 then
              if payloadAllocated then
                match recvPhase payloadTexts socket respPayloadLen with
                | (.error failure, socket) => (.error failure, socket)
                | (.ok payload, socket) =>
                    (finishResponse responseAllocated ⟨respMsgType, respMsgId, payload⟩, socket)
              else
                (.error ⟨.errAlloc, "Failed to allocate response payload buffer"⟩, socket)
            else (finishResponse responseAllocated ⟨respMsgType, respMsgId, []⟩, socket)

/-- The fields of a message as the client returns them. -/
def responseOf (frame : Frame) : Response :=
  ⟨frame.messageType.toUInt32, frame.messageId, frame.payload⟩

/-- The result of the phases when their reads finish and memory suffices, with no case for an empty
payload. -/
theorem receiveResponse_of_reads {socket socket1 socket2 socket3 : List (Chunk RecvEvent)}
    {lenBuf header payload : Bytes}
    (first : recvPhase prefixTexts socket 4 = (.ok lenBuf, socket1))
    (second : recvPhase headerTexts socket1 10 = (.ok header, socket2))
    (version : header.getD 0 0 = eopProtocolVersion)
    (third : recvPhase payloadTexts socket2 (wordAt header 6).toNat = (.ok payload, socket3)) :
    receiveResponse true true socket =
      (.ok ⟨(header.getD 1 0).toUInt32, wordAt header 2, payload⟩, socket3) := by
  simp only [receiveResponse, first, second, version, ne_eq, not_true_eq_false, if_false, if_true,
    third, finishResponse]
  split
  case isTrue => rfl
  case isFalse empty =>
      rw [Nat.eq_zero_of_not_pos empty, recvPhase, readExact_zero] at third
      cases third
      rfl

/-- The reads behind a response. -/
theorem receiveResponse_reads {payloadAllocated responseAllocated : Bool}
    {socket left : List (Chunk RecvEvent)} {response : Response}
    (returned : receiveResponse payloadAllocated responseAllocated socket = (.ok response, left)) :
    ∃ lenBuf header socket1 socket2, recvPhase prefixTexts socket 4 = (.ok lenBuf, socket1) ∧
      recvPhase headerTexts socket1 10 = (.ok header, socket2) ∧
      recvPhase payloadTexts socket2 (wordAt header 6).toNat = (.ok response.payload, left) ∧
      response.msgType = (header.getD 1 0).toUInt32 ∧ response.msgId = wordAt header 2 := by
  unfold receiveResponse finishResponse at returned
  split at returned
  · simp at returned
  rename_i lenBuf socket1 first
  split at returned
  · simp at returned
  rename_i header socket2 second
  split at returned
  · simp at returned
  refine ⟨lenBuf, header, socket1, socket2, first, second, ?_⟩
  simp only at returned
  split at returned
  · split at returned
    · split at returned
      · simp at returned
      rename_i payload socket3 third
      split at returned
      · cases returned
        exact ⟨third, rfl, rfl⟩
      · simp at returned
    · simp at returned
  · rename_i empty
    split at returned
    · cases returned
      exact ⟨by rw [Nat.eq_zero_of_not_pos empty, recvPhase, readExact_zero], rfl, rfl⟩
    · simp at returned

/-- **What a response is made of**: four bytes, a header and as many bytes as the header says,
taken off the stream in this order. -/
theorem receiveResponse_ok {payloadAllocated responseAllocated : Bool}
    {socket left : List (Chunk RecvEvent)} {response : Response}
    (returned : receiveResponse payloadAllocated responseAllocated socket = (.ok response, left)) :
    ∃ lenBuf header : Bytes, lenBuf.length = 4 ∧ header.length = 10 ∧
      response.payload.length = (wordAt header 6).toNat ∧
      response.msgType = (header.getD 1 0).toUInt32 ∧ response.msgId = wordAt header 2 ∧
      streamBytes socket = lenBuf ++ (header ++ (response.payload ++ streamBytes left)) := by
  obtain ⟨lenBuf, header, socket1, socket2, first, second, third, type, id⟩ :=
    receiveResponse_reads returned
  have took1 := readExact_ok _ _ socket 4 (congrArg Prod.fst first)
  have took2 := readExact_ok _ _ socket1 10 (congrArg Prod.fst second)
  have took3 := readExact_ok _ _ socket2 _ (congrArg Prod.fst third)
  rw [← recvPhase, first] at took1
  rw [← recvPhase, second] at took2
  rw [← recvPhase, third] at took3
  exact ⟨lenBuf, header, took1.1, took2.1, took3.1, type, id, by
    rw [took1.2, took2.2, took3.2]⟩

/-- A response is not made of nothing. -/
theorem receiveResponse_nonempty {payloadAllocated responseAllocated : Bool}
    {socket left : List (Chunk RecvEvent)} {response : Response}
    (returned : receiveResponse payloadAllocated responseAllocated socket = (.ok response, left)) :
    streamBytes socket ≠ [] := by
  obtain ⟨lenBuf, header, four, _, _, _, _, split⟩ := receiveResponse_ok returned
  apply List.ne_nil_of_length_pos
  rw [split, List.length_append]
  omega

/-! ### Receiving a frame of ADR-003 -/

/-- A stream on which data is all that happens. -/
def DataOnly (socket : List (Chunk RecvEvent)) : Prop := ∀ event, Chunk.event event ∉ socket

theorem DataOnly.quiet {socket : List (Chunk RecvEvent)} (dataOnly : DataOnly socket)
    (texts : PhaseTexts) : Quiet (phaseFailure texts) socket :=
  fun event member => absurd member (dataOnly event)

theorem dataOnly_of_quiet {texts : PhaseTexts} {socket : List (Chunk RecvEvent)}
    (quiet : Quiet (phaseFailure texts) socket) : DataOnly socket := by
  intro event member
  have retried := quiet event member
  cases event <;> cases retried

/-- One phase over a stream of data that starts with the bytes wanted. -/
theorem recvPhase_append (texts : PhaseTexts) {socket : List (Chunk RecvEvent)}
    {bytes rest : Bytes} (dataOnly : DataOnly socket)
    (starts : streamBytes socket = bytes ++ rest) :
    ∃ left, recvPhase texts socket bytes.length = (.ok bytes, left) ∧ streamBytes left = rest ∧
      DataOnly left := by
  obtain ⟨left, result, remaining, quiet⟩ := readExact_quiet_append (phaseFailure texts)
    ⟨.errDisconnected, texts.closed⟩ (dataOnly.quiet texts) starts
  exact ⟨left, result, remaining, dataOnly_of_quiet quiet⟩

/-- **The client reads what was framed**: its type, id and payload, and not a byte more, however
the stream is cut. -/
theorem receiveResponse_wireFrame (frame : Frame) (bounded : frame.payload.length < 2 ^ 32)
    {socket : List (Chunk RecvEvent)} {rest : Bytes} (dataOnly : DataOnly socket)
    (starts : streamBytes socket = wireFrame frame ++ rest) :
    ∃ left, receiveResponse true true socket = (.ok (responseOf frame), left) ∧
      streamBytes left = rest ∧ DataOnly left := by
  rw [wireFrame, wireBody, List.append_assoc, List.append_assoc] at starts
  obtain ⟨socket1, first, starts, dataOnly⟩ := recvPhase_append prefixTexts dataOnly starts
  obtain ⟨socket2, second, starts, dataOnly⟩ := recvPhase_append headerTexts dataOnly starts
  obtain ⟨left, third, starts, dataOnly⟩ := recvPhase_append payloadTexts dataOnly starts
  refine ⟨left, ?_, starts, dataOnly⟩
  rw [← wordAt_wireHeader_length frame bounded] at third
  rw [receiveResponse_of_reads first second rfl third, wordAt_wireHeader_id]
  rfl

/-- **A response taken from a stream of frames is the first of them.** -/
theorem receiveResponse_of_starts {payloadAllocated responseAllocated : Bool}
    {socket left : List (Chunk RecvEvent)} {response : Response}
    (returned : receiveResponse payloadAllocated responseAllocated socket = (.ok response, left))
    (frame : Frame) (bounded : frame.payload.length < 2 ^ 32) {rest : Bytes}
    (starts : streamBytes socket <+: wireFrame frame ++ rest) :
    response = responseOf frame ∧ streamBytes socket = wireFrame frame ++ streamBytes left := by
  obtain ⟨lenBuf, header, four, ten, size, type, id, split⟩ := receiveResponse_ok returned
  obtain ⟨later, whole⟩ := starts
  rw [split, wireFrame, wireBody] at whole
  simp only [List.append_assoc] at whole
  obtain ⟨rfl, behindPrefix⟩ := List.append_inj whole (four.trans (be32_length _).symm)
  obtain ⟨rfl, behindHeader⟩ := List.append_inj behindPrefix (ten.trans (wireHeader_length _).symm)
  rw [wordAt_wireHeader_length frame bounded] at size
  obtain ⟨same, _⟩ := List.append_inj behindHeader size
  obtain ⟨msgType, msgId, payload⟩ := response
  simp only at same type id split
  subst same type id
  refine ⟨by rw [wordAt_wireHeader_id]; rfl, ?_⟩
  rw [split, wireFrame, wireBody]
  simp only [List.append_assoc]

end ExodusOps.EopClient
