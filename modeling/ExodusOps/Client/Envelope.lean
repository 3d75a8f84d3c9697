/-
**The client's envelope codec: `eop_envelope_serialize` and `eop_envelope_deserialize`.**

Both functions test a caller's length against a length of the message before they touch the
payload. The two sums in these tests have different widths: the reader adds the header size to a
`uint32_t`, the writer to a `size_t`, and either sum can wrap.

* `deserialize_bounded_iff` — **the reader.** Up to 2³² − 11 the declared length lies in the buffer;
  from there on the test wraps and any buffer with a header passes it.
* `stores_inside_iff` — **the writer.** What passes its test stays in the buffer exactly below
  2⁶⁴ − 10, and in the allocation of `eop_send_command` exactly below 2⁶⁴ − 14.
* `envelope_roundTrip` — **the codec.** Where nothing wraps each function undoes the other, and a
  type outside the enumeration is refused by both.
-/

import ExodusOps.Client.SendCommand
import ExodusOps.Wire.Grammar

namespace ExodusOps.EopClient

open MessageSerializer

/-! ### Reading an envelope -/

/-- What `eop_envelope_deserialize` stores behind its output pointers. The payload pointer is an
offset into the buffer. -/
structure Envelope where
  msgType : UInt32
  msgId : UInt32
  payloadOffset : Nat
  payloadLen : UInt64
  deriving DecidableEq, Repr

/-- `eop_envelope_deserialize`, with `none` for a read outside the buffer. `outputs` says that no
output pointer is null. `EOP_ENVELOPE_HEADER_SIZE` is an `int`, so the last sum is of `uint32_t`. -/
def eopEnvelopeDeserialize (buf : Bytes) (len : UInt64) (outputs : Bool) :
    Option (Except ErrorCode Envelope) :=
  if len < eopEnvelopeHeaderSize then some (.error .errInvalidArgument)
  else do
    let version ← buf[0]?
    if version ≠ eopProtocolVersion then some (.error .errInvalidArgument)
    else if !outputs then some (.error .errInvalidArgument)
    else do
      let msgType ← buf[1]?
      if msgType.toUInt32 < eopRegister ∨ msgType.toUInt32 > eopEdgeTelemetry then
        some (.error .errInvalidMessageType)
      else do
        let idBytes ← readable (buf.drop 2) 4
        let lenBytes ← readable (buf.drop 6) 4
        let payloadLen := wordAt lenBytes 0
        if len < (eopEnvelopeHeaderSize.toUInt32 + payloadLen).toUInt64 then
          some (.error .errInvalidArgument)
        else some (.ok ⟨msgType.toUInt32, wordAt idBytes 0, eopEnvelopeHeaderSize.toNat,
          payloadLen.toUInt64⟩)

/-- The byte of the message type is one of the enumeration. -/
def knownType (buf : Bytes) : Prop :=
  eopRegister ≤ (buf.getD 1 0).toUInt32 ∧ (buf.getD 1 0).toUInt32 ≤ eopEdgeTelemetry

theorem wordAt_taken (buf : Bytes) (offset : Nat) :
    wordAt ((buf.drop offset).take 4) 0 = wordAt buf offset := by
  rw [wordAt_take (Nat.le_refl 4), wordAt_drop, Nat.add_zero]

section Reader

variable {buf : Bytes} {len : UInt64}

/-- The tests on a buffer that has a header, with every read inside it. -/
theorem eopEnvelopeDeserialize_eq (size : buf.length = len.toNat) (long : 10 ≤ buf.length) :
    eopEnvelopeDeserialize buf len true =
      if buf.getD 0 0 ≠ eopProtocolVersion then some (.error .errInvalidArgument)
      else if (buf.getD 1 0).toUInt32 < eopRegister ∨
          (buf.getD 1 0).toUInt32 > eopEdgeTelemetry then
        some (.error .errInvalidMessageType)
      else if len < (10 + wordAt buf 6).toUInt64 then some (.error .errInvalidArgument)
      else some (.ok ⟨(buf.getD 1 0).toUInt32, wordAt buf 2, 10, (wordAt buf 6).toUInt64⟩) := by
  have header : ¬ len < eopEnvelopeHeaderSize := by
    rw [UInt64.lt_iff_toNat_lt, ← size, show eopEnvelopeHeaderSize.toNat = 10 from rfl]
    omega
  have byte : ∀ offset < 10, buf[offset]? = some (buf.getD offset 0) := by
    intro offset early
    rw [List.getD_eq_getElem?_getD, List.getElem?_eq_getElem (by omega), Option.getD_some]
  have word : ∀ offset ≤ 6, readable (buf.drop offset) 4 = some ((buf.drop offset).take 4) := by
    intro offset early
    exact if_pos (by rw [List.length_drop]; omega)
  unfold eopEnvelopeDeserialize
  simp only [if_neg header, byte 0 (by decide), byte 1 (by decide), word 2 (by decide),
    word 6 (by decide), wordAt_taken, Option.bind_eq_bind, Option.bind_some, Bool.not_true,
    Bool.false_eq_true, if_false]
  rfl

/-- A buffer without a header. -/
theorem eopEnvelopeDeserialize_short (size : buf.length = len.toNat) (short : ¬ 10 ≤ buf.length) :
    eopEnvelopeDeserialize buf len true = some (.error .errInvalidArgument) := by
  have header : len < eopEnvelopeHeaderSize := by
    rw [UInt64.lt_iff_toNat_lt, ← size]
    exact Nat.not_le.mp short
  rw [eopEnvelopeDeserialize, if_pos header]

/-- **What `EOP_OK` says**: the version, a known type, and a length that passes the wrapping
test. -/
theorem eopEnvelopeDeserialize_ok_iff (size : buf.length = len.toNat) {envelope : Envelope} :
    eopEnvelopeDeserialize buf len true = some (.ok envelope) ↔
      10 ≤ buf.length ∧ buf.getD 0 0 = eopProtocolVersion ∧ knownType buf ∧
        (10 + (wordAt buf 6).toNat) % 2 ^ 32 ≤ buf.length ∧
        envelope =
          ⟨(buf.getD 1 0).toUInt32, wordAt buf 2, 10, (wordAt buf 6).toUInt64⟩ := by
  have sum : (10 + wordAt buf 6).toUInt64.toNat = (10 + (wordAt buf 6).toNat) % 2 ^ 32 := by
    rw [UInt32.toNat_toUInt64, UInt32.toNat_add]
    rfl
  by_cases long : 10 ≤ buf.length
  · rw [eopEnvelopeDeserialize_eq size long]
    split
    case isTrue other => exact iff_of_false nofun fun accepted => other accepted.2.1
    case isFalse version =>
      split
      case isTrue unknown =>
        refine iff_of_false nofun fun accepted => unknown.elim ?_ ?_
        · exact UInt32.not_lt.mpr accepted.2.2.1.1
        · exact UInt32.not_lt.mpr accepted.2.2.1.2
      case isFalse known =>
        rw [not_or, UInt32.not_lt, gt_iff_lt, UInt32.not_lt] at known
        split
        case isTrue short =>
          rw [UInt64.lt_iff_toNat_lt, sum, ← size] at short
          exact iff_of_false nofun fun accepted => Nat.not_le.mpr short accepted.2.2.2.1
        case isFalse fits =>
          rw [UInt64.lt_iff_toNat_lt, sum, ← size, Nat.not_lt] at fits
          rw [Option.some.injEq, Except.ok.injEq]
          refine ⟨fun same => ⟨long, not_not.mp version, known, fits, same.symm⟩, ?_⟩
          exact fun accepted => accepted.2.2.2.2.symm
  · rw [eopEnvelopeDeserialize_short size long]
    exact iff_of_false nofun fun accepted => long accepted.1

/-- No read leaves the buffer. -/
theorem eopEnvelopeDeserialize_isSome (size : buf.length = len.toNat) :
    (eopEnvelopeDeserialize buf len true).isSome = true := by
  by_cases long : 10 ≤ buf.length
  · rw [eopEnvelopeDeserialize_eq size long]
    split_ifs <;> rfl
  · rw [eopEnvelopeDeserialize_short size long]
    rfl

end Reader

/-- **The payload handed out lies in the buffer**, exactly where the test does not wrap: its length
is the word at byte 6, and up to 2³² − 11 it is inside. From 2³² − 10 on every buffer of less than
2³² bytes is too small for it, and is accepted nevertheless. -/
theorem deserialize_bounded_iff {buf : Bytes} {len : UInt64} (size : buf.length = len.toNat) :
    (eopEnvelopeDeserialize buf len true).isSome = true ∧
      ∀ envelope, eopEnvelopeDeserialize buf len true = some (.ok envelope) →
        envelope.payloadLen.toNat = beValue ((buf.drop 6).take 4) ∧
        (beValue ((buf.drop 6).take 4) < 2 ^ 32 - 10 →
          10 + envelope.payloadLen.toNat ≤ len.toNat) ∧
        (10 + envelope.payloadLen.toNat ≤ len.toNat →
          beValue ((buf.drop 6).take 4) < 2 ^ 32 - 10 ∨ 2 ^ 32 ≤ len.toNat) := by
  refine ⟨eopEnvelopeDeserialize_isSome size, fun envelope accepted => ?_⟩
  obtain ⟨long, _, _, fits, rfl⟩ := (eopEnvelopeDeserialize_ok_iff size).mp accepted
  have four : ((buf.drop 6).take 4).length = 4 := by
    rw [List.length_take, List.length_drop]
    omega
  have declared : (wordAt buf 6).toNat = beValue ((buf.drop 6).take 4) :=
    UInt32.toNat_ofNat_of_lt' (beValue_lt _ four)
  rw [UInt32.toNat_toUInt64, declared]
  rw [declared] at fits
  refine ⟨rfl, fun small => ?_, fun inside => ?_⟩ <;> omega

/-- A heartbeat with one byte of payload. -/
theorem deserialize_bounded_iff_heartbeat :
    eopEnvelopeDeserialize [1, 6, 0, 0, 0, 7, 0, 0, 0, 1, 42] 11 true =
        some (.ok ⟨6, 7, 10, 1⟩) ∧ 10 + (1 : UInt64).toNat ≤ (11 : UInt64).toNat := by
  have accepted : eopEnvelopeDeserialize [1, 6, 0, 0, 0, 7, 0, 0, 0, 1, 42] 11 true =
      some (.ok ⟨6, 7, 10, 1⟩) := by decide
  exact ⟨accepted, ((deserialize_bounded_iff rfl).2 _ accepted).2.1 (by decide)⟩

/-- **Ten bytes that promise 4294967295 more** are accepted. -/
theorem declared_length_wraps :
    eopEnvelopeDeserialize [1, 1, 0, 0, 0, 0, 255, 255, 255, 255] 10 true =
        some (.ok ⟨1, 0, 10, 4294967295⟩) ∧
      (10 : UInt64).toNat < 10 + (4294967295 : UInt64).toNat := by decide

/-! ### Where an envelope is stored -/

/-- The code `eop_envelope_serialize` comes to by its tests. -/
def eopEnvelopeCode (command : Command) (outLen : UInt64) : ErrorCode :=
  if outLen < eopEnvelopeHeaderSize + command.payloadLen then .errNotEnoughSpace
  else if command.msgType < eopRegister ∨ command.msgType > eopEdgeTelemetry then
    .errInvalidMessageType
  else if command.payload = none ∧ command.payloadLen > 0 then .errInvalidArgument
  else .ok

/-- The stores of `eop_envelope_serialize` behind its tests, as offset and size. -/
def Command.envelopeStores (command : Command) : List (Nat × Nat) :=
  [(0, 1), (1, 1), (2, 4), (6, 4)] ++
    if command.payload.isSome = true ∧ command.payloadLen > 0 then
      [(10, command.payloadLen.toNat)] else []

/-- The allocation of `eop_send_command`. -/
def Command.sendBufSize (command : Command) : UInt64 :=
  eopFramePrefixSize + (eopEnvelopeHeaderSize + command.payloadLen)

/-- The stores of `eop_send_command` in its allocation: the length prefix, then the envelope. -/
def Command.sendStores (command : Command) : List (Nat × Nat) :=
  (0, 4) :: command.envelopeStores.map fun store => (4 + store.1, store.2)

/-- Every store is inside a buffer of this size. -/
def Inside (size : Nat) (stores : List (Nat × Nat)) : Prop :=
  ∀ store ∈ stores, store.1 + store.2 ≤ size

instance (size : Nat) (stores : List (Nat × Nat)) : Decidable (Inside size stores) :=
  inferInstanceAs (Decidable (∀ store ∈ stores, _))

section Stores

variable {command : Command}

/-- A command that passes the tests and has a payload has a pointer to it. -/
theorem pointer_of_code {outLen : UInt64} (returns : eopEnvelopeCode command outLen = .ok)
    (positive : command.payloadLen > 0) : command.payload.isSome = true := by
  unfold eopEnvelopeCode at returns
  split_ifs at returns with _ _ null
  rw [Option.isSome_iff_ne_none]
  exact fun none => null ⟨none, positive⟩

/-- The stores of an envelope reach up to the end of its payload. -/
theorem inside_envelopeStores_iff {outLen : UInt64}
    (returns : eopEnvelopeCode command outLen = .ok) (size : Nat) :
    Inside size command.envelopeStores ↔ 10 + command.payloadLen.toNat ≤ size := by
  have header : ∀ store ∈ [(0, 1), (1, 1), (2, 4), (6, 4)], store.1 + store.2 ≤ 10 := by decide
  rw [Inside, Command.envelopeStores, List.forall_mem_append]
  by_cases positive : command.payloadLen > 0
  · rw [if_pos ⟨pointer_of_code returns positive, positive⟩, List.forall_mem_singleton]
    exact and_iff_right_of_imp fun payload store member => by
      have := header store member
      omega
  · have empty : command.payloadLen.toNat = 0 := by
      rw [gt_iff_lt, UInt64.lt_iff_toNat_lt, Nat.not_lt] at positive
      exact Nat.le_zero.mp positive
    rw [if_neg fun both => positive both.2, empty]
    refine ⟨fun stores => stores.1 (6, 4) (by decide), fun enough => ⟨?_, nofun⟩⟩
    intro store member
    exact (header store member).trans enough

theorem inside_sendStores_iff (size : Nat) :
    Inside size command.sendStores ↔ 4 ≤ size ∧ Inside (size - 4) command.envelopeStores := by
  unfold Inside Command.sendStores
  rw [List.forall_mem_cons, List.forall_mem_map]
  refine and_congr_right fun room => forall_congr' fun store => forall_congr' fun _ => ?_
  show 4 + store.1 + store.2 ≤ size ↔ store.1 + store.2 ≤ size - 4
  have prefixRoom : 4 ≤ size := room
  omega

/-- **The serialiser by its tests and its stores.** -/
theorem eopEnvelopeSerialize_of_code (msgId : UInt32) (outBuf : Bytes) (outLen : UInt64) :
    eopEnvelopeSerialize command msgId outBuf outLen =
      if eopEnvelopeCode command outLen = .ok then
        command.payloadCopy.bind fun copied =>
          (writeAll outBuf 0 ([[eopProtocolVersion], [command.msgType.toUInt8], be32 msgId,
            be32 command.payloadLen.toUInt32] ++ copied)).bind fun body => some (.ok, body)
      else some (eopEnvelopeCode command outLen, outBuf) := by
  unfold eopEnvelopeSerialize eopEnvelopeCode
  by_cases short : outLen < eopEnvelopeHeaderSize + command.payloadLen
  · simp only [if_pos short, reduceCtorEq, if_false]
  by_cases unknown : command.msgType < eopRegister ∨ command.msgType > eopEdgeTelemetry
  · simp only [if_neg short, if_pos unknown, reduceCtorEq, if_false]
  by_cases null : command.payload = none ∧ command.payloadLen > 0
  · simp only [if_neg short, if_neg unknown, if_pos null, reduceCtorEq, if_false]
  simp only [if_neg short, if_neg unknown, if_neg null, if_true]
  rfl

end Stores

/-- **Every byte stored lies in the buffer**, exactly short of a wrap. A length that passes the test
of `eop_envelope_serialize` is inside the buffer exactly below 2⁶⁴ − 10, which is where its stores
are; in `eop_send_command`, where the allocation is computed from the same length, the stores are
inside the allocation exactly below 2⁶⁴ − 14. -/
theorem stores_inside_iff (command : Command) :
    (∀ outLen, eopEnvelopeCode command outLen = .ok →
      (10 + command.payloadLen.toNat ≤ outLen.toNat ↔ command.payloadLen.toNat < 2 ^ 64 - 10) ∧
      (Inside outLen.toNat command.envelopeStores ↔
        10 + command.payloadLen.toNat ≤ outLen.toNat)) ∧
    (eopEnvelopeCode command (eopEnvelopeHeaderSize + command.payloadLen) = .ok →
      (Inside command.sendBufSize.toNat command.sendStores ↔
        command.payloadLen.toNat < 2 ^ 64 - 14)) := by
  have bound := command.payloadLen.toNat_lt
  have sum : (eopEnvelopeHeaderSize + command.payloadLen).toNat =
      (10 + command.payloadLen.toNat) % 2 ^ 64 := UInt64.toNat_add _ _
  refine ⟨fun outLen returns => ⟨?_, inside_envelopeStores_iff returns _⟩, fun returns => ?_⟩
  · have test : (10 + command.payloadLen.toNat) % 2 ^ 64 ≤ outLen.toNat := by
      rw [← sum, ← UInt64.le_iff_toNat_le, ← UInt64.not_lt]
      intro short
      rw [eopEnvelopeCode, if_pos short] at returns
      cases returns
    have size := outLen.toNat_lt
    constructor <;> intro fits <;> omega
  · have allocated : command.sendBufSize.toNat = (14 + command.payloadLen.toNat) % 2 ^ 64 := by
      rw [Command.sendBufSize, UInt64.toNat_add, sum, show eopFramePrefixSize.toNat = 4 from rfl]
      omega
    rw [inside_sendStores_iff, inside_envelopeStores_iff returns, allocated]
    constructor
    · rintro ⟨room, fits⟩
      omega
    · intro short
      omega

/-- A payload of five bytes stays in the allocation of nineteen. -/
theorem stores_inside_iff_five :
    eopEnvelopeCode ⟨1, some (text "vault"), 5⟩ 15 = .ok ∧
      Inside 19 (Command.sendStores ⟨1, some (text "vault"), 5⟩) := by
  have returns : eopEnvelopeCode ⟨1, some (text "vault"), 5⟩ 15 = .ok := by decide
  exact ⟨returns, ((stores_inside_iff ⟨1, some (text "vault"), 5⟩).2 returns).mpr (by decide)⟩

/-- **A length of −1** passes the test of a buffer of nine bytes, the one `eop_send_command` makes
for it, and already the length field of the header leaves that buffer. -/
theorem negative_length_stored :
    ∃ command : Command, command.payload ≠ none ∧ command.payloadLen = -1 ∧
      command.sendBufSize = 13 ∧
      eopEnvelopeCode command (eopEnvelopeHeaderSize + command.payloadLen) = .ok ∧
      (eopEnvelopeHeaderSize + command.payloadLen).toNat < 10 + command.payloadLen.toNat ∧
      (10, 4) ∈ command.sendStores ∧ ¬ 10 + 4 ≤ command.sendBufSize.toNat :=
  ⟨⟨1, some [], -1⟩, by decide⟩

/-! ### The round trip -/

/-- The command a caller makes of what the reader handed out: the payload pointer points into the
buffer. -/
def Envelope.command (envelope : Envelope) (buf : Bytes) : Command :=
  ⟨envelope.msgType, some (buf.drop envelope.payloadOffset), envelope.payloadLen⟩

section RoundTrip

/-- **Reading what was written**, with anything behind it. -/
theorem deserialize_wireBody {command : Command} (valid : command.Valid) (msgId : UInt32)
    (short : command.payloadLen.toNat < 2 ^ 32 - 10) {rest : Bytes} {len : UInt64}
    (size : (wireBody (command.frame msgId) ++ rest).length = len.toNat) :
    eopEnvelopeDeserialize (wireBody (command.frame msgId) ++ rest) len true =
      some (.ok ⟨command.msgType, msgId, 10, command.payloadLen⟩) := by
  have length : (command.frame msgId).payload.length = command.payloadLen.toNat :=
    valid.bytes_length
  have ten := wireHeader_length (command.frame msgId)
  have shape : wireBody (command.frame msgId) ++ rest =
      wireHeader (command.frame msgId) ++ (command.bytes ++ rest) := by
    rw [wireBody, List.append_assoc]
    rfl
  have declared : (wordAt (wireBody (command.frame msgId) ++ rest) 6).toNat =
      command.payloadLen.toNat := by
    rw [shape, wordAt_append_left (by omega), wordAt_wireHeader_length _ (by omega), length]
  have id : wordAt (wireBody (command.frame msgId) ++ rest) 2 = msgId := by
    rw [shape, wordAt_append_left (by omega), wordAt_wireHeader_id]
    rfl
  have type : ((wireBody (command.frame msgId) ++ rest).getD 1 0).toUInt32 = command.msgType := by
    have small := UInt32.le_iff_toNat_le.mp valid.type_range.2
    show command.msgType.toUInt8.toUInt32 = command.msgType
    rw [← UInt32.toNat_inj, UInt8.toNat_toUInt32, UInt32.toNat_toUInt8]
    exact Nat.mod_eq_of_lt (small.trans_lt (by decide))
  refine (eopEnvelopeDeserialize_ok_iff size).mpr ⟨?_, rfl, ?_, ?_, ?_⟩
  · rw [shape, List.length_append, ten]
    omega
  · rw [knownType, type]
    exact valid.type_range
  · rw [declared, Nat.mod_eq_of_lt (by omega), List.length_append, wireBody_length, length]
    omega
  · rw [type, id]
    congr 1
    rw [← UInt64.toNat_inj, UInt32.toNat_toUInt64, declared]

/-- **Writing what was read**: the buffer's own front. -/
theorem wireBody_of_deserialized {buf : Bytes} {len : UInt64} (size : buf.length = len.toNat)
    {envelope : Envelope} (accepted : eopEnvelopeDeserialize buf len true = some (.ok envelope))
    (inside : 10 + envelope.payloadLen.toNat ≤ len.toNat) :
    (envelope.command buf).Valid ∧
      wireBody ((envelope.command buf).frame envelope.msgId) =
        buf.take (10 + envelope.payloadLen.toNat) := by
  obtain ⟨long, version, known, _, rfl⟩ := (eopEnvelopeDeserialize_ok_iff size).mp accepted
  have valid : (Envelope.command ⟨(buf.getD 1 0).toUInt32, wordAt buf 2, 10,
      (wordAt buf 6).toUInt64⟩ buf).Valid := by
    refine ⟨known, ?_⟩
    show (wordAt buf 6).toUInt64.toNat ≤ (buf.drop 10).length
    rw [List.length_drop]
    simp only at inside
    omega
  refine ⟨valid, ?_⟩
  have ten : (buf.take 10).length = 10 := by
    rw [List.length_take]
    omega
  have word : ∀ offset ≤ 6, wordAt (buf.take 10) offset = wordAt buf offset := by
    intro offset early
    rw [← wordAt_append_left (by omega) (buf.drop 10), List.take_append_drop]
  have byte : ∀ offset < 10, (buf.take 10).getD offset 0 = buf.getD offset 0 := by
    intro offset early
    rw [← List.getD_append _ (buf.drop 10) _ _ (by omega), List.take_append_drop]
  have header := envelope_fields ten
  rw [word 2 (by decide), word 6 (by decide), byte 0 (by decide), byte 1 (by decide),
    version] at header
  have declared : UInt32.ofNat (wordAt buf 6).toUInt64.toNat = wordAt buf 6 := by
    rw [UInt32.toNat_toUInt64, UInt32.ofNat_toNat]
  rw [List.take_add, header, wireBody, wireHeader, Command.frame, valid.bytes_length]
  simp only [Envelope.command, Command.bytes, Option.getD_some, declared, UInt8.toUInt8_toUInt32]
  rfl

end RoundTrip

/-- **The codec.** A command of up to 2³² − 11 bytes that is serialised into a buffer with room for
it is read back, fields and payload, from any buffer that begins with what was written. What is
read, with its payload inside the buffer, is serialised as the bytes it was read from. A type
outside the enumeration is refused by both. -/
theorem envelope_roundTrip :
    (∀ (command : Command) (msgId : UInt32) (outBuf : Bytes) (outLen : UInt64), command.Valid →
      command.payloadLen.toNat < 2 ^ 32 - 10 → outBuf.length = outLen.toNat →
      10 + command.payloadLen.toNat ≤ outLen.toNat →
      ∃ written, eopEnvelopeSerialize command msgId outBuf outLen = some (.ok, written) ∧
        ∀ (buf : Bytes) (len : UInt64), buf.length = len.toNat →
          written.take (10 + command.payloadLen.toNat) <+: buf →
          eopEnvelopeDeserialize buf len true =
              some (.ok ⟨command.msgType, msgId, 10, command.payloadLen⟩) ∧
            (buf.drop 10).take command.payloadLen.toNat = command.bytes) ∧
    (∀ (buf : Bytes) (len : UInt64) (envelope : Envelope), buf.length = len.toNat →
      eopEnvelopeDeserialize buf len true = some (.ok envelope) →
      10 + envelope.payloadLen.toNat ≤ len.toNat →
      ∀ (outBuf : Bytes) (outLen : UInt64), outBuf.length = outLen.toNat →
        10 + envelope.payloadLen.toNat ≤ outLen.toNat →
        eopEnvelopeSerialize (envelope.command buf) envelope.msgId outBuf outLen =
          some (.ok, buf.take (10 + envelope.payloadLen.toNat) ++
            outBuf.drop (10 + envelope.payloadLen.toNat))) ∧
    (∀ (command : Command) (msgId : UInt32) (outBuf : Bytes) (outLen : UInt64),
      ¬ (eopRegister ≤ command.msgType ∧ command.msgType ≤ eopEdgeTelemetry) →
      ∃ code, code ≠ .ok ∧
        eopEnvelopeSerialize command msgId outBuf outLen = some (code, outBuf)) ∧
    (∀ (buf : Bytes) (len : UInt64), buf.length = len.toNat → ¬ knownType buf →
      ∃ code, eopEnvelopeDeserialize buf len true = some (.error code)) := by
  have test : ∀ {command : Command} {outLen : UInt64},
      10 + command.payloadLen.toNat ≤ outLen.toNat →
        ¬ outLen < eopEnvelopeHeaderSize + command.payloadLen := by
    intro command outLen fits
    have bound := outLen.toNat_lt
    rw [UInt64.lt_iff_toNat_lt, UInt64.toNat_add, show eopEnvelopeHeaderSize.toNat = 10 from rfl,
      Nat.mod_eq_of_lt (by omega)]
    omega
  refine ⟨?_, ?_, ?_, ?_⟩
  · intro command msgId outBuf outLen valid short size fits
    refine ⟨_, eopEnvelopeSerialize_front valid msgId (test fits) (size ▸ fits), ?_⟩
    intro buf len length starts
    have body : (wireBody (command.frame msgId)).length = 10 + command.payloadLen.toNat := by
      rw [wireBody_length, Command.frame, valid.bytes_length]
    rw [List.take_left' body] at starts
    obtain ⟨rest, rfl⟩ := starts
    refine ⟨deserialize_wireBody valid msgId short length, ?_⟩
    rw [wireBody, List.append_assoc, List.drop_left' (wireHeader_length _)]
    exact List.take_left' valid.bytes_length
  · intro buf len envelope size accepted inside outBuf outLen length fits
    obtain ⟨valid, body⟩ := wireBody_of_deserialized size accepted inside
    have written := eopEnvelopeSerialize_front valid envelope.msgId (test fits) (length ▸ fits)
    rw [body] at written
    exact written
  · intro command msgId outBuf outLen unknown
    have refused : eopEnvelopeCode command outLen ≠ .ok := by
      unfold eopEnvelopeCode
      rw [← UInt32.not_lt, ← UInt32.not_lt, ← not_or, not_not] at unknown
      rw [if_pos unknown]
      split_ifs <;> decide
    exact ⟨_, refused, by rw [eopEnvelopeSerialize_of_code, if_neg refused]⟩
  · intro buf len size unknown
    obtain ⟨result, returned⟩ :=
      Option.isSome_iff_exists.mp (eopEnvelopeDeserialize_isSome size)
    cases result with
    | error code => exact ⟨code, returned⟩
    | ok envelope =>
        exact absurd ((eopEnvelopeDeserialize_ok_iff size).mp returned).2.2.1 unknown

/-- A REGISTER of five bytes, in a buffer with two bytes to spare. -/
theorem envelope_roundTrip_register :
    ∃ written, eopEnvelopeSerialize ⟨1, some (text "vault"), 5⟩ 7 (List.replicate 17 0) 17 =
        some (.ok, written) ∧
      eopEnvelopeDeserialize (written.take 15) 15 true = some (.ok ⟨1, 7, 10, 5⟩) := by
  have valid : (⟨1, some (text "vault"), 5⟩ : Command).Valid := ⟨by decide, by decide⟩
  obtain ⟨written, serialized, read⟩ := envelope_roundTrip.1 _ 7 (List.replicate 17 0) 17 valid
    (by decide) rfl (by decide)
  have stored : eopEnvelopeSerialize ⟨1, some (text "vault"), 5⟩ 7 (List.replicate 17 0) 17 =
      some (.ok, [1, 1, 0, 0, 0, 7, 0, 0, 0, 5] ++ text "vault" ++ [0, 0]) := by decide
  cases stored.symm.trans serialized
  exact ⟨_, stored, (read _ 15 rfl (List.prefix_refl _)).1⟩

end ExodusOps.EopClient
