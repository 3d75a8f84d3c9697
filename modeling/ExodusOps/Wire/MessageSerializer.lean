/-
**The server's framing: `MessageSerializer`.**

A message travels as a frame of ADR-003: a four-byte frame length, an envelope of ten bytes
(protocol version, message type, message id, payload length) and the payload. `wireFrame` states
that layout; `buildFrame` fills a buffer with the source's 32-bit arithmetic, and `readFrame` takes
a frame off a socket in three reads.

* `buildFrame_eq` — **the writer.** Below 2³² − 14 payload bytes every store is inside the buffer
  and the result is `wireFrame`; nowhere else is it (`buildFrame_exact_iff`), since the length, the
  frame length and the size of the buffer wrap (`buildFrame_eq_ite`).
* `readFrame_wireFrame` — **the reader.** On any stream that starts with a frame of at most 65536
  payload bytes `readFrame` returns its fields and leaves what follows.
* `readFrame_ok`, `readFrame_isFrame` — **what an accepted frame is.** The bytes it took are a
  length, an envelope and the payload, whatever the stream (`IsFrame`), such bytes are accepted, and
  no others could have been (`IsFrame.unique`).
-/

import ExodusOps.Lib.ByteStream
import ExodusOps.Lib.Json

namespace ExodusOps

/-- The message type byte. The source's enumeration has `uint8_t` underneath and is filled by a
cast of a received byte, so all 256 values occur. -/
abbrev MessageType := UInt8

namespace MessageType

def register : MessageType := 0x01
def ack : MessageType := 0x02
def errorMsg : MessageType := 0x03
def queryNode : MessageType := 0x04
def listNodes : MessageType := 0x05
def heartbeat : MessageType := 0x06

end MessageType

/-- Protocol-level error codes. -/
inductive ProtocolErrorCode where
  | errDuplicate | errNotFound | errMalformed | errServiceUnavail | errTimeout | errCapacity
  | errInternal
  deriving DecidableEq, Repr

def ProtocolErrorCode.code : ProtocolErrorCode → UInt8
  | .errDuplicate => 0x01
  | .errNotFound => 0x02
  | .errMalformed => 0x03
  | .errServiceUnavail => 0x04
  | .errTimeout => 0x05
  | .errCapacity => 0x06
  | .errInternal => 0xFF

/-- The fields of a message that framing carries. -/
structure Frame where
  messageType : MessageType
  messageId : UInt32
  payload : Bytes
  deriving DecidableEq, Repr

namespace MessageSerializer

def protocolVersion : UInt8 := 0x01

def envelopeSize : UInt32 := 10

def frameLengthPrefixSize : UInt32 := 4

def maxFramePayload : UInt32 := 65536

/-! ### The layout of ADR-003 -/

/-- The envelope: version, type, id and payload length. -/
def wireHeader (frame : Frame) : Bytes :=
  [protocolVersion, frame.messageType] ++ be32 frame.messageId ++
    be32 (UInt32.ofNat frame.payload.length)

/-- Envelope and payload. -/
def wireBody (frame : Frame) : Bytes := wireHeader frame ++ frame.payload

/-- A whole frame: the length of the body, then the body. -/
def wireFrame (frame : Frame) : Bytes :=
  be32 (UInt32.ofNat (10 + frame.payload.length)) ++ wireBody frame

theorem wireHeader_length (frame : Frame) : (wireHeader frame).length = 10 := rfl

theorem wireBody_length (frame : Frame) : (wireBody frame).length = 10 + frame.payload.length := by
  rw [wireBody, List.length_append, wireHeader_length]

theorem wireFrame_length (frame : Frame) :
    (wireFrame frame).length = 14 + frame.payload.length := by
  rw [wireFrame, List.length_append, be32_length, wireBody_length]
  omega

theorem wordAt_wireHeader_id (frame : Frame) : wordAt (wireHeader frame) 2 = frame.messageId :=
  wordAt_be32 [protocolVersion, frame.messageType] (be32 (UInt32.ofNat frame.payload.length))
    frame.messageId

theorem wordAt_wireHeader_length (frame : Frame) (bounded : frame.payload.length < 2 ^ 32) :
    (wordAt (wireHeader frame) 6).toNat = frame.payload.length := by
  have word := wordAt_be32 ([protocolVersion, frame.messageType] ++ be32 frame.messageId) []
    (UInt32.ofNat frame.payload.length)
  rw [List.append_nil] at word
  rw [show wordAt (wireHeader frame) 6 = UInt32.ofNat frame.payload.length from word]
  exact UInt32.toNat_ofNat_of_lt' bounded

/-! ### Writing -/

/-- `buildFrame`, with `none` for a store outside the buffer. The two sums are of `uint32_t`. -/
def buildFrame (messageType : MessageType) (messageId : UInt32) (payload : Bytes) :
    Option Bytes :=
  let payloadLen : UInt32 := UInt32.ofNat payload.length
  let frameLen : UInt32 := envelopeSize + payloadLen
  let totalSize : UInt32 := frameLengthPrefixSize + frameLen
  let frame : Bytes := List.replicate totalSize.toNat 0
  writeAll frame 0 ([be32 frameLen, [protocolVersion], [messageType], be32 messageId,
    be32 payloadLen] ++ if payloadLen > 0 then [payload.take payloadLen.toNat] else [])

/-- The size of the buffer. -/
def frameSize (payload : Bytes) : Nat :=
  (frameLengthPrefixSize + (envelopeSize + UInt32.ofNat payload.length)).toNat

/-- What is stored in it. -/
def frameStores (messageType : MessageType) (messageId : UInt32) (payload : Bytes) : List Bytes :=
  [be32 (envelopeSize + UInt32.ofNat payload.length), [protocolVersion], [messageType],
    be32 messageId, be32 (UInt32.ofNat payload.length)] ++
    if UInt32.ofNat payload.length > 0 then
      [payload.take (UInt32.ofNat payload.length).toNat] else []

section Writer

variable (messageType : MessageType) (messageId : UInt32) (payload : Bytes)

theorem buildFrame_stores : buildFrame messageType messageId payload =
    writeAll (List.replicate (frameSize payload) 0) 0
      (frameStores messageType messageId payload) := rfl

/-- The stores of a payload whose length is not narrowed. -/
theorem frameStores_flatten (bounded : payload.length < 2 ^ 32) :
    (frameStores messageType messageId payload).flatten =
      wireFrame ⟨messageType, messageId, payload⟩ := by
  have payloadLen : (UInt32.ofNat payload.length).toNat = payload.length :=
    UInt32.toNat_ofNat_of_lt' bounded
  have frameLen : envelopeSize + UInt32.ofNat payload.length =
      UInt32.ofNat (10 + payload.length) := (UInt32.ofNat_add _ _).symm
  have copied : (if UInt32.ofNat payload.length > 0 then
      [payload.take (UInt32.ofNat payload.length).toNat] else []).flatten = payload := by
    split
    case isTrue => rw [payloadLen, List.take_length, List.flatten_singleton]
    case isFalse empty =>
        rw [gt_iff_lt, UInt32.lt_iff_toNat_lt, payloadLen] at empty
        exact (List.length_eq_zero_iff.mp (by simpa using empty)).symm
  rw [frameStores, List.flatten_append, copied, frameLen]
  simp [wireFrame, wireBody, wireHeader]

/-- The buffer, with both sums of `uint32_t`. -/
theorem frameSize_eq (bounded : payload.length < 2 ^ 32) :
    frameSize payload = (14 + payload.length) % 2 ^ 32 := by
  simp only [frameSize, frameLengthPrefixSize, envelopeSize, UInt32.toNat_add, UInt32.toNat_ofNat,
    UInt32.toNat_ofNat_of_lt' bounded]
  omega

/-- **The writer.** A payload whose frame length and buffer size do not wrap is framed as ADR-003
says. -/
theorem buildFrame_eq (short : payload.length < 2 ^ 32 - 14) :
    buildFrame messageType messageId payload =
      some (wireFrame ⟨messageType, messageId, payload⟩) := by
  have bounded : payload.length < 2 ^ 32 := by omega
  have stores := frameStores_flatten messageType messageId payload bounded
  have size : frameSize payload = 14 + payload.length := by
    rw [frameSize_eq payload bounded]
    omega
  rw [buildFrame_stores, ← stores]
  apply writeAll_exact
  rw [List.length_replicate, size, stores, wireFrame_length]

/-- A payload just below 2³² bytes: the size of the buffer wraps, and a store leaves it. -/
theorem buildFrame_eq_none (long : 2 ^ 32 - 14 ≤ payload.length)
    (bounded : payload.length < 2 ^ 32) : buildFrame messageType messageId payload = none := by
  rw [Option.eq_none_iff_forall_ne_some]
  intro bytes built
  rw [buildFrame_stores] at built
  have room := (writeAll_eq_some built).1
  rw [frameStores_flatten messageType messageId payload bounded, wireFrame_length,
    List.length_replicate, frameSize_eq payload bounded] at room
  omega

/-- The size of a payload is only looked at modulo 2³². -/
theorem buildFrame_take : buildFrame messageType messageId payload =
    buildFrame messageType messageId (payload.take (payload.length % 2 ^ 32)) := by
  have size : (payload.take (payload.length % 2 ^ 32)).length = payload.length % 2 ^ 32 := by
    rw [List.length_take, Nat.min_eq_left (Nat.mod_le _ _)]
  have narrowed : UInt32.ofNat (payload.length % 2 ^ 32) = UInt32.ofNat payload.length :=
    UInt32.ofNat_mod_size
  have copied : (UInt32.ofNat payload.length).toNat = payload.length % 2 ^ 32 :=
    UInt32.toNat_ofNat'
  simp only [buildFrame, size, narrowed, copied, List.take_take, Nat.min_self]

/-- **What `buildFrame` does with any payload**: of its length modulo 2³² it frames that many bytes
or leaves the buffer. -/
theorem buildFrame_eq_ite : buildFrame messageType messageId payload =
    if payload.length % 2 ^ 32 < 2 ^ 32 - 14 then
      some (wireFrame ⟨messageType, messageId, payload.take (payload.length % 2 ^ 32)⟩)
    else none := by
  have size : (payload.take (payload.length % 2 ^ 32)).length = payload.length % 2 ^ 32 := by
    rw [List.length_take, Nat.min_eq_left (Nat.mod_le _ _)]
  rw [buildFrame_take]
  by_cases short : payload.length % 2 ^ 32 < 2 ^ 32 - 14
  · rw [if_pos short]
    apply buildFrame_eq
    rwa [size]
  · rw [if_neg short]
    apply buildFrame_eq_none
    · rw [size]
      exact Nat.not_lt.mp short
    · rw [size]
      exact Nat.mod_lt _ (by decide)

end Writer

/-- **Whatever is written is a frame**: of the payload, or of its beginning where the length field
wraps. -/
theorem buildFrame_some {messageType : MessageType} {messageId : UInt32} {payload bytes : Bytes}
    (built : buildFrame messageType messageId payload = some bytes) :
    ∃ framed : Bytes, framed.length < 2 ^ 32 ∧
      bytes = wireFrame ⟨messageType, messageId, framed⟩ := by
  rw [buildFrame_eq_ite] at built
  split_ifs at built with short
  cases built
  refine ⟨_, ?_, rfl⟩
  rw [List.length_take]
  omega

/-- **The length arithmetic of `buildFrame`, exactly.** Every store is inside the buffer and the
result is the frame of the whole payload exactly below 2³² − 14 bytes. -/
theorem buildFrame_exact_iff (messageType : MessageType) (messageId : UInt32) (payload : Bytes) :
    buildFrame messageType messageId payload =
        some (be32 (UInt32.ofNat (10 + payload.length)) ++ [1, messageType] ++ be32 messageId ++
          be32 (UInt32.ofNat payload.length) ++ payload) ↔
      payload.length < 2 ^ 32 - 14 := by
  have layout : be32 (UInt32.ofNat (10 + payload.length)) ++ [1, messageType] ++ be32 messageId ++
      be32 (UInt32.ofNat payload.length) ++ payload =
        wireFrame ⟨messageType, messageId, payload⟩ := by
    simp [wireFrame, wireBody, wireHeader, protocolVersion]
  rw [layout]
  refine ⟨fun built => ?_, buildFrame_eq messageType messageId payload⟩
  rw [buildFrame_eq_ite] at built
  split_ifs at built with short
  -- the frame of a part is the frame of the whole only if the part is the whole
  have lengths := congrArg List.length (Option.some.inj built)
  simp only [wireFrame_length, List.length_take] at lengths
  omega

/-! ### Reading -/

/-- What a `recv` that returned −1 left in `errno`. -/
inductive Errno where
  | eintr | eagain | econnreset
  | other (number : Nat)
  deriving DecidableEq, Repr

/-- The outcomes of `readFrame` other than `OK`. -/
inductive FrameReadStatus where
  | peerClosed | timeout | ioError
  deriving DecidableEq, Repr

/-- How `readExact` takes a failed `recv`: `none` is another attempt. -/
def recvFailure : Errno → Option FrameReadStatus
  | .eintr => none
  | .eagain => some .timeout
  | _ => some .ioError

/-- The source's `readExact`. -/
def readExact (socket : List (Chunk Errno)) (count : Nat) :
    Except FrameReadStatus Bytes × List (Chunk Errno) :=
  ExodusOps.readExact recvFailure .peerClosed socket count

/-- Read one frame. Neither the protocol version nor the envelope's own payload length is looked
at. -/
def readFrame (socket : List (Chunk Errno)) :
    Except FrameReadStatus Frame × List (Chunk Errno) :=
  match readExact socket frameLengthPrefixSize.toNat with
  | (.error status, socket) => (.error status, socket)
  | (.ok lenBuf, socket) =>
      let frameLen := wordAt lenBuf 0
      if frameLen < envelopeSize then (.error .ioError, socket)
      else
        let payloadLen := frameLen - envelopeSize
        if payloadLen > maxFramePayload then (.error .ioError, socket)
        else
          match readExact socket envelopeSize.toNat with
          | (.error status, socket) => (.error status, socket)
          | (.ok envelope, socket) =>
              let messageType := envelope.getD 1 0
              let messageId := wordAt envelope 2
              if payloadLen > 0 then
                match readExact socket payloadLen.toNat with
                | (.error status, socket) => (.error status, socket)
                | (.ok payload, socket) => (.ok ⟨messageType, messageId, payload⟩, socket)
              else (.ok ⟨messageType, messageId, []⟩, socket)

/-- What `readFrame` does with a frame length that is out of bounds. -/
theorem readFrame_outside {socket socket1 : List (Chunk Errno)} {lenBuf : Bytes}
    (first : readExact socket 4 = (.ok lenBuf, socket1))
    (outside : (wordAt lenBuf 0).toNat < 10 ∨ 65546 < (wordAt lenBuf 0).toNat) :
    readFrame socket = (.error .ioError, socket1) := by
  simp only [readFrame, show frameLengthPrefixSize.toNat = 4 from rfl, first]
  by_cases small : wordAt lenBuf 0 < envelopeSize
  · rw [if_pos small]
  · have ordered : envelopeSize ≤ wordAt lenBuf 0 := UInt32.not_lt.mp small
    have long : 10 ≤ (wordAt lenBuf 0).toNat := UInt32.le_iff_toNat_le.mp ordered
    have large : wordAt lenBuf 0 - envelopeSize > maxFramePayload := by
      rw [gt_iff_lt, UInt32.lt_iff_toNat_lt, UInt32.toNat_sub_of_le _ _ ordered,
        show maxFramePayload.toNat = 65536 from rfl, show envelopeSize.toNat = 10 from rfl]
      omega
    rw [if_neg small, if_pos large]

/-- The envelope and the payload, with no case for an empty payload. -/
def readBody (socket : List (Chunk Errno)) (payloadLen : Nat) :
    Except FrameReadStatus Frame × List (Chunk Errno) :=
  match readExact socket 10 with
  | (.error status, socket) => (.error status, socket)
  | (.ok envelope, socket) =>
      match readExact socket payloadLen with
      | (.error status, socket) => (.error status, socket)
      | (.ok payload, socket) => (.ok ⟨envelope.getD 1 0, wordAt envelope 2, payload⟩, socket)

/-- What `readFrame` does with a frame length within the bounds. -/
theorem readFrame_inside {socket socket1 : List (Chunk Errno)} {lenBuf : Bytes}
    (first : readExact socket 4 = (.ok lenBuf, socket1)) (long : 10 ≤ (wordAt lenBuf 0).toNat)
    (bounded : (wordAt lenBuf 0).toNat ≤ 65546) :
    readFrame socket = readBody socket1 ((wordAt lenBuf 0).toNat - 10) := by
  have ordered : envelopeSize ≤ wordAt lenBuf 0 := UInt32.le_iff_toNat_le.mpr long
  have payloadLen : (wordAt lenBuf 0 - envelopeSize).toNat = (wordAt lenBuf 0).toNat - 10 :=
    UInt32.toNat_sub_of_le _ _ ordered
  have notShort : ¬ wordAt lenBuf 0 < envelopeSize := UInt32.not_lt.mpr ordered
  have notLarge : ¬ wordAt lenBuf 0 - envelopeSize > maxFramePayload := by
    rw [gt_iff_lt, UInt32.lt_iff_toNat_lt, payloadLen, show maxFramePayload.toNat = 65536 from rfl]
    omega
  simp only [readFrame, show frameLengthPrefixSize.toNat = 4 from rfl, first, if_neg notShort,
    if_neg notLarge, show envelopeSize.toNat = 10 from rfl, payloadLen, readBody]
  by_cases empty : wordAt lenBuf 0 - envelopeSize > 0
  · simp only [if_pos empty]
  · simp only [if_neg empty]
    rw [gt_iff_lt, UInt32.lt_iff_toNat_lt, payloadLen, Nat.not_lt] at empty
    simp only [Nat.le_zero.mp empty, readExact, readExact_zero]

/-- The result of `readFrame` when its reads finish. -/
theorem readFrame_of_reads {socket socket1 socket2 socket3 : List (Chunk Errno)}
    {lenBuf envelope payload : Bytes} (first : readExact socket 4 = (.ok lenBuf, socket1))
    (long : 10 ≤ (wordAt lenBuf 0).toNat) (bounded : (wordAt lenBuf 0).toNat ≤ 65546)
    (second : readExact socket1 10 = (.ok envelope, socket2))
    (third : readExact socket2 ((wordAt lenBuf 0).toNat - 10) = (.ok payload, socket3)) :
    readFrame socket = (.ok ⟨envelope.getD 1 0, wordAt envelope 2, payload⟩, socket3) := by
  simp only [readFrame_inside first long bounded, readBody, second, third]

/-- The reads behind an accepted frame. -/
theorem readFrame_reads {socket left : List (Chunk Errno)} {frame : Frame}
    (accepted : readFrame socket = (.ok frame, left)) :
    ∃ lenBuf envelope socket1 socket2, readExact socket 4 = (.ok lenBuf, socket1) ∧
      10 ≤ (wordAt lenBuf 0).toNat ∧ (wordAt lenBuf 0).toNat ≤ 65546 ∧
      readExact socket1 10 = (.ok envelope, socket2) ∧
      readExact socket2 ((wordAt lenBuf 0).toNat - 10) = (.ok frame.payload, left) ∧
      frame.messageType = envelope.getD 1 0 ∧ frame.messageId = wordAt envelope 2 := by
  cases first : readExact socket 4 with
  | mk result socket1 =>
      cases result with
      | error status =>
          simp [readFrame, show frameLengthPrefixSize.toNat = 4 from rfl, first] at accepted
      | ok lenBuf =>
          by_cases outside : (wordAt lenBuf 0).toNat < 10 ∨ 65546 < (wordAt lenBuf 0).toNat
          · rw [readFrame_outside first outside] at accepted
            cases accepted
          · rw [not_or, Nat.not_lt, Nat.not_lt] at outside
            rw [readFrame_inside first outside.1 outside.2, readBody] at accepted
            cases second : readExact socket1 10 with
            | mk result socket2 =>
                cases result with
                | error status => simp [second] at accepted
                | ok envelope =>
                    cases third : readExact socket2 ((wordAt lenBuf 0).toNat - 10) with
                    | mk result socket3 =>
                        cases result with
                        | error status => simp [second, third] at accepted
                        | ok payload =>
                            simp only [second, third] at accepted
                            cases accepted
                            exact ⟨lenBuf, envelope, socket1, socket2, rfl, outside.1, outside.2,
                              second, third, rfl, rfl⟩

/-- The bytes of one frame as the server takes it: four length bytes, ten envelope bytes and as
many payload bytes as the length bytes say. -/
def IsFrame (bytes : Bytes) (frame : Frame) : Prop :=
  ∃ lenBuf envelope : Bytes, lenBuf.length = 4 ∧ envelope.length = 10 ∧
    (wordAt lenBuf 0).toNat = 10 + frame.payload.length ∧ frame.payload.length ≤ 65536 ∧
    frame.messageType = envelope.getD 1 0 ∧ frame.messageId = wordAt envelope 2 ∧
    bytes = lenBuf ++ (envelope ++ frame.payload)

/-- **What an accepted frame is**, whatever the stream. -/
theorem readFrame_ok {socket left : List (Chunk Errno)} {frame : Frame}
    (accepted : readFrame socket = (.ok frame, left)) :
    ∃ bytes, IsFrame bytes frame ∧ streamBytes socket = bytes ++ streamBytes left := by
  obtain ⟨lenBuf, envelope, socket1, socket2, first, long, bounded, second, third, type, id⟩ :=
    readFrame_reads accepted
  have took1 := readExact_ok recvFailure .peerClosed socket 4 (congrArg Prod.fst first)
  have took2 := readExact_ok recvFailure .peerClosed socket1 10 (congrArg Prod.fst second)
  have took3 := readExact_ok recvFailure .peerClosed socket2 _ (congrArg Prod.fst third)
  rw [← readExact, first] at took1
  rw [← readExact, second] at took2
  rw [← readExact, third] at took3
  refine ⟨_, ⟨lenBuf, envelope, took1.1, took2.1, by rw [took3.1]; omega, by rw [took3.1]; omega,
    type, id, rfl⟩, ?_⟩
  rw [took1.2, took2.2, took3.2, List.append_assoc, List.append_assoc]

theorem IsFrame.length_pos {bytes : Bytes} {frame : Frame} (isFrame : IsFrame bytes frame) :
    0 < bytes.length := by
  obtain ⟨lenBuf, envelope, four, _, _, _, _, _, rfl⟩ := isFrame
  rw [List.length_append]
  omega

/-- **Bytes begin with one frame at most.** -/
theorem IsFrame.unique {first second after later : Bytes} {frame other : Frame}
    (one : IsFrame first frame) (two : IsFrame second other)
    (same : first ++ after = second ++ later) : first = second ∧ frame = other := by
  obtain ⟨lenBuf, envelope, four, ten, size, _, type, id, rfl⟩ := one
  obtain ⟨lenBuf', envelope', four', ten', size', _, type', id', rfl⟩ := two
  simp only [List.append_assoc] at same
  obtain ⟨rfl, behindLength⟩ := List.append_inj same (four.trans four'.symm)
  obtain ⟨rfl, behindEnvelope⟩ := List.append_inj behindLength (ten.trans ten'.symm)
  have length : frame.payload.length = other.payload.length := by omega
  obtain ⟨payload, _⟩ := List.append_inj behindEnvelope length
  obtain ⟨frameType, frameId, framePayload⟩ := frame
  obtain ⟨otherType, otherId, otherPayload⟩ := other
  simp only at type id type' id' payload
  subst type id type' id' payload
  exact ⟨rfl, rfl⟩

/-- **Such bytes are accepted**, however the stream is cut and wherever a signal interrupts. -/
theorem readFrame_isFrame {bytes : Bytes} {frame : Frame} (isFrame : IsFrame bytes frame)
    {socket : List (Chunk Errno)} {rest : Bytes} (quiet : Quiet recvFailure socket)
    (starts : streamBytes socket = bytes ++ rest) :
    ∃ left, readFrame socket = (.ok frame, left) ∧ streamBytes left = rest ∧
      Quiet recvFailure left := by
  obtain ⟨lenBuf, envelope, four, ten, size, small, type, id, rfl⟩ := isFrame
  simp only [List.append_assoc] at starts
  obtain ⟨socket1, first, starts, quiet⟩ :=
    readExact_quiet_append recvFailure .peerClosed quiet starts
  obtain ⟨socket2, second, starts, quiet⟩ :=
    readExact_quiet_append recvFailure .peerClosed quiet starts
  obtain ⟨left, third, starts, quiet⟩ :=
    readExact_quiet_append recvFailure .peerClosed quiet starts
  refine ⟨left, ?_, starts, quiet⟩
  rw [four] at first
  rw [ten] at second
  have read := readFrame_of_reads first (by omega) (by omega) second
    (by rw [size, Nat.add_sub_cancel_left]; exact third)
  rw [read, ← type, ← id]

/-- A frame of at most 65536 payload bytes is one the server takes. -/
theorem isFrame_wireFrame (frame : Frame) (small : frame.payload.length ≤ 65536) :
    IsFrame (wireFrame frame) frame := by
  refine ⟨_, wireHeader frame, be32_length _, wireHeader_length frame, ?_, small, rfl,
    (wordAt_wireHeader_id frame).symm, rfl⟩
  rw [wordAt_be32_zero]
  exact UInt32.toNat_ofNat_of_lt' (by simp only [UInt32.size]; omega)

/-- **The reader.** Any stream that starts with a frame of at most 65536 payload bytes gives its
fields and what follows it, however it is cut and wherever a signal interrupts. -/
theorem readFrame_wireFrame (frame : Frame) (small : frame.payload.length ≤ 65536)
    {socket : List (Chunk Errno)} {rest : Bytes} (quiet : Quiet recvFailure socket)
    (starts : streamBytes socket = wireFrame frame ++ rest) :
    ∃ left, readFrame socket = (.ok frame, left) ∧ streamBytes left = rest ∧
      Quiet recvFailure left :=
  readFrame_isFrame (isFrame_wireFrame frame small) quiet starts

/-- At the end of the stream the reader reports that the peer has closed. -/
theorem readFrame_end {socket : List (Chunk Errno)} (quiet : Quiet recvFailure socket)
    (empty : streamBytes socket = []) : readFrame socket = (.error .peerClosed, []) := by
  have ended : readExact socket 4 = (.error .peerClosed, []) :=
    readExact_quiet_short recvFailure .peerClosed socket 4 quiet (by rw [empty]; decide)
  simp only [readFrame, show frameLengthPrefixSize.toNat = 4 from rfl, ended]

/-! ### Payloads

The builders return the JSON value; writing it as text, which can fail, is part of sending. -/

def buildWelcomePayload (serverVersion timestamp sessionId : Bytes) : Json :=
  .build [(text "server_version", .string serverVersion), (text "timestamp", .string timestamp),
    (text "session_id", .string sessionId)]

def buildAckPayload (refMessageId : UInt32) (nodeId : Bytes) : Json :=
  .build [(text "ref_message_id", .unsigned refMessageId.toUInt64),
    (text "node_id", .string nodeId)]

def buildErrorPayload (refMessageId : UInt32) (errorCode : ProtocolErrorCode)
    (description : Bytes) : Json :=
  .build [(text "ref_message_id", .unsigned refMessageId.toUInt64),
    (text "error_code", .unsigned errorCode.code.toUInt64),
    (text "description", .string description)]

end MessageSerializer

end ExodusOps
