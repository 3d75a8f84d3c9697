/-
**Two lengths in one frame.**

A frame carries its length twice, and no one compares the two. The server goes by the frame length,
the client by the envelope's payload length, so they read the same message exactly when the two
agree (`decoders_agree_iff`). The client truncates both to 32 bits when it sends: a payload of
2³² bytes or more whose length is small modulo 2³² is read as a shorter one, with the next frame
somewhere inside it, and every other payload arrives unaltered or is refused
(`sent_unaltered_iff`).
-/

import ExodusOps.Client.SendCommand
import ExodusOps.Wire.Grammar

namespace ExodusOps

open MessageSerializer EopClient

/-! ### The two readers -/

/-- **The two decoders agree**, on type, id, payload and where the next frame begins, exactly where
the frame length is ten more than the payload length. -/
theorem decoders_agree_iff {serverSocket serverLeft : List (Chunk Errno)}
    {clientSocket clientLeft : List (Chunk RecvEvent)} {frame : Frame} {response : Response}
    {payloadAllocated responseAllocated : Bool}
    (same : streamBytes serverSocket = streamBytes clientSocket)
    (accepted : readFrame serverSocket = (.ok frame, serverLeft))
    (returned : receiveResponse payloadAllocated responseAllocated clientSocket =
      (.ok response, clientLeft)) :
    (response = responseOf frame ∧ streamBytes serverLeft = streamBytes clientLeft) ↔
      (wordAt (streamBytes serverSocket) 0).toNat =
        10 + (wordAt (streamBytes serverSocket) 10).toNat := by
  obtain ⟨_, ⟨lenBuf, envelope, four, ten, size, _, type, id, rfl⟩, split⟩ := readFrame_ok accepted
  obtain ⟨lenBuf', header, four', ten', size', type', id', split'⟩ := receiveResponse_ok returned
  rw [split, List.append_assoc, List.append_assoc, split'] at same
  obtain ⟨rfl, behindPrefix⟩ := List.append_inj same (four.trans four'.symm)
  obtain ⟨rfl, behindHeader⟩ := List.append_inj behindPrefix (ten.trans ten'.symm)
  have frameLen : wordAt (streamBytes serverSocket) 0 = wordAt lenBuf 0 := by
    rw [split, List.append_assoc, wordAt_frameLength four]
  have payloadLen : wordAt (streamBytes serverSocket) 10 = wordAt envelope 6 := by
    rw [split, List.append_assoc, List.append_assoc]
    exact wordAt_envelope four ten (Nat.le_refl 6) _
  rw [frameLen, payloadLen, size, ← size', Nat.add_left_cancel_iff]
  constructor
  · rintro ⟨rfl, _⟩
    rfl
  · intro lengths
    obtain ⟨payload, rest⟩ := List.append_inj behindHeader lengths
    obtain ⟨msgType, msgId, respPayload⟩ := response
    simp only at type' id' payload
    subst type' id' payload
    exact ⟨by rw [responseOf, type, id], rest⟩

/-- A frame that reaches the server in two pieces and the client in one. -/
theorem decoders_agree_iff_pieces :
    ∃ frame serverLeft response clientLeft,
      readFrame [.data 0 [0, 0, 12, 1, 2, 0], .event .eintr,
        .data 0 [0, 7, 0, 0, 0, 2, 40, 41, 99]] = (.ok frame, serverLeft) ∧
      receiveResponse true true [.data 0 [0, 0, 12, 1, 2, 0, 0, 0, 7, 0, 0, 0, 2, 40, 41, 99]] =
        (.ok response, clientLeft) ∧
      response = responseOf frame ∧ streamBytes serverLeft = streamBytes clientLeft := by
  have accepted : readFrame [.data 0 [0, 0, 12, 1, 2, 0], .event .eintr,
      .data 0 [0, 7, 0, 0, 0, 2, 40, 41, 99]] = (.ok ⟨.ack, 7, [40, 41]⟩, [.data 99 []]) := by
    decide
  have returned : receiveResponse true true [.data 0 [0, 0, 12, 1, 2, 0, 0, 0, 7, 0, 0, 0, 2, 40,
      41, 99]] = (.ok ⟨2, 7, [40, 41]⟩, [.data 99 []]) := by decide
  exact ⟨_, _, _, _, accepted, returned,
    (decoders_agree_iff (by decide) accepted returned).mpr (by decide)⟩

/-- **A frame with two lengths**: the server takes five payload bytes and the client one, so the
client's next frame begins four bytes too early. -/
theorem decoders_disagree :
    readFrame [.data 0 [0, 0, 15, 1, 2, 0, 0, 0, 7, 0, 0, 0, 1, 40, 41, 42, 43, 44]] =
      (.ok ⟨.ack, 7, [40, 41, 42, 43, 44]⟩, []) ∧
    receiveResponse true true
      [.data 0 [0, 0, 15, 1, 2, 0, 0, 0, 7, 0, 0, 0, 1, 40, 41, 42, 43, 44]] =
      (.ok ⟨2, 7, [40]⟩, [.data 41 [42, 43, 44]]) := by decide

/-! ### The client's lengths -/

/-- What the server makes of a command whose length is small modulo 2³²: a payload that ends
early. -/
theorem isFrame_truncated (frame : Frame) (small : frame.payload.length % 2 ^ 32 ≤ 65536) :
    let taken := frame.payload.length % 2 ^ 32
    IsFrame ((wireFrame frame).take (14 + taken))
        ⟨frame.messageType, frame.messageId, frame.payload.take taken⟩ ∧
      wireFrame frame = (wireFrame frame).take (14 + taken) ++ frame.payload.drop taken := by
  intro taken
  have inside : taken ≤ frame.payload.length := Nat.mod_le _ _
  have size : (frame.payload.take taken).length = taken := by
    rw [List.length_take, Nat.min_eq_left inside]
  have split : wireFrame frame = (be32 (UInt32.ofNat (10 + frame.payload.length)) ++
      (wireHeader frame ++ frame.payload.take taken)) ++ frame.payload.drop taken := by
    simp only [wireFrame, wireBody, List.append_assoc, List.take_append_drop]
  have front : (wireFrame frame).take (14 + taken) =
      be32 (UInt32.ofNat (10 + frame.payload.length)) ++
        (wireHeader frame ++ frame.payload.take taken) := by
    rw [split, List.take_left']
    rw [List.length_append, List.length_append, be32_length, wireHeader_length, size]
    omega
  rw [front]
  refine ⟨⟨_, wireHeader frame, be32_length _, wireHeader_length frame, ?_, ?_, rfl,
    (wordAt_wireHeader_id frame).symm, rfl⟩, split⟩
  · rw [wordAt_be32_zero, UInt32.toNat_ofNat', size]
    omega
  · rw [size]
    exact small

/-- **No message is altered by its length**, exactly where the length is below 2³² or more than
65536 modulo 2³². Unaltered: whatever follows the message on the stream, and however much of it has
arrived, `readFrame` returns the message as it was sent and stops at its end, or fails. -/
theorem sent_unaltered_iff {command : Command} (valid : command.Valid) {msgId : UInt32}
    {buffer : Bytes} (sending : sendBuffer command msgId = some (.ok buffer)) :
    (∀ (rest : Bytes) (socket left : List (Chunk Errno)) (frame : Frame),
      streamBytes socket <+: buffer ++ rest → readFrame socket = (.ok frame, left) →
        frame = command.frame msgId ∧ streamBytes socket = buffer ++ streamBytes left) ↔
      command.payloadLen.toNat < 2 ^ 32 ∨ 65536 < command.payloadLen.toNat % 2 ^ 32 := by
  cases (sendBuffer_eq valid msgId (sendBuffer_bounded valid sending)).symm.trans sending
  have length : (command.frame msgId).payload.length = command.payloadLen.toNat :=
    valid.bytes_length
  rw [← length]
  generalize command.frame msgId = sent
  constructor
  · intro unaltered
    by_contra wrong
    rw [not_or, Nat.not_lt, Nat.not_lt] at wrong
    obtain ⟨isFrame, split⟩ := isFrame_truncated sent wrong.2
    have quiet : Quiet recvFailure (putBack (wireFrame sent) []) :=
      Quiet.putBack (fun _ member => by cases member) _
    obtain ⟨left, accepted, _⟩ := readFrame_isFrame isFrame quiet
      (by rw [streamBytes_putBack, streamBytes, List.append_nil]; exact split)
    have same := (unaltered [] _ left _ (by simp [streamBytes]) accepted).1
    have short := congrArg (fun frame : Frame => frame.payload.length) same
    simp only [List.length_take] at short
    omega
  · intro bounded rest socket left frame starts accepted
    obtain ⟨consumed, isFrame, split⟩ := readFrame_ok accepted
    obtain ⟨lenBuf, envelope, four, ten, size, small, type, id, rfl⟩ := id isFrame
    obtain ⟨later, whole⟩ := starts
    rw [split, wireFrame, wireBody] at whole
    simp only [List.append_assoc] at whole
    obtain ⟨rfl, behindPrefix⟩ := List.append_inj whole (four.trans (be32_length _).symm)
    obtain ⟨rfl, behindHeader⟩ :=
      List.append_inj behindPrefix (ten.trans (wireHeader_length _).symm)
    rw [wordAt_be32_zero, UInt32.toNat_ofNat'] at size
    obtain ⟨payload, _⟩ := List.append_inj behindHeader (by omega)
    obtain ⟨messageType, messageId, contents⟩ := frame
    simp only at type id payload
    rw [wordAt_wireHeader_id] at id
    subst type id payload
    refine ⟨rfl, ?_⟩
    rw [split, wireFrame, wireBody]

/-- A command of five payload bytes is read as it was sent. -/
theorem sent_unaltered_iff_short :
    ∃ buffer, sendBuffer ⟨1, some (text "vault"), 5⟩ 7 = some (.ok buffer) ∧
      ∀ socket left frame, streamBytes socket <+: buffer →
        readFrame socket = (.ok frame, left) → frame = ⟨.register, 7, text "vault"⟩ := by
  have valid : (⟨1, some (text "vault"), 5⟩ : Command).Valid := ⟨by decide, by decide⟩
  have sending : sendBuffer ⟨1, some (text "vault"), 5⟩ 7 =
      some (.ok ([0, 0, 0, 15, 1, 1, 0, 0, 0, 7, 0, 0, 0, 5] ++ text "vault")) := rfl
  refine ⟨_, sending, fun socket left frame starts accepted => ?_⟩
  have unaltered := (sent_unaltered_iff valid sending).mpr (.inl (by decide))
  exact (unaltered [] socket left frame (by rw [List.append_nil]; exact starts) accepted).1

/-- **A payload of 2³² bytes** that begins with a HEARTBEAT frame: the server reads the command with
no payload at all, and then the HEARTBEAT. -/
theorem payload_read_as_frame :
    ∃ (command : Command) (buffer : Bytes) (left rest : List (Chunk Errno)),
      command.Valid ∧ command.payloadLen = 4294967296 ∧
      sendBuffer command 0 = some (.ok buffer) ∧
      readFrame (putBack buffer []) = (.ok ⟨.register, 0, []⟩, left) ∧
      readFrame left = (.ok ⟨.heartbeat, 9, []⟩, rest) := by
  -- the payload is named by its length, so that nobody computes it
  obtain ⟨payload, size, behind, starts⟩ : ∃ payload : Bytes, payload.length = 2 ^ 32 ∧
      ∃ behind, payload = wireFrame ⟨.heartbeat, 9, []⟩ ++ behind := by
    refine ⟨wireFrame ⟨.heartbeat, 9, []⟩ ++ List.replicate (2 ^ 32 - 14) 0, ?_, _, rfl⟩
    rw [List.length_append, wireFrame_length, List.length_replicate]
    rfl
  let command : Command := ⟨1, some payload, 4294967296⟩
  have valid : command.Valid := by
    refine ⟨show eopRegister ≤ 1 ∧ 1 ≤ eopEdgeTelemetry by decide, ?_⟩
    simp only [command, Option.getD_some, size]
    decide
  have bytes : command.bytes = payload := by
    simp only [Command.bytes, command, Option.getD_some]
    exact List.take_of_length_le size.le
  have frame : command.frame 0 = ⟨.register, 0, payload⟩ := by
    rw [Command.frame, bytes]
    rfl
  have sending := sendBuffer_eq valid 0 (show (4294967296 : UInt64).toNat < 2 ^ 64 - 14 by decide)
  rw [frame] at sending
  obtain ⟨isFrame, split⟩ := isFrame_truncated ⟨.register, 0, payload⟩ (by simp only [size]; decide)
  simp only [size, Nat.mod_self, List.take_zero, List.drop_zero] at isFrame split
  have quiet : Quiet recvFailure (putBack (wireFrame ⟨.register, 0, payload⟩) []) :=
    Quiet.putBack (fun _ member => by cases member) _
  obtain ⟨left, accepted, remaining, quietLeft⟩ := readFrame_isFrame isFrame quiet
    (by rw [streamBytes_putBack, streamBytes, List.append_nil]; exact split)
  obtain ⟨rest, smuggled, _⟩ := readFrame_isFrame
    (isFrame_wireFrame ⟨.heartbeat, 9, []⟩ (Nat.zero_le _)) quietLeft (remaining.trans starts)
  exact ⟨command, _, left, rest, valid, rfl, sending, accepted, smuggled⟩

end ExodusOps
