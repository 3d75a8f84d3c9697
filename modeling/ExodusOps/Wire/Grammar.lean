/-
**The grammar of ADR-003, and what the server's reader accepts.**

`WellFormed` lists what ADR-003 says of a frame, field by field; such bytes are the layout
`wireFrame` and no others (`wellFormed_iff`). `readFrame` looks at the frame length alone: it takes
the version and the envelope's own payload length off the stream and drops them. What it accepts is
a frame of the grammar exactly when these two fields happen to be right
(`readFrame_wellFormed_iff`); `other_version_accepted` is a frame of version 2 with a wrong payload
length that is accepted.
-/

import ExodusOps.Wire.MessageSerializer
import Mathlib.Data.List.GetD

namespace ExodusOps.MessageSerializer

/-- **A frame of ADR-003**: `frame_length`, `protocol_version`, `message_type`, `message_id`,
`payload_length` and the payload. -/
structure WellFormed (bytes : Bytes) (frame : Frame) : Prop where
  size : bytes.length = 14 + frame.payload.length
  frame_length : (wordAt bytes 0).toNat = 10 + (wordAt bytes 10).toNat
  protocol_version : bytes.getD 4 0 = protocolVersion
  message_type : bytes.getD 5 0 = frame.messageType
  message_id : wordAt bytes 6 = frame.messageId
  payload_length : (wordAt bytes 10).toNat = frame.payload.length
  payload : bytes.drop 14 = frame.payload

/-! ### The fields of a frame -/

/-- Ten bytes are the four fields of an envelope. -/
theorem envelope_fields {envelope : Bytes} (ten : envelope.length = 10) :
    envelope = [envelope.getD 0 0, envelope.getD 1 0] ++ be32 (wordAt envelope 2) ++
      be32 (wordAt envelope 6) := by
  match envelope, ten with
  | [version, type, id0, id1, id2, id3, len0, len1, len2, len3], _ =>
      have id : be32 (wordAt [id0, id1, id2, id3] 0) = [id0, id1, id2, id3] := be32_wordAt rfl
      have length : be32 (wordAt [len0, len1, len2, len3] 0) = [len0, len1, len2, len3] :=
        be32_wordAt rfl
      have idAt : wordAt [version, type, id0, id1, id2, id3, len0, len1, len2, len3] 2 =
          wordAt [id0, id1, id2, id3] 0 := rfl
      have lengthAt : wordAt [version, type, id0, id1, id2, id3, len0, len1, len2, len3] 6 =
          wordAt [len0, len1, len2, len3] 0 := rfl
      rw [idAt, lengthAt, id, length]
      rfl

section Fields

variable {lenBuf envelope : Bytes}

theorem wordAt_frameLength (four : lenBuf.length = 4) (rest : Bytes) :
    wordAt (lenBuf ++ rest) 0 = wordAt lenBuf 0 :=
  wordAt_append_left (by omega) rest

/-- A word of the envelope, behind the length prefix. -/
theorem wordAt_envelope (four : lenBuf.length = 4) (ten : envelope.length = 10) {offset : Nat}
    (inside : offset ≤ 6) (rest : Bytes) :
    wordAt (lenBuf ++ (envelope ++ rest)) (4 + offset) = wordAt envelope offset := by
  rw [← four, wordAt_append_right, wordAt_append_left (by omega)]

/-- A byte of the envelope, behind the length prefix. -/
theorem getD_envelope (four : lenBuf.length = 4) (ten : envelope.length = 10) {offset : Nat}
    (inside : offset < 10) (rest : Bytes) :
    (lenBuf ++ (envelope ++ rest)).getD (4 + offset) 0 = envelope.getD offset 0 := by
  rw [List.getD_append_right _ _ _ _ (by omega), four, Nat.add_sub_cancel_left,
    List.getD_append _ _ _ _ (by omega)]

theorem drop_payload (four : lenBuf.length = 4) (ten : envelope.length = 10) (payload : Bytes) :
    (lenBuf ++ (envelope ++ payload)).drop 14 = payload := by
  rw [← List.append_assoc, List.drop_left' (by rw [List.length_append]; omega)]

end Fields

/-- The length word at the beginning of a frame. -/
theorem frameLength_of_starts {bytes rest : Bytes} {frame : Frame}
    (short : frame.payload.length < 2 ^ 32 - 10) (starts : bytes <+: wireFrame frame ++ rest)
    (four : 4 ≤ bytes.length) : (wordAt bytes 0).toNat = 10 + frame.payload.length := by
  obtain ⟨later, whole⟩ := starts
  rw [← wordAt_append_left (by omega) later, whole, wireFrame, List.append_assoc,
    wordAt_frameLength (be32_length _), wordAt_be32_zero]
  exact UInt32.toNat_ofNat_of_lt' (by simp only [UInt32.size]; omega)

/-- **What the server has read, as a frame of the grammar**: nothing is missing but the two fields
it does not look at. -/
theorem IsFrame.wellFormed_iff {bytes : Bytes} {frame : Frame} (isFrame : IsFrame bytes frame) :
    WellFormed bytes frame ↔ bytes.getD 4 0 = protocolVersion ∧
      (wordAt bytes 0).toNat = 10 + (wordAt bytes 10).toNat := by
  constructor
  · intro wellFormed
    exact ⟨wellFormed.protocol_version, wellFormed.frame_length⟩
  · rintro ⟨version, lengths⟩
    obtain ⟨lenBuf, envelope, four, ten, size, _, type, id, rfl⟩ := isFrame
    have frameLen := wordAt_frameLength four (envelope ++ frame.payload)
    refine ⟨?_, lengths, version, ?_, ?_, ?_, drop_payload four ten _⟩
    · simp only [List.length_append]
      omega
    · rw [type]
      exact getD_envelope four ten (show 1 < 10 by decide) _
    · rw [id]
      exact wordAt_envelope four ten (show 2 ≤ 6 by decide) _
    · rw [frameLen] at lengths
      omega

/-- **The grammar is the layout.** -/
theorem wellFormed_iff {bytes : Bytes} {frame : Frame} :
    WellFormed bytes frame ↔
      bytes = wireFrame frame ∧ frame.payload.length < 2 ^ 32 - 10 := by
  constructor
  · intro wellFormed
    have length := wellFormed.size
    have four : (bytes.take 4).length = 4 := by rw [List.length_take]; omega
    have ten : ((bytes.drop 4).take 10).length = 10 := by
      rw [List.length_take, List.length_drop]; omega
    have split : bytes = bytes.take 4 ++ ((bytes.drop 4).take 10 ++ frame.payload) := by
      rw [← wellFormed.payload, show 14 = 4 + 10 from rfl, ← List.drop_drop,
        List.take_append_drop, List.take_append_drop]
    generalize bytes.take 4 = lenBuf at four split
    generalize (bytes.drop 4).take 10 = envelope at ten split
    obtain ⟨_, lengths, version, type, id, size, _⟩ := wellFormed
    rw [split] at lengths version type id size
    have frameLen := wordAt_frameLength four (envelope ++ frame.payload)
    have payloadLen := wordAt_envelope four ten (show 6 ≤ 6 by decide) frame.payload
    have bound := (wordAt lenBuf 0).toNat_lt
    rw [frameLen, payloadLen] at lengths
    rw [payloadLen] at size
    rw [getD_envelope four ten (show 0 < 10 by decide)] at version
    rw [getD_envelope four ten (show 1 < 10 by decide)] at type
    rw [wordAt_envelope four ten (show 2 ≤ 6 by decide)] at id
    refine ⟨?_, by omega⟩
    have prefixWord : lenBuf = be32 (UInt32.ofNat (10 + frame.payload.length)) := by
      rw [← size, ← lengths, UInt32.ofNat_toNat, be32_wordAt four]
    have header : envelope = wireHeader frame := by
      rw [envelope_fields ten, version, type, id, wireHeader, ← size, UInt32.ofNat_toNat]
    rw [split, prefixWord, header]
    rfl
  · rintro ⟨rfl, short⟩
    have four : (be32 (UInt32.ofNat (10 + frame.payload.length))).length = 4 := rfl
    have ten := wireHeader_length frame
    have frameLen : (wordAt (wireFrame frame) 0).toNat = 10 + frame.payload.length := by
      rw [wireFrame, wordAt_frameLength four, wordAt_be32_zero]
      exact UInt32.toNat_ofNat_of_lt' (by simp only [UInt32.size]; omega)
    have payloadLen : (wordAt (wireFrame frame) 10).toNat = frame.payload.length := by
      rw [wireFrame, wireBody, wordAt_envelope four ten (show 6 ≤ 6 by decide)]
      exact wordAt_wireHeader_length frame (by omega)
    refine ⟨wireFrame_length frame, by rw [frameLen, payloadLen], rfl, rfl, ?_, payloadLen,
      drop_payload four ten _⟩
    rw [wireFrame, wireBody, wordAt_envelope four ten (show 2 ≤ 6 by decide)]
    exact wordAt_wireHeader_id frame

/-! ### What is accepted -/

/-- **The server accepts the grammar of ADR-003**, and what it accepts is rebuilt by `buildFrame`,
exactly where the version on the stream is 1 and the envelope's payload length is the frame length
less ten. -/
theorem readFrame_wellFormed_iff {socket left : List (Chunk Errno)} {frame : Frame}
    (accepted : readFrame socket = (.ok frame, left)) :
    ∃ consumed, streamBytes socket = consumed ++ streamBytes left ∧
      (WellFormed consumed frame ↔ (streamBytes socket).getD 4 0 = protocolVersion ∧
        (wordAt (streamBytes socket) 0).toNat = 10 + (wordAt (streamBytes socket) 10).toNat) ∧
      (buildFrame frame.messageType frame.messageId frame.payload = some consumed ↔
        (streamBytes socket).getD 4 0 = protocolVersion ∧
          (wordAt (streamBytes socket) 0).toNat =
            10 + (wordAt (streamBytes socket) 10).toNat) := by
  obtain ⟨consumed, isFrame, split⟩ := readFrame_ok accepted
  have wellFormed := isFrame.wellFormed_iff
  obtain ⟨_, _, four, ten, _, small, _, _, whole⟩ := id isFrame
  have long : 14 ≤ consumed.length := by
    rw [whole, List.length_append, List.length_append]
    omega
  have version : (streamBytes socket).getD 4 0 = consumed.getD 4 0 := by
    rw [split, List.getD_append _ _ _ _ (by omega)]
  have frameLen : wordAt (streamBytes socket) 0 = wordAt consumed 0 := by
    rw [split, wordAt_append_left (by omega)]
  have payloadLen : wordAt (streamBytes socket) 10 = wordAt consumed 10 := by
    rw [split, wordAt_append_left (by omega)]
  rw [version, frameLen, payloadLen]
  refine ⟨consumed, split, wellFormed, ?_⟩
  rw [← wellFormed, wellFormed_iff, buildFrame_eq _ _ _ (by omega), Option.some.injEq]
  constructor
  · intro same
    exact ⟨same.symm, by omega⟩
  · intro same
    exact same.1.symm

/-- A HEARTBEAT with a payload of two bytes, read in two pieces, is a frame of the grammar. -/
theorem readFrame_wellFormed_iff_heartbeat :
    WellFormed [0, 0, 0, 12, 1, 6, 0, 0, 0, 7, 0, 0, 0, 2, 40, 41] ⟨.heartbeat, 7, [40, 41]⟩ := by
  have accepted : readFrame [.data 0 [0, 0, 12, 1], .data 6 [0, 0, 0, 7, 0, 0, 0, 2, 40, 41]] =
      (.ok ⟨.heartbeat, 7, [40, 41]⟩, []) := by decide
  obtain ⟨consumed, split, wellFormed, _⟩ := readFrame_wellFormed_iff accepted
  obtain rfl : [0, 0, 0, 12, 1, 6, 0, 0, 0, 7, 0, 0, 0, 2, 40, 41] = consumed := by
    simpa [streamBytes] using split
  exact wellFormed.mpr (by decide)

/-- **A frame of version 2** whose envelope announces 99 payload bytes, and has none, is accepted;
the server would have written it otherwise. -/
theorem other_version_accepted :
    readFrame [.data 0 [0, 0, 10, 2, 6, 0, 0, 0, 7, 0, 0, 0, 99]] =
      (.ok ⟨.heartbeat, 7, []⟩, []) ∧
    ¬ WellFormed [0, 0, 0, 10, 2, 6, 0, 0, 0, 7, 0, 0, 0, 99] ⟨.heartbeat, 7, []⟩ ∧
    buildFrame .heartbeat 7 [] ≠ some [0, 0, 0, 10, 2, 6, 0, 0, 0, 7, 0, 0, 0, 99] := by
  refine ⟨by decide, fun wellFormed => ?_, by decide⟩
  exact absurd wellFormed.protocol_version (by decide)

end ExodusOps.MessageSerializer
