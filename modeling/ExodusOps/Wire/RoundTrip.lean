/-
**The two implementations of the framing understand each other.**

What the C client frames the server reads back, message after message up to the end of the stream
(`readFrames_wireFrames`), and what the server frames the client reads back without touching the
byte behind it. Both hold for every way the stream is cut into pieces; the server's side also for
any interrupts in between. `framing_roundTrip` states the two directions.
-/

import ExodusOps.Client.SendCommand

namespace ExodusOps

open MessageSerializer EopClient

/-- The results of `count` calls of `readFrame`, one after the other. -/
def readFrames : Nat → List (Chunk Errno) → List (Except FrameReadStatus Frame)
  | 0, _ => []
  | count + 1, socket => (readFrame socket).1 :: readFrames count (readFrame socket).2

/-- **A stream of frames is read as its messages**, and then the peer has closed. -/
theorem readFrames_wireFrames (frames : List Frame)
    (small : ∀ frame ∈ frames, frame.payload.length ≤ 65536) {socket : List (Chunk Errno)}
    (quiet : Quiet recvFailure socket)
    (starts : streamBytes socket = (frames.map wireFrame).flatten) :
    readFrames (frames.length + 1) socket = frames.map .ok ++ [.error .peerClosed] := by
  induction frames generalizing socket with
  | nil =>
      simp only [readFrames, readFrame_end quiet starts, List.length_nil, List.map_nil,
        List.nil_append]
  | cons frame frames ih =>
      rw [List.map_cons, List.flatten_cons] at starts
      obtain ⟨left, accepted, rest, quietLeft⟩ :=
        readFrame_wireFrame frame (small frame List.mem_cons_self) quiet starts
      have later := ih (fun other member => small other (List.mem_cons_of_mem _ member))
        quietLeft rest
      rw [List.length_cons, readFrames, accepted, later, List.map_cons, List.cons_append]

/-- **Round trip of the framing, in both directions.**

For commands with types in range and at most 65536 payload bytes the client's send buffers,
concatenated, are read by the server as exactly those messages. For a message the server frames
without wrapping, the client's receive phases return it and stop at its last byte. -/
theorem framing_roundTrip (messages : List (Command × UInt32))
    (valid : ∀ message ∈ messages, message.1.Valid ∧ message.1.payloadLen ≤ 65536)
    (frame : Frame) (short : frame.payload.length < 2 ^ 32 - 14) :
    (∃ sent : List Bytes,
      (messages.map fun message => sendBuffer message.1 message.2) =
        sent.map (fun bytes => some (.ok bytes)) ∧
      ∀ socket, Quiet recvFailure socket → streamBytes socket = sent.flatten →
        readFrames (messages.length + 1) socket =
          (messages.map fun message => .ok (message.1.frame message.2)) ++
            [.error .peerClosed]) ∧
    (∃ sent : Bytes, buildFrame frame.messageType frame.messageId frame.payload = some sent ∧
      ∀ socket rest, DataOnly socket → streamBytes socket = sent ++ rest →
        ∃ left, receiveResponse true true socket =
            (.ok ⟨frame.messageType.toUInt32, frame.messageId, frame.payload⟩, left) ∧
          streamBytes left = rest) := by
  constructor
  · let frames := messages.map fun message => message.1.frame message.2
    refine ⟨frames.map wireFrame, ?_, ?_⟩
    · rw [List.map_map, List.map_map]
      refine List.map_congr_left fun message member => ?_
      have bounded := UInt64.le_iff_toNat_le.mp (valid message member).2
      exact sendBuffer_eq (valid message member).1 message.2
        (lt_of_le_of_lt bounded (by decide))
    · intro socket quiet starts
      have small : ∀ frame ∈ frames, frame.payload.length ≤ 65536 := by
        intro frame member
        obtain ⟨message, inside, rfl⟩ := List.mem_map.mp member
        rw [Command.frame, (valid message inside).1.bytes_length]
        exact UInt64.le_iff_toNat_le.mp (valid message inside).2
      have read := readFrames_wireFrames frames small quiet starts
      rwa [List.length_map, List.map_map] at read
  · refine ⟨wireFrame frame, buildFrame_eq _ _ _ short, fun socket rest dataOnly starts => ?_⟩
    obtain ⟨left, returned, remaining, _⟩ :=
      receiveResponse_wireFrame frame (by omega) dataOnly starts
    exact ⟨left, returned, remaining⟩

/-- A command with a payload and one without. -/
def sampleMessages : List (Command × UInt32) :=
  [(⟨1, some (text "vault"), 5⟩, 7), (⟨6, none, 0⟩, 8)]

/-- The bytes of `sampleMessages`, interrupted in the middle of a word. -/
def sampleSocket : List (Chunk Errno) :=
  [.data 0 [0, 0], .event .eintr, .data 15 ([1, 1, 0, 0, 0, 7, 0, 0, 0, 5] ++ text "vault" ++
    [0, 0, 0, 10, 1, 6, 0, 0, 0, 8, 0, 0, 0, 0])]

/-- Two commands read by the server, and an answer read by the client with a byte behind it. -/
theorem framing_roundTrip_sample :
    readFrames 3 sampleSocket =
      [.ok ⟨1, 7, text "vault"⟩, .ok ⟨6, 8, []⟩, .error .peerClosed] ∧
    (receiveResponse true true
      [.data 0 [0, 0, 10, 1, 2, 0], .data 0 [0, 9, 0, 0, 0, 0, 42]]).1 = .ok ⟨2, 9, []⟩ := by
  have valid : ∀ message ∈ sampleMessages, message.1.Valid ∧ message.1.payloadLen ≤ 65536 := by
    intro message member
    simp only [sampleMessages, List.mem_cons, List.not_mem_nil, or_false] at member
    rcases member with rfl | rfl <;> exact ⟨⟨by decide, by decide⟩, by decide⟩
  obtain ⟨⟨sent, buffers, read⟩, answer, framed, received⟩ :=
    framing_roundTrip sampleMessages valid ⟨2, 9, []⟩ (by decide)
  constructor
  · have concrete : (sampleMessages.map fun message => sendBuffer message.1 message.2) =
        [[0, 0, 0, 15, 1, 1, 0, 0, 0, 7, 0, 0, 0, 5] ++ text "vault",
          [0, 0, 0, 10, 1, 6, 0, 0, 0, 8, 0, 0, 0, 0]].map fun bytes => some (.ok bytes) := rfl
    have bytes : sent = _ := List.map_injective_iff.mpr (fun _ _ same => by simpa using same)
      (buffers.symm.trans concrete)
    subst bytes
    refine read sampleSocket (fun event member => ?_) rfl
    simp only [sampleSocket, List.mem_cons, reduceCtorEq, Chunk.event.injEq, List.not_mem_nil,
      or_false, false_or] at member
    rw [member]
    rfl
  · have concrete : buildFrame 2 9 [] = some [0, 0, 0, 10, 1, 2, 0, 0, 0, 9, 0, 0, 0, 0] := rfl
    obtain rfl := Option.some.inj (framed.symm.trans concrete)
    obtain ⟨left, returned, _⟩ := received
      [.data 0 [0, 0, 10, 1, 2, 0], .data 0 [0, 9, 0, 0, 0, 0, 42]] [42]
      (fun event member => by simp at member) rfl
    exact congrArg Prod.fst returned

end ExodusOps
