/-
**One frame, however it arrives.**

`readFrame` is three loops over `recv`, each of which takes what a call delivers, tries again after
a signal and gives up at the end of the stream, at a timeout or at an error, with the tests of the
frame length in between. Together they are one function of the bytes still to arrive and of what
comes after them (`decodeFrame`): neither how `recv` cuts the bytes nor where signals fall can be
told from the result or from how far the socket has been read (`readFrame_chunking`).
-/

import ExodusOps.Wire.Grammar

namespace ExodusOps.MessageSerializer

/-- What comes after the bytes of a stream: its end, or a failed `recv` that is not retried. -/
inductive Terminal where
  | eof
  | failed (errno : Errno) (ends : errno ≠ .eintr)

/-- The status a read ends with there. -/
def Terminal.status : Terminal → FrameReadStatus
  | .eof => .peerClosed
  | .failed .eagain _ => .timeout
  | .failed _ _ => .ioError

/-- The stream from there on: nothing follows the end, and anything may follow an error. -/
def Terminal.stream (after : List (Chunk Errno)) : Terminal → List (Chunk Errno)
  | .eof => []
  | .failed errno _ => .event errno :: after

/-- The frame at the front of `bytes`, which `status` ends, and the number of bytes it takes to say
so. -/
def decodeFrame (bytes : Bytes) (status : FrameReadStatus) : Except FrameReadStatus Frame × Nat :=
  let frameLen := (wordAt bytes 0).toNat
  if bytes.length < 4 then (.error status, bytes.length)
  else if frameLen < 10 ∨ 65546 < frameLen then (.error .ioError, 4)
  else if bytes.length < 4 + frameLen then (.error status, bytes.length)
  else (.ok ⟨bytes.getD 5 0, wordAt bytes 6, (bytes.drop 14).take (frameLen - 10)⟩, 4 + frameLen)

theorem decodeFrame_le (bytes : Bytes) (status : FrameReadStatus) :
    (decodeFrame bytes status).2 ≤ bytes.length := by
  unfold decodeFrame
  simp only
  split
  · exact Nat.le_refl _
  · split
    · simp only; omega
    · split
      · exact Nat.le_refl _
      · simp only; omega

/-! ### The three reads -/

section Reads

variable {socket : List (Chunk Errno)}

/-- What stops the source's `readExact`. -/
def recvStops (errno : Errno) : Bool := (recvFailure errno).isSome

/-- How it then ends. -/
def endStatus (socket : List (Chunk Errno)) : FrameReadStatus :=
  ((stopOf recvStops socket).bind recvFailure).getD .peerClosed

theorem readExact_enough {count : Nat} (enough : count ≤ (incoming recvStops socket).length) :
    ∃ left, readExact socket count = (.ok ((incoming recvStops socket).take count), left) ∧
      incoming recvStops left = (incoming recvStops socket).drop count ∧
      endStatus left = endStatus socket ∧
      streamBytes left = (streamBytes socket).drop count := by
  have retried : ∀ errno, recvStops errno = false → recvFailure errno = none := by
    intro errno
    cases errno <;> simp [recvStops, recvFailure]
  obtain ⟨left, read, coming, stop, bytes⟩ :=
    readExact_incoming retried .peerClosed socket count enough
  exact ⟨left, read, coming, by rw [endStatus, stop, endStatus], bytes⟩

theorem readExact_short {count : Nat} (short : (incoming recvStops socket).length < count) :
    ∃ left, readExact socket count = (.error (endStatus socket), left) ∧
      streamBytes left = (streamBytes socket).drop (incoming recvStops socket).length := by
  obtain ⟨left, read, bytes, _⟩ :=
    readExact_incoming_short (fun _ => rfl) .peerClosed socket count short
  exact ⟨left, read, bytes⟩

/-- Behind the frame length: envelope and payload are there, or the read ends as the stream
does. -/
theorem readBody_incoming (socket : List (Chunk Errno)) (payloadLen : Nat) :
    let bytes := incoming recvStops socket
    ∃ left, streamBytes left = (streamBytes socket).drop (min bytes.length (10 + payloadLen)) ∧
      readBody socket payloadLen =
        (if bytes.length < 10 + payloadLen then .error (endStatus socket)
          else .ok ⟨bytes.getD 1 0, wordAt bytes 2, (bytes.drop 10).take payloadLen⟩, left) := by
  intro bytes
  by_cases ten : bytes.length < 10
  · obtain ⟨left, read, remaining⟩ := readExact_short ten
    refine ⟨left, ?_, ?_⟩
    · rw [remaining, Nat.min_eq_left (by omega)]
    · rw [if_pos (by omega), readBody, read]
  obtain ⟨socket2, second, coming, ended, remaining⟩ := readExact_enough (Nat.not_lt.mp ten)
  have behind : (incoming recvStops socket2).length = bytes.length - 10 := by
    rw [coming, List.length_drop]
  by_cases short : bytes.length < 10 + payloadLen
  · have missing : (incoming recvStops socket2).length < payloadLen := by omega
    obtain ⟨left, third, lost⟩ := readExact_short missing
    refine ⟨left, ?_, ?_⟩
    · rw [lost, remaining, List.drop_drop, behind, Nat.min_eq_left (by omega)]
      congr 1
      omega
    · rw [if_pos short, ← ended]
      simp only [readBody, second, third]
  · have complete : payloadLen ≤ (incoming recvStops socket2).length := by omega
    obtain ⟨left, third, _, _, taken⟩ := readExact_enough complete
    refine ⟨left, ?_, ?_⟩
    · rw [taken, remaining, List.drop_drop, Nat.min_eq_right (by omega)]
    · rw [if_neg short]
      have type : (bytes.take 10).getD 1 0 = bytes.getD 1 0 := by simp
      simp only [readBody, second, third, coming]
      rw [type, wordAt_take (by decide)]

/-- **`readFrame` decodes what arrives.** -/
theorem readFrame_incoming (socket : List (Chunk Errno)) :
    ∃ left, readFrame socket =
        ((decodeFrame (incoming recvStops socket) (endStatus socket)).1, left) ∧
      streamBytes left = (streamBytes socket).drop
        (decodeFrame (incoming recvStops socket) (endStatus socket)).2 := by
  generalize arrived : incoming recvStops socket = bytes
  generalize ended : endStatus socket = status
  by_cases four : bytes.length < 4
  · have decoded : decodeFrame bytes status = (.error status, bytes.length) := by
      simp only [decodeFrame, if_pos four]
    obtain ⟨left, first, remaining⟩ := readExact_short (arrived ▸ four)
    rw [ended] at first
    rw [arrived] at remaining
    rw [decoded]
    refine ⟨left, ?_, remaining⟩
    simp only [readFrame, show frameLengthPrefixSize.toNat = 4 from rfl, first]
  obtain ⟨socket1, first, coming, ended1, remaining⟩ :=
    readExact_enough (arrived ▸ Nat.not_lt.mp four)
  rw [arrived] at first coming
  have frameLen : wordAt (bytes.take 4) 0 = wordAt bytes 0 := wordAt_take (Nat.le_refl 4) bytes
  by_cases outside : (wordAt bytes 0).toNat < 10 ∨ 65546 < (wordAt bytes 0).toNat
  · have decoded : decodeFrame bytes status = (.error .ioError, 4) := by
      simp only [decodeFrame, if_neg four, if_pos outside]
    rw [decoded]
    exact ⟨socket1, readFrame_outside first (by rwa [frameLen]), remaining⟩
  obtain ⟨long, bounded⟩ := not_or.mp outside
  obtain ⟨left, taken, body⟩ := readBody_incoming socket1 ((wordAt bytes 0).toNat - 10)
  rw [remaining, List.drop_drop, coming, List.length_drop] at taken
  rw [coming, ended1, ended, List.length_drop, List.drop_drop] at body
  rw [readFrame_inside first (by rw [frameLen]; omega) (by rw [frameLen]; omega), frameLen, body]
  refine ⟨left, ?_, ?_⟩
  · have type : (bytes.drop 4).getD 1 0 = bytes.getD 5 0 := by simp
    rw [type, wordAt_drop]
    by_cases short : bytes.length < 4 + (wordAt bytes 0).toNat
    · rw [if_pos (by omega), decodeFrame, if_neg four, if_neg outside, if_pos short]
    · rw [if_neg (by omega), decodeFrame, if_neg four, if_neg outside, if_neg short]
  · rw [taken, decodeFrame, if_neg four, if_neg outside]
    congr 1
    split <;> simp only <;> omega

end Reads

/-! ### Chunking does not matter -/

/-- What a read meets behind quiet pieces is what follows them. -/
theorem incoming_terminal {pieces : List (Chunk Errno)} (quiet : Quiet recvFailure pieces)
    (terminal : Terminal) (after : List (Chunk Errno)) :
    incoming recvStops (pieces ++ terminal.stream after) = streamBytes pieces ∧
      endStatus (pieces ++ terminal.stream after) = terminal.status := by
  have behind : incoming recvStops (terminal.stream after) = [] ∧
      endStatus (terminal.stream after) = terminal.status := by
    cases terminal with
    | eof => exact ⟨rfl, rfl⟩
    | failed errno ends =>
        cases errno with
        | eintr => exact absurd rfl ends
        | _ => exact ⟨rfl, rfl⟩
  obtain ⟨bytes, stop⟩ := incoming_quiet_append quiet (terminal.stream after)
  refine ⟨?_, ?_⟩
  · rw [show incoming recvStops (pieces ++ terminal.stream after) = _ from bytes]
    exact (congrArg _ behind.1).trans (List.append_nil _)
  · have same : stopOf recvStops (pieces ++ terminal.stream after) =
        stopOf recvStops (terminal.stream after) := stop
    rw [endStatus, same, ← behind.2, endStatus]

/-- **A frame is read the same however it arrives.** For every split of the bytes into what `recv`
delivers, with signals anywhere among the pieces, the result and the number of bytes consumed are
those of `decodeFrame`; and where the frame length is at least the size of the envelope, the
difference that becomes the payload length is exact. -/
theorem readFrame_chunking (bytes : Bytes) (terminal : Terminal) (pieces after : List (Chunk Errno))
    (signals : ∀ errno, Chunk.event errno ∈ pieces → errno = .eintr)
    (split : streamBytes pieces = bytes) :
    (∃ left, readFrame (pieces ++ terminal.stream after) =
        ((decodeFrame bytes terminal.status).1, left) ∧
      (decodeFrame bytes terminal.status).2 ≤ bytes.length ∧
      streamBytes left = bytes.drop (decodeFrame bytes terminal.status).2 ++
        streamBytes (terminal.stream after)) ∧
    (¬ wordAt bytes 0 < envelopeSize →
      (wordAt bytes 0 - envelopeSize).toNat + 10 = (wordAt bytes 0).toNat) := by
  have quiet : Quiet recvFailure pieces := by
    intro errno member
    rw [signals errno member]
    rfl
  obtain ⟨arrived, ended⟩ := incoming_terminal quiet terminal after
  obtain ⟨left, result, remaining⟩ := readFrame_incoming (pieces ++ terminal.stream after)
  rw [arrived, ended, split] at result remaining
  have inside := decodeFrame_le bytes terminal.status
  refine ⟨⟨left, result, inside, ?_⟩, ?_⟩
  · rw [remaining, streamBytes_append, split, List.drop_append_of_le_length inside]
  · intro accepted
    have ordered := UInt32.not_lt.mp accepted
    rw [UInt32.toNat_sub_of_le _ _ ordered]
    exact Nat.sub_add_cancel (UInt32.le_iff_toNat_le.mp ordered)

/-- A frame in three pieces with two signals between them, the start of another, and a timeout. -/
theorem readFrame_chunking_pieces :
    ∃ left, readFrame ([.data 0 [0, 0], .event .eintr, .event .eintr, .data 12 [1, 2, 0, 0, 0, 7],
        .data 0 [0, 0, 2, 40, 41, 0, 0]] ++ (Terminal.failed .eagain (by decide)).stream []) =
        (.ok ⟨.ack, 7, [40, 41]⟩, left) ∧
      streamBytes left = [0, 0] := by
  obtain ⟨⟨left, result, _, remaining⟩, _⟩ := readFrame_chunking
    [0, 0, 0, 12, 1, 2, 0, 0, 0, 7, 0, 0, 0, 2, 40, 41, 0, 0] (.failed .eagain (by decide))
    [.data 0 [0, 0], .event .eintr, .event .eintr, .data 12 [1, 2, 0, 0, 0, 7],
      .data 0 [0, 0, 2, 40, 41, 0, 0]] [] (by simp) (by decide)
  exact ⟨left, result, remaining⟩

end ExodusOps.MessageSerializer
