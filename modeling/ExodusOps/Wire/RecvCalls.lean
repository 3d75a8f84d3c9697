/-
**Reading from a socket, call by call.**

`readFrame` with its calls of `recv` one at a time. Each asks for the bytes still missing in the
read under way (the frame length, the envelope, then the payload); with what it brings the loop goes
on, begins the next read or returns. Between two calls anything can happen elsewhere, so this is
the form in which a thread that reads can be put beside others.

* `recvCalls_readFrame` — **the calls are those of `readFrame`**: when they have led to a result, it
  is the result of `readFrame` on the stream they took, which is not touched any further.
* `recvCalls_isFrame` — the bytes taken by calls that led to a frame are that frame.
-/

import ExodusOps.Lib.Machine
import ExodusOps.Wire.MessageSerializer

namespace ExodusOps.MessageSerializer

/-- What one call of `recv` returns: some bytes, 0 at the end of the stream, or the reason of
a −1. -/
inductive RecvResult where
  | data (first : UInt8) (more : Bytes)
  | closed
  | failed (errno : Errno)
  deriving DecidableEq, Repr

/-- Where `readFrame` is: in one of its calls of `readExact`, with the bytes this has received, or
back with its result. -/
inductive ReadLoop where
  | length (received : Bytes)
  | envelope (payloadLen : UInt32) (received : Bytes)
  | payload (payloadLen : UInt32) (envelope received : Bytes)
  | returned (result : Except FrameReadStatus Frame)

namespace ReadLoop

/-- The call of `readFrame`. -/
def start : ReadLoop := .length []

/-- `readFrame` has the frame length and tests it. -/
def afterLength (lenBuf : Bytes) : ReadLoop :=
  let frameLen := wordAt lenBuf 0
  if frameLen < envelopeSize then .returned (.error .ioError)
  else
    let payloadLen := frameLen - envelopeSize
    if payloadLen > maxFramePayload then .returned (.error .ioError)
    else .envelope payloadLen []

/-- `readFrame` has the envelope. -/
def afterEnvelope (payloadLen : UInt32) (envelope : Bytes) : ReadLoop :=
  if payloadLen > 0 then .payload payloadLen envelope []
  else .returned (.ok ⟨envelope.getD 1 0, wordAt envelope 2, []⟩)

/-- The number of bytes the next call asks for, `n - received`. -/
def missing : ReadLoop → Nat
  | .length received => frameLengthPrefixSize.toNat - received.length
  | .envelope _ received => envelopeSize.toNat - received.length
  | .payload payloadLen _ received => payloadLen.toNat - received.length
  | .returned _ => 0

/-- A call has brought some bytes; behind the last of a read comes the next. -/
def take (bytes : Bytes) : ReadLoop → ReadLoop
  | .length received =>
      let lenBuf := received ++ bytes
      if lenBuf.length < frameLengthPrefixSize.toNat then .length lenBuf else afterLength lenBuf
  | .envelope payloadLen received =>
      let envelope := received ++ bytes
      if envelope.length < envelopeSize.toNat then .envelope payloadLen envelope
      else afterEnvelope payloadLen envelope
  | .payload payloadLen head received =>
      let payload := received ++ bytes
      if payload.length < payloadLen.toNat then .payload payloadLen head payload
      else .returned (.ok ⟨head.getD 1 0, wordAt head 2, payload⟩)
  | .returned result => .returned result

end ReadLoop

/-- One call of `recv` and what the loop does with its result; the output is what the call brought.
`recv` does not bring more than it is asked for, and is not called once `readFrame` has returned. -/
def recvCall (loop : ReadLoop) (result : RecvResult) : Option (Bytes × ReadLoop) :=
  match loop, result with
  | .returned _, _ => none
  | loop, .data first more =>
      if more.length < loop.missing then some (first :: more, loop.take (first :: more)) else none
  | _, .closed => some ([], .returned (.error .peerClosed))
  | loop, .failed errno =>
      match recvFailure errno with
      | none => some ([], loop)
      | some status => some ([], .returned (.error status))

/-- `readFrame` has not returned. -/
def ReadLoop.Runs (loop : ReadLoop) : Prop := ∀ result, loop ≠ .returned result

section Calls

variable {loop next : ReadLoop} {result : RecvResult} {bytes : Bytes}

/-- The four ways a call can go: it brings some bytes, meets the end of the stream, is interrupted,
or fails. -/
theorem recvCall_cases (taken : recvCall loop result = some (bytes, next)) : loop.Runs ∧
    ((∃ first more, result = .data first more ∧ more.length < loop.missing ∧
        bytes = first :: more ∧ next = loop.take (first :: more)) ∨
      (result = .closed ∧ bytes = [] ∧ next = .returned (.error .peerClosed)) ∨
      (∃ errno, result = .failed errno ∧ recvFailure errno = none ∧ bytes = [] ∧ next = loop) ∨
      ∃ errno status, result = .failed errno ∧ recvFailure errno = some status ∧ bytes = [] ∧
        next = .returned (.error status)) := by
  have runs : loop.Runs := by
    rintro other rfl
    cases taken
  refine ⟨runs, ?_⟩
  cases result with
  | data first more =>
      have called : (if more.length < loop.missing then
          some (first :: more, loop.take (first :: more)) else none) = some (bytes, next) := by
        cases loop with
        | returned other => exact absurd rfl (runs other)
        | _ => exact taken
      split_ifs at called with fits
      cases called
      exact .inl ⟨first, more, rfl, fits, rfl, rfl⟩
  | closed =>
      cases loop with
      | returned other => exact absurd rfl (runs other)
      | _ => cases taken; exact .inr (.inl ⟨rfl, rfl, rfl⟩)
  | failed errno =>
      have called : (match recvFailure errno with
          | none => some ([], loop)
          | some status => some ([], .returned (.error status))) = some (bytes, next) := by
        cases loop with
        | returned other => exact absurd rfl (runs other)
        | _ => exact taken
      cases failure : recvFailure errno with
      | none =>
          rw [failure] at called
          cases called
          exact .inr (.inr (.inl ⟨errno, rfl, failure, rfl, rfl⟩))
      | some status =>
          rw [failure] at called
          cases called
          exact .inr (.inr (.inr ⟨errno, status, rfl, failure, rfl, rfl⟩))

end Calls

/-! ### The calls and `readFrame` -/

/-- A read, and what is done with its bytes. -/
def readThen (socket : List (Chunk Errno)) (count : Nat)
    (next : Bytes → List (Chunk Errno) → Except FrameReadStatus Frame × List (Chunk Errno)) :
    Except FrameReadStatus Frame × List (Chunk Errno) :=
  match readExact socket count with
  | (.error status, socket) => (.error status, socket)
  | (.ok bytes, socket) => next bytes socket

section ReadThen

variable {count : Nat} {rest : List (Chunk Errno)}
  {next : Bytes → List (Chunk Errno) → Except FrameReadStatus Frame × List (Chunk Errno)}

theorem readThen_zero (socket : List (Chunk Errno)) : readThen socket 0 next = next [] socket := by
  rw [readThen, readExact, readExact_zero]

/-- A piece that does not bring too much. -/
theorem readThen_data {first : UInt8} {more : Bytes} (fits : more.length < count) :
    readThen (.data first more :: rest) count next =
      readThen rest (count - (more.length + 1)) fun bytes => next (first :: more ++ bytes) := by
  obtain ⟨less, rfl⟩ := Nat.exists_eq_succ_of_ne_zero (Nat.ne_zero_of_lt fits)
  have inside : more.length ≤ less := Nat.le_of_lt_succ fits
  simp only [readThen, readExact, ExodusOps.readExact, if_pos inside, Nat.succ_sub_succ]
  generalize ExodusOps.readExact recvFailure .peerClosed rest (less - more.length) = later
  obtain ⟨result, left⟩ := later
  cases result <;> rfl

theorem readThen_retry {errno : Errno} (asks : 0 < count) (retried : recvFailure errno = none) :
    readThen (.event errno :: rest) count next = readThen rest count next := by
  obtain ⟨less, rfl⟩ := Nat.exists_eq_succ_of_ne_zero (Nat.ne_zero_of_lt asks)
  simp only [readThen, readExact, ExodusOps.readExact, retried]

theorem readThen_fails {errno : Errno} {status : FrameReadStatus} (asks : 0 < count)
    (failed : recvFailure errno = some status) :
    readThen (.event errno :: rest) count next = (.error status, rest) := by
  obtain ⟨less, rfl⟩ := Nat.exists_eq_succ_of_ne_zero (Nat.ne_zero_of_lt asks)
  simp only [readThen, readExact, ExodusOps.readExact, failed]

theorem readThen_end (asks : 0 < count) : readThen [] count next = (.error .peerClosed, []) := by
  obtain ⟨less, rfl⟩ := Nat.exists_eq_succ_of_ne_zero (Nat.ne_zero_of_lt asks)
  rfl

end ReadThen

namespace ReadLoop

/-- The rest of `readFrame` from the payload on. -/
def payloadFrom (payloadLen : UInt32) (envelope received : Bytes) (socket : List (Chunk Errno)) :
    Except FrameReadStatus Frame × List (Chunk Errno) :=
  readThen socket (payloadLen.toNat - received.length) fun bytes socket =>
    (.ok ⟨envelope.getD 1 0, wordAt envelope 2, received ++ bytes⟩, socket)

/-- From the envelope on. -/
def envelopeFrom (payloadLen : UInt32) (received : Bytes) (socket : List (Chunk Errno)) :
    Except FrameReadStatus Frame × List (Chunk Errno) :=
  readThen socket (envelopeSize.toNat - received.length) fun bytes socket =>
    let envelope := received ++ bytes
    if payloadLen > 0 then payloadFrom payloadLen envelope [] socket
    else (.ok ⟨envelope.getD 1 0, wordAt envelope 2, []⟩, socket)

/-- From the frame length on. -/
def lengthFrom (received : Bytes) (socket : List (Chunk Errno)) :
    Except FrameReadStatus Frame × List (Chunk Errno) :=
  readThen socket (frameLengthPrefixSize.toNat - received.length) fun bytes socket =>
    let frameLen := wordAt (received ++ bytes) 0
    if frameLen < envelopeSize then (.error .ioError, socket)
    else if frameLen - envelopeSize > maxFramePayload then (.error .ioError, socket)
    else envelopeFrom (frameLen - envelopeSize) [] socket

/-- **The rest of `readFrame`** on a stream. -/
def resume (socket : List (Chunk Errno)) :
    ReadLoop → Except FrameReadStatus Frame × List (Chunk Errno)
  | .length received => lengthFrom received socket
  | .envelope payloadLen received => envelopeFrom payloadLen received socket
  | .payload payloadLen head received => payloadFrom payloadLen head received socket
  | .returned result => (result, socket)

theorem resume_start (socket : List (Chunk Errno)) : start.resume socket = readFrame socket := by
  show lengthFrom [] socket = readFrame socket
  rfl

theorem resume_afterLength (lenBuf : Bytes) (socket : List (Chunk Errno)) :
    (afterLength lenBuf).resume socket =
      if wordAt lenBuf 0 < envelopeSize then (.error .ioError, socket)
      else if wordAt lenBuf 0 - envelopeSize > maxFramePayload then (.error .ioError, socket)
      else envelopeFrom (wordAt lenBuf 0 - envelopeSize) [] socket := by
  unfold afterLength
  simp only
  split
  · rfl
  · split <;> rfl

theorem resume_afterEnvelope (payloadLen : UInt32) (envelope : Bytes)
    (socket : List (Chunk Errno)) :
    (afterEnvelope payloadLen envelope).resume socket =
      if payloadLen > 0 then payloadFrom payloadLen envelope [] socket
      else (.ok ⟨envelope.getD 1 0, wordAt envelope 2, []⟩, socket) := by
  unfold afterEnvelope
  split <;> rfl

/-- The bytes of a call are those the rest of `readFrame` takes first. -/
theorem resume_take {loop : ReadLoop} {first : UInt8} {more : Bytes}
    (fits : more.length < loop.missing) (rest : List (Chunk Errno)) :
    (loop.take (first :: more)).resume rest = loop.resume (.data first more :: rest) := by
  cases loop with
  | returned result => exact absurd fits (Nat.not_lt_zero _)
  | length received =>
      have fits : more.length < frameLengthPrefixSize.toNat - received.length := fits
      have size : (received ++ first :: more).length = received.length + (more.length + 1) := by
        rw [List.length_append, List.length_cons]
      rw [take, resume, lengthFrom, readThen_data fits, size]
      split
      · show lengthFrom (received ++ first :: more) rest = _
        simp only [lengthFrom, size, Nat.sub_sub, List.append_assoc]
      · rw [resume_afterLength, show frameLengthPrefixSize.toNat - received.length -
          (more.length + 1) = 0 by omega, readThen_zero, List.append_nil]
  | envelope payloadLen received =>
      have fits : more.length < envelopeSize.toNat - received.length := fits
      have size : (received ++ first :: more).length = received.length + (more.length + 1) := by
        rw [List.length_append, List.length_cons]
      rw [take, resume, envelopeFrom, readThen_data fits, size]
      split
      · show envelopeFrom payloadLen (received ++ first :: more) rest = _
        simp only [envelopeFrom, size, Nat.sub_sub, List.append_assoc]
      · rw [resume_afterEnvelope, show envelopeSize.toNat - received.length -
          (more.length + 1) = 0 by omega, readThen_zero, List.append_nil]
  | payload payloadLen head received =>
      have fits : more.length < payloadLen.toNat - received.length := fits
      have size : (received ++ first :: more).length = received.length + (more.length + 1) := by
        rw [List.length_append, List.length_cons]
      rw [take, resume, payloadFrom, readThen_data fits, size]
      split
      · show payloadFrom payloadLen head (received ++ first :: more) rest = _
        simp only [payloadFrom, size, Nat.sub_sub, List.append_assoc]
      · rw [show payloadLen.toNat - received.length - (more.length + 1) = 0 by omega,
          readThen_zero, List.append_nil]
        rfl

/-- Every read has something to ask for. -/
def Asks (loop : ReadLoop) : Prop := loop.Runs → 0 < loop.missing

theorem asks_start : start.Asks := fun _ => by decide

theorem asks_returned (result : Except FrameReadStatus Frame) : (returned result).Asks :=
  fun runs => absurd rfl (runs result)

theorem asks_afterLength (lenBuf : Bytes) : (afterLength lenBuf).Asks := by
  unfold afterLength
  simp only
  split
  · exact asks_returned _
  · split
    · exact asks_returned _
    · exact fun _ => Nat.succ_pos 9

theorem asks_afterEnvelope (payloadLen : UInt32) (head : Bytes) :
    (afterEnvelope payloadLen head).Asks := by
  unfold afterEnvelope
  split
  · rename_i more
    intro _
    show 0 < payloadLen.toNat - 0
    rw [Nat.sub_zero]
    exact UInt32.lt_iff_toNat_lt.mp more
  · exact asks_returned _

theorem asks_take (bytes : Bytes) (loop : ReadLoop) : (loop.take bytes).Asks := by
  cases loop with
  | length received =>
      rw [take]
      split
      · exact fun _ => Nat.sub_pos_of_lt (by assumption)
      · exact asks_afterLength _
  | envelope payloadLen received =>
      rw [take]
      split
      · exact fun _ => Nat.sub_pos_of_lt (by assumption)
      · exact asks_afterEnvelope _ _
  | payload payloadLen head received =>
      rw [take]
      split
      · exact fun _ => Nat.sub_pos_of_lt (by assumption)
      · exact asks_returned _
  | returned result => exact asks_returned result

theorem asks_of_call {loop next : ReadLoop} {result : RecvResult} {bytes : Bytes}
    (taken : recvCall loop result = some (bytes, next)) (asks : loop.Asks) : next.Asks := by
  obtain ⟨-, ⟨_, _, -, -, -, rfl⟩ | ⟨-, -, rfl⟩ | ⟨_, -, -, -, rfl⟩ | ⟨_, _, -, -, -, rfl⟩⟩ :=
    recvCall_cases taken
  · exact asks_take _ loop
  · exact asks_returned _
  · exact asks
  · exact asks_returned _

/-- What `readFrame` does where it has something to ask for: it reads. -/
theorem resume_reads {loop : ReadLoop} (runs : loop.Runs) : ∃ next,
    ∀ socket, loop.resume socket = readThen socket loop.missing next := by
  cases loop with
  | returned result => exact absurd rfl (runs result)
  | _ => exact ⟨_, fun _ => rfl⟩

end ReadLoop

/-- A result as a piece of a stream; a stream that is closed has no more of them. -/
def RecvResult.piece : RecvResult → List (Chunk Errno)
  | .data first more => [.data first more]
  | .closed => []
  | .failed errno => [.event errno]

/-- The stream that the calls of a run took. -/
def takenBy (calls : List (Transition ReadLoop RecvResult Bytes)) : List (Chunk Errno) :=
  calls.flatMap fun call => call.event.piece

section Runs

variable {calls : List (Transition ReadLoop RecvResult Bytes)} {loop next : ReadLoop}

/-- **One call** is the beginning of the rest of `readFrame`. -/
theorem recvCall_resume {result : RecvResult} {bytes : Bytes}
    (taken : recvCall loop result = some (bytes, next)) (asks : loop.Asks)
    (rest : List (Chunk Errno)) (ends : result = .closed → rest = []) :
    loop.resume (result.piece ++ rest) = next.resume rest := by
  obtain ⟨runs, cases⟩ := recvCall_cases taken
  obtain ⟨after, reads⟩ := ReadLoop.resume_reads runs
  rcases cases with ⟨first, more, rfl, fits, -, rfl⟩ | ⟨rfl, -, rfl⟩ |
    ⟨errno, rfl, retried, -, rfl⟩ | ⟨errno, status, rfl, failed, -, rfl⟩
  · exact (ReadLoop.resume_take fits rest).symm
  · rw [ends rfl, reads]
    exact readThen_end (asks runs)
  · rw [reads, reads]
    exact readThen_retry (asks runs) retried
  · rw [reads]
    exact readThen_fails (asks runs) failed

theorem asks_of_calls (run : Run recvCall .start calls loop) : loop.Asks :=
  run.invariant ReadLoop.Asks ReadLoop.asks_start ReadLoop.asks_of_call

/-- The bytes of the stream taken are those the calls brought. -/
theorem streamBytes_takenBy (run : Run recvCall .start calls loop) :
    streamBytes (takenBy calls) = (calls.map Transition.output).flatten := by
  induction run with
  | nil => rfl
  | snoc _ taken ih =>
      rw [takenBy, List.flatMap_append, streamBytes_append, List.map_append, List.flatten_append]
      congr 1
      obtain ⟨-, ⟨_, _, rfl, -, rfl, -⟩ | ⟨rfl, rfl, -⟩ | ⟨_, rfl, -, rfl, -⟩ |
        ⟨_, _, rfl, -, rfl, -⟩⟩ := recvCall_cases taken <;> simp [RecvResult.piece, streamBytes]

/-- **The calls are those of `readFrame`.** While they last, `readFrame` on the stream they took and
anything that follows it is the rest of `readFrame` on what follows; when they have led to a result,
it is the result of `readFrame`, and what follows is left untouched. Nothing follows the end of the
stream. -/
theorem recvCalls_readFrame (run : Run recvCall .start calls loop) (rest : List (Chunk Errno))
    (ends : loop = .returned (.error .peerClosed) → rest = []) :
    readFrame (takenBy calls ++ rest) = loop.resume rest := by
  induction run generalizing rest with
  | nil => exact (ReadLoop.resume_start rest).symm
  | @snoc calls loop next result bytes previous taken ih =>
      have runs := (recvCall_cases taken).1
      have behind := ih (result.piece ++ rest) fun ended => absurd ended (runs _)
      have split : takenBy (calls ++ [⟨loop, result, bytes, next⟩]) ++ rest =
          takenBy calls ++ (result.piece ++ rest) := by
        simp [takenBy]
      rw [split, behind]
      refine recvCall_resume taken (asks_of_calls previous) rest fun closed => ends ?_
      subst closed
      obtain ⟨-, ⟨_, _, absent, -⟩ | ⟨-, -, rfl⟩ | ⟨_, absent, -⟩ | ⟨_, _, absent, -⟩⟩ :=
        recvCall_cases taken
      · cases absent
      · rfl
      · cases absent
      · cases absent

/-- **Calls that led to a frame took that frame** off the stream. -/
theorem recvCalls_isFrame {frame : Frame}
    (run : Run recvCall .start calls (.returned (.ok frame))) :
    IsFrame (calls.map Transition.output).flatten frame := by
  have read := recvCalls_readFrame run [] fun _ => rfl
  rw [List.append_nil] at read
  obtain ⟨bytes, isFrame, whole⟩ := readFrame_ok read
  rw [streamBytes_takenBy run] at whole
  rw [whole, streamBytes, List.append_nil]
  exact isFrame

end Runs

end ExodusOps.MessageSerializer
