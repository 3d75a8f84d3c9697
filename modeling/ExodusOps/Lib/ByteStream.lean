/-
**Reading a byte stream that arrives in pieces.**

A stream is what successive receive calls will deliver: non-empty pieces of data, and between them
occurrences that are not data (an interrupt, an expired timer, an error). `readExact` is the loop
that asks for the bytes still missing until it has `count` of them. An occurrence either is retried
or ends the read, as `onEvent` says; the end of the stream ends it with `atEnd`.

* `readExact_ok` — **conservation.** A finished read took exactly `count` bytes, and these and the
  bytes left are the bytes of the stream, in order.
* `readExact_incoming`, `readExact_incoming_short` — **what a read depends on.** The bytes that
  arrive before an occurrence that is not retried (`incoming`), and that occurrence or the end of
  the stream (`stopOf`), decide the result, however the bytes are cut into pieces.
* `readExact_quiet`, `readExact_quiet_append` — the case where every occurrence is retried: the
  result is a function of the bytes alone.
* `readExact_leading`, `readExact_leading_short` — the case where none is: the read finishes or not
  by what arrives before the first one (`leading`).
* `readExact_putBack`, `readExact_putBack_event`, `readExact_putBack_end` — a read from bytes that
  are there, with an occurrence or the end behind them.
* `receives_error`, `receives_ok` — the receive calls of a read (`receives`), and what the last of
  them came back with.
-/

import ExodusOps.Lib.Bytes

namespace ExodusOps

/-- One thing a receive call can deliver. A piece of data has at least one byte: an empty receive
means the end of the stream, which is the end of the list. -/
inductive Chunk (ε : Type) where
  | data (first : UInt8) (more : Bytes)
  | event (occurrence : ε)
  deriving DecidableEq

section ByteStream

variable {ε σ : Type}

/-- The bytes of a stream. -/
def streamBytes : List (Chunk ε) → Bytes
  | [] => []
  | .data first more :: rest => (first :: more) ++ streamBytes rest
  | .event _ :: rest => streamBytes rest

/-- Put back the unread end of a piece. -/
def putBack : Bytes → List (Chunk ε) → List (Chunk ε)
  | [], rest => rest
  | first :: more, rest => .data first more :: rest

/-- Read exactly `count` bytes: what was read, or why the read ended early, and the stream that is
left. -/
def readExact (onEvent : ε → Option σ) (atEnd : σ) :
    List (Chunk ε) → Nat → Except σ Bytes × List (Chunk ε)
  | stream, 0 => (.ok [], stream)
  | [], _ + 1 => (.error atEnd, [])
  | .event occurrence :: rest, count + 1 =>
      match onEvent occurrence with
      | none => readExact onEvent atEnd rest (count + 1)
      | some status => (.error status, rest)
  | .data first more :: rest, count + 1 =>
      if more.length ≤ count then
        let later := readExact onEvent atEnd rest (count - more.length)
        (later.1.map fun bytes => first :: more ++ bytes, later.2)
      else (.ok (first :: more.take count), putBack (more.drop count) rest)

@[simp] theorem streamBytes_putBack (bytes : Bytes) (rest : List (Chunk ε)) :
    streamBytes (putBack bytes rest) = bytes ++ streamBytes rest := by
  cases bytes <;> rfl

theorem streamBytes_append (front back : List (Chunk ε)) :
    streamBytes (front ++ back) = streamBytes front ++ streamBytes back := by
  induction front with
  | nil => rfl
  | cons chunk rest ih => cases chunk <;> simp [streamBytes, ih]

theorem readExact_zero (onEvent : ε → Option σ) (atEnd : σ) (stream : List (Chunk ε)) :
    readExact onEvent atEnd stream 0 = (.ok [], stream) := by
  cases stream <;> rfl

/-! ### Conservation -/

/-- **A finished read** took exactly `count` bytes off the front of the stream. -/
theorem readExact_ok (onEvent : ε → Option σ) (atEnd : σ) (stream : List (Chunk ε)) (count : Nat)
    {bytes : Bytes} (done : (readExact onEvent atEnd stream count).1 = .ok bytes) :
    bytes.length = count ∧
      streamBytes stream = bytes ++ streamBytes (readExact onEvent atEnd stream count).2 := by
  induction stream generalizing count bytes with
  | nil =>
      cases count with
      | zero => cases done; exact ⟨rfl, rfl⟩
      | succ count => cases done
  | cons chunk rest ih =>
      cases count with
      | zero => rw [readExact_zero] at done ⊢; cases done; exact ⟨rfl, rfl⟩
      | succ count =>
          cases chunk with
          | event occurrence =>
              cases retried : onEvent occurrence with
              | none =>
                  simp only [readExact, retried] at done ⊢
                  exact ih (count + 1) done
              | some status => simp [readExact, retried] at done
          | data first more =>
              by_cases fits : more.length ≤ count
              · simp only [readExact, if_pos fits] at done ⊢
                cases later : (readExact onEvent atEnd rest (count - more.length)).1 with
                | error status => rw [later] at done; cases done
                | ok tail =>
                    rw [later] at done
                    cases done
                    obtain ⟨size, split⟩ := ih _ later
                    refine ⟨?_, ?_⟩
                    · simp only [List.cons_append, List.length_cons, List.length_append, size]
                      omega
                    · simp only [streamBytes, List.cons_append, List.append_assoc]
                      rw [split]
              · simp only [readExact, if_neg fits] at done ⊢
                cases done
                refine ⟨by simp only [List.length_cons, List.length_take]; omega, ?_⟩
                rw [streamBytes_putBack, streamBytes, List.cons_append, List.cons_append,
                  ← List.append_assoc, List.take_append_drop]

/-! ### What arrives before a read is stopped -/

/-- The bytes before the first occurrence that `stops` a read. -/
def incoming (stops : ε → Bool) : List (Chunk ε) → Bytes
  | [] => []
  | .data first more :: rest => (first :: more) ++ incoming stops rest
  | .event occurrence :: rest => if stops occurrence then [] else incoming stops rest

/-- The first occurrence that `stops` a read; `none` where the stream ends before one does. -/
def stopOf (stops : ε → Bool) : List (Chunk ε) → Option ε
  | [] => none
  | .data _ _ :: rest => stopOf stops rest
  | .event occurrence :: rest => if stops occurrence then some occurrence else stopOf stops rest

theorem incoming_starts (stops : ε → Bool) (stream : List (Chunk ε)) :
    incoming stops stream <+: streamBytes stream := by
  induction stream with
  | nil => exact List.nil_prefix
  | cons chunk rest ih =>
      cases chunk with
      | data first more => exact (List.prefix_append_right_inj (first :: more)).mpr ih
      | event occurrence =>
          unfold incoming streamBytes
          split
          · exact List.nil_prefix
          · exact ih

theorem incoming_putBack (stops : ε → Bool) (bytes : Bytes) (rest : List (Chunk ε)) :
    incoming stops (putBack bytes rest) = bytes ++ incoming stops rest := by
  cases bytes <;> rfl

theorem stopOf_putBack (stops : ε → Bool) (bytes : Bytes) (rest : List (Chunk ε)) :
    stopOf stops (putBack bytes rest) = stopOf stops rest := by
  cases bytes <;> rfl

/-- **Enough bytes**: where whatever does not stop a read is retried, the read returns the first
`count` of the bytes to come, and the others are still to come. -/
theorem readExact_incoming {onEvent : ε → Option σ} {stops : ε → Bool}
    (retried : ∀ occurrence, stops occurrence = false → onEvent occurrence = none) (atEnd : σ)
    (stream : List (Chunk ε)) (count : Nat) (enough : count ≤ (incoming stops stream).length) :
    ∃ rest, readExact onEvent atEnd stream count =
        (.ok ((incoming stops stream).take count), rest) ∧
      incoming stops rest = (incoming stops stream).drop count ∧
      stopOf stops rest = stopOf stops stream ∧
      streamBytes rest = (streamBytes stream).drop count := by
  induction stream generalizing count with
  | nil =>
      obtain rfl : count = 0 := Nat.le_zero.mp enough
      exact ⟨[], rfl, rfl, rfl, rfl⟩
  | cons chunk rest ih =>
      cases count with
      | zero => exact ⟨chunk :: rest, readExact_zero _ _ _, by simp, rfl, by simp⟩
      | succ count =>
          cases chunk with
          | event occurrence =>
              cases stop : stops occurrence with
              | true => simp [incoming, stop] at enough
              | false =>
                  simp only [readExact, retried occurrence stop, incoming, stopOf, stop,
                    Bool.false_eq_true, if_false, streamBytes] at enough ⊢
                  exact ih (count + 1) enough
          | data first more =>
              by_cases fits : more.length ≤ count
              · simp only [incoming, List.cons_append, List.length_cons,
                  List.length_append] at enough
                obtain ⟨left, result, coming, stop, bytes⟩ := ih (count - more.length) (by omega)
                refine ⟨left, ?_, ?_, stop, ?_⟩
                · simp only [readExact, if_pos fits, result, Except.map, incoming,
                    List.cons_append, List.take_succ_cons, List.take_append,
                    List.take_of_length_le fits]
                · rw [coming, incoming, List.cons_append, List.drop_succ_cons, List.drop_append,
                    List.drop_eq_nil_of_le fits, List.nil_append]
                · rw [bytes, streamBytes, List.cons_append, List.drop_succ_cons, List.drop_append,
                    List.drop_eq_nil_of_le fits, List.nil_append]
              · refine ⟨putBack (more.drop count) rest, ?_, ?_, stopOf_putBack _ _ _, ?_⟩
                · simp only [readExact, if_neg fits, incoming, List.cons_append,
                    List.take_succ_cons]
                  rw [List.take_append_of_le_length (by omega)]
                · rw [incoming_putBack, incoming, List.cons_append, List.drop_succ_cons,
                    List.drop_append_of_le_length (by omega)]
                · rw [streamBytes_putBack, streamBytes, List.cons_append, List.drop_succ_cons,
                    List.drop_append_of_le_length (by omega)]

/-- **Too few bytes**: where exactly what stops a read is not retried, the read ends as the first
such occurrence says, or at the end of the stream, and what had arrived is lost. -/
theorem readExact_incoming_short {onEvent : ε → Option σ} {stops : ε → Bool}
    (same : ∀ occurrence, stops occurrence = (onEvent occurrence).isSome) (atEnd : σ)
    (stream : List (Chunk ε)) (count : Nat) (short : (incoming stops stream).length < count) :
    ∃ rest, readExact onEvent atEnd stream count =
        (.error (((stopOf stops stream).bind onEvent).getD atEnd), rest) ∧
      streamBytes rest = (streamBytes stream).drop (incoming stops stream).length ∧
      (stopOf stops stream = none → rest = []) := by
  obtain ⟨count, rfl⟩ := Nat.exists_eq_succ_of_ne_zero (Nat.ne_zero_of_lt short)
  induction stream generalizing count with
  | nil => exact ⟨[], rfl, rfl, fun _ => rfl⟩
  | cons chunk rest ih =>
      cases chunk with
      | event occurrence =>
          have stop := same occurrence
          cases outcome : onEvent occurrence with
          | none =>
              rw [outcome, Option.isSome_none] at stop
              simp only [readExact, outcome, incoming, stopOf, stop, Bool.false_eq_true, if_false,
                streamBytes] at short ⊢
              exact ih count short
          | some status =>
              rw [outcome, Option.isSome_some] at stop
              refine ⟨rest, ?_, ?_, ?_⟩
              · simp only [readExact, outcome, stopOf, stop, if_true, Option.bind_some,
                  Option.getD_some]
              · simp only [incoming, stop, if_true, List.length_nil, List.drop_zero, streamBytes]
              · simp only [stopOf, stop, if_true, reduceCtorEq, false_implies]
      | data first more =>
          simp only [incoming, List.cons_append, List.length_cons, List.length_append] at short
          obtain ⟨gap, size⟩ := Nat.exists_eq_add_of_lt (show more.length < count by omega)
          obtain ⟨left, result, bytes, ended⟩ := ih gap (by omega)
          refine ⟨left, ?_, ?_, ended⟩
          · rw [show gap.succ = count - more.length by omega] at result
            simp only [readExact, if_pos (show more.length ≤ count by omega), result, Except.map,
              stopOf]
          · simp only [bytes, streamBytes, incoming, List.cons_append, List.length_cons,
              List.length_append, List.drop_succ_cons, List.drop_append]
            rw [List.drop_eq_nil_of_le (Nat.le_add_right more.length (incoming stops rest).length),
              List.nil_append, Nat.add_sub_cancel_left]

/-! ### Chunking does not matter -/

/-- Every occurrence on the stream is one that is retried. -/
def Quiet (onEvent : ε → Option σ) (stream : List (Chunk ε)) : Prop :=
  ∀ occurrence, Chunk.event occurrence ∈ stream → onEvent occurrence = none

theorem Quiet.tail {onEvent : ε → Option σ} {chunk : Chunk ε} {rest : List (Chunk ε)}
    (quiet : Quiet onEvent (chunk :: rest)) : Quiet onEvent rest :=
  fun occurrence member => quiet occurrence (List.mem_cons_of_mem _ member)

theorem Quiet.putBack {onEvent : ε → Option σ} {rest : List (Chunk ε)}
    (quiet : Quiet onEvent rest) (bytes : Bytes) : Quiet onEvent (putBack bytes rest) := by
  cases bytes with
  | nil => exact quiet
  | cons first more =>
      intro occurrence member
      rcases List.mem_cons.mp member with same | member
      · cases same
      · exact quiet occurrence member

/-- A stream is quiet exactly where nothing stops a read. -/
theorem quiet_iff_stopOf (onEvent : ε → Option σ) (stream : List (Chunk ε)) :
    Quiet onEvent stream ↔
      stopOf (fun occurrence => (onEvent occurrence).isSome) stream = none := by
  induction stream with
  | nil => exact iff_of_true nofun rfl
  | cons chunk rest ih =>
      unfold Quiet at ih ⊢
      cases chunk with
      | data first more => simpa [stopOf] using ih
      | event occurrence => cases outcome : onEvent occurrence <;> simp [stopOf, outcome, ih]

/-- **Behind a quiet part** a read goes on with what follows it. -/
theorem incoming_quiet_append {onEvent : ε → Option σ} {stream : List (Chunk ε)}
    (quiet : Quiet onEvent stream) (after : List (Chunk ε)) :
    let stops := fun occurrence => (onEvent occurrence).isSome
    incoming stops (stream ++ after) = streamBytes stream ++ incoming stops after ∧
      stopOf stops (stream ++ after) = stopOf stops after := by
  induction stream with
  | nil => exact ⟨rfl, rfl⟩
  | cons chunk rest ih =>
      obtain ⟨bytes, stop⟩ := ih quiet.tail
      cases chunk with
      | data first more =>
          simp only [List.cons_append, incoming, stopOf, streamBytes, bytes, stop,
            List.append_assoc, and_self]
      | event occurrence =>
          simp only [List.cons_append, incoming, stopOf, streamBytes, bytes, stop,
            quiet occurrence List.mem_cons_self, Option.isSome_none, Bool.false_eq_true, if_false,
            and_self]

theorem incoming_quiet {onEvent : ε → Option σ} {stream : List (Chunk ε)}
    (quiet : Quiet onEvent stream) :
    incoming (fun occurrence => (onEvent occurrence).isSome) stream = streamBytes stream := by
  simpa [incoming] using (incoming_quiet_append quiet []).1

/-- **Enough bytes**: a read over a quiet stream returns the first `count` bytes and leaves a quiet
stream of the others. -/
theorem readExact_quiet (onEvent : ε → Option σ) (atEnd : σ) (stream : List (Chunk ε))
    (count : Nat) (quiet : Quiet onEvent stream) (enough : count ≤ (streamBytes stream).length) :
    ∃ rest, readExact onEvent atEnd stream count = (.ok ((streamBytes stream).take count), rest) ∧
      streamBytes rest = (streamBytes stream).drop count ∧ Quiet onEvent rest := by
  rw [← incoming_quiet quiet] at enough
  have retried : ∀ occurrence, (onEvent occurrence).isSome = false → onEvent occurrence = none :=
    fun _ => Option.not_isSome_iff_eq_none.mp ∘ Bool.eq_false_iff.mp
  obtain ⟨rest, result, _, stop, bytes⟩ := readExact_incoming retried atEnd stream count enough
  refine ⟨rest, ?_, bytes, ?_⟩
  · rw [result, incoming_quiet quiet]
  · rw [quiet_iff_stopOf] at quiet ⊢
    rw [stop, quiet]

/-- A read over a quiet stream that starts with `bytes` returns them and leaves what follows. -/
theorem readExact_quiet_append (onEvent : ε → Option σ) (atEnd : σ) {stream : List (Chunk ε)}
    {bytes rest : Bytes} (quiet : Quiet onEvent stream)
    (starts : streamBytes stream = bytes ++ rest) :
    ∃ left, readExact onEvent atEnd stream bytes.length = (.ok bytes, left) ∧
      streamBytes left = rest ∧ Quiet onEvent left := by
  have enough : bytes.length ≤ (streamBytes stream).length := by
    rw [starts, List.length_append]
    omega
  obtain ⟨left, result, remaining, quietLeft⟩ :=
    readExact_quiet onEvent atEnd stream bytes.length quiet enough
  refine ⟨left, ?_, ?_, quietLeft⟩
  · rw [result, starts, List.take_left]
  · rw [remaining, starts, List.drop_left]

/-- **Too few bytes**: a read over a quiet stream consumes all of it and reports its end. -/
theorem readExact_quiet_short (onEvent : ε → Option σ) (atEnd : σ) (stream : List (Chunk ε))
    (count : Nat) (quiet : Quiet onEvent stream) (short : (streamBytes stream).length < count) :
    readExact onEvent atEnd stream count = (.error atEnd, []) := by
  rw [← incoming_quiet quiet] at short
  obtain ⟨rest, result, _, ended⟩ :=
    readExact_incoming_short (fun _ => rfl) atEnd stream count short
  rw [quiet_iff_stopOf] at quiet
  rw [result, ended quiet, quiet]
  rfl

/-! ### What arrives before the first occurrence -/

/-- The bytes before the first occurrence. -/
def leading : List (Chunk ε) → Bytes
  | .data first more :: rest => (first :: more) ++ leading rest
  | _ => []

/-- They are what comes where every occurrence stops a read. -/
theorem leading_eq_incoming (stream : List (Chunk ε)) :
    leading stream = incoming (fun _ => true) stream := by
  induction stream with
  | nil => rfl
  | cons chunk rest ih =>
      cases chunk with
      | event occurrence => rfl
      | data first more => rw [leading, ih, incoming]

theorem leading_starts (stream : List (Chunk ε)) : leading stream <+: streamBytes stream := by
  rw [leading_eq_incoming]
  exact incoming_starts _ stream

/-- **Enough before the first occurrence**: the read finishes. -/
theorem readExact_leading (onEvent : ε → Option σ) (atEnd : σ) (stream : List (Chunk ε))
    (count : Nat) (enough : count ≤ (leading stream).length) :
    ∃ rest, readExact onEvent atEnd stream count = (.ok ((leading stream).take count), rest) ∧
      leading rest = (leading stream).drop count ∧
      streamBytes rest = (streamBytes stream).drop count := by
  rw [leading_eq_incoming] at enough
  have retried : ∀ occurrence : ε, true = false → onEvent occurrence = none := nofun
  obtain ⟨rest, result, coming, _, bytes⟩ := readExact_incoming retried atEnd stream count enough
  simp only [← leading_eq_incoming] at result coming
  exact ⟨rest, result, coming, bytes⟩

/-- **Too little before the first occurrence**, and nothing is retried: the read fails, and what had
arrived is lost. -/
theorem readExact_leading_short {onEvent : ε → Option σ}
    (ends : ∀ occurrence, onEvent occurrence ≠ none) (atEnd : σ) (stream : List (Chunk ε))
    (count : Nat) (short : (leading stream).length < count) :
    ∃ status rest, readExact onEvent atEnd stream count = (.error status, rest) ∧
      streamBytes rest = (streamBytes stream).drop (leading stream).length := by
  rw [leading_eq_incoming] at short ⊢
  have same : ∀ occurrence, true = (onEvent occurrence).isSome :=
    fun occurrence => (Option.isSome_iff_ne_none.mpr (ends occurrence)).symm
  obtain ⟨rest, result, bytes, _⟩ := readExact_incoming_short same atEnd stream count short
  exact ⟨_, rest, result, bytes⟩

/-! ### Some bytes, and what follows them -/

/-- **Enough bytes**: the read is finished with them. -/
theorem readExact_putBack (onEvent : ε → Option σ) (atEnd : σ) {bytes : Bytes} {count : Nat}
    (enough : count ≤ bytes.length) (rest : List (Chunk ε)) :
    readExact onEvent atEnd (putBack bytes rest) count =
      (.ok (bytes.take count), putBack (bytes.drop count) rest) := by
  cases count with
  | zero => exact readExact_zero onEvent atEnd _
  | succ count =>
      cases bytes with
      | nil => cases enough
      | cons first more =>
          have enough : count ≤ more.length := Nat.le_of_succ_le_succ enough
          show readExact onEvent atEnd (.data first more :: rest) (count + 1) = _
          unfold readExact
          split_ifs with fits
          · obtain rfl := Nat.le_antisymm fits enough
            rw [Nat.sub_self, readExact_zero, List.take_succ_cons, List.drop_succ_cons,
              List.take_length, List.drop_length]
            show (Except.ok (first :: more ++ []), rest) = (.ok (first :: more), rest)
            rw [List.append_nil]
          · rfl

/-- **Too few bytes, and then an occurrence** that ends the read. -/
theorem readExact_putBack_event {onEvent : ε → Option σ} (atEnd : σ) {bytes : Bytes} {count : Nat}
    (short : bytes.length < count) {occurrence : ε} {status : σ}
    (ends : onEvent occurrence = some status) (rest : List (Chunk ε)) :
    readExact onEvent atEnd (putBack bytes (.event occurrence :: rest)) count =
      (.error status, rest) := by
  obtain ⟨less, rfl⟩ := Nat.exists_eq_succ_of_ne_zero (Nat.ne_zero_of_lt short)
  cases bytes with
  | nil => simp only [putBack, readExact, ends]
  | cons first more =>
      have fits : more.length < less := Nat.lt_of_succ_lt_succ short
      obtain ⟨left, missing⟩ := Nat.exists_eq_succ_of_ne_zero (Nat.sub_ne_zero_of_lt fits)
      simp only [putBack, readExact, if_pos (Nat.le_of_lt fits), missing, ends]
      rfl

/-- **Too few bytes, and then the end.** -/
theorem readExact_putBack_end (onEvent : ε → Option σ) (atEnd : σ) {bytes : Bytes} {count : Nat}
    (short : bytes.length < count) :
    readExact onEvent atEnd (putBack bytes []) count = (.error atEnd, []) := by
  obtain ⟨less, rfl⟩ := Nat.exists_eq_succ_of_ne_zero (Nat.ne_zero_of_lt short)
  cases bytes with
  | nil => rfl
  | cons first more =>
      have fits : more.length < less := Nat.lt_of_succ_lt_succ short
      obtain ⟨left, missing⟩ := Nat.exists_eq_succ_of_ne_zero (Nat.sub_ne_zero_of_lt fits)
      simp only [putBack, readExact, if_pos (Nat.le_of_lt fits), missing]
      rfl

/-! ### The receive calls behind a read -/

/-- What one receive call came back with. -/
inductive Received (ε : Type) where
  | data
  | closed
  | failed (occurrence : ε)
  deriving DecidableEq

/-- The receive calls `readExact` makes, in order. -/
def receives (onEvent : ε → Option σ) : List (Chunk ε) → Nat → List (Received ε)
  | _, 0 => []
  | [], _ + 1 => [.closed]
  | .event occurrence :: rest, count + 1 =>
      .failed occurrence ::
        match onEvent occurrence with
        | none => receives onEvent rest (count + 1)
        | some _ => []
  | .data _ more :: rest, count + 1 =>
      .data :: if more.length ≤ count then receives onEvent rest (count - more.length) else []

theorem receives_zero (onEvent : ε → Option σ) (stream : List (Chunk ε)) :
    receives onEvent stream 0 = [] := by
  cases stream <;> rfl

theorem receives_ne_nil (onEvent : ε → Option σ) (stream : List (Chunk ε)) (count : Nat) :
    receives onEvent stream (count + 1) ≠ [] := by
  cases stream with
  | nil => simp [receives]
  | cons chunk rest => cases chunk <;> simp [receives]

/-- **The last call of a read that fails** is the one that made it fail. -/
theorem receives_error (onEvent : ε → Option σ) (atEnd : σ) (stream : List (Chunk ε)) (count : Nat)
    {status : σ} (failed : (readExact onEvent atEnd stream count).1 = .error status) :
    (status = atEnd ∧ (receives onEvent stream count).getLast? = some .closed) ∨
      ∃ occurrence, onEvent occurrence = some status ∧
        (receives onEvent stream count).getLast? = some (.failed occurrence) := by
  induction stream generalizing count with
  | nil =>
      cases count with
      | zero => cases failed
      | succ count => cases failed; exact .inl ⟨rfl, rfl⟩
  | cons chunk rest ih =>
      cases count with
      | zero => rw [readExact_zero] at failed; cases failed
      | succ count =>
          cases chunk with
          | event occurrence =>
              cases retried : onEvent occurrence with
              | some other =>
                  simp only [readExact, receives, retried] at failed ⊢
                  cases failed
                  exact .inr ⟨occurrence, retried, rfl⟩
              | none =>
                  simp only [readExact, receives, retried] at failed ⊢
                  rw [List.getLast?_cons_of_ne_nil (receives_ne_nil _ _ _)]
                  exact ih (count + 1) failed
          | data first more =>
              by_cases fits : more.length ≤ count
              · simp only [readExact, receives, if_pos fits] at failed ⊢
                cases later : (readExact onEvent atEnd rest (count - more.length)).1 with
                | ok tail => rw [later] at failed; cases failed
                | error other =>
                    rw [later] at failed
                    cases failed
                    have called : receives onEvent rest (count - more.length) ≠ [] := by
                      intro nothing
                      rcases ih _ later with ⟨_, last⟩ | ⟨_, _, last⟩ <;> simp [nothing] at last
                    rw [List.getLast?_cons_of_ne_nil called]
                    exact ih _ later
              · simp only [readExact, if_neg fits] at failed
                cases failed

/-- **The last call of a read that finishes** delivered data. -/
theorem receives_ok (onEvent : ε → Option σ) (atEnd : σ) (stream : List (Chunk ε)) (count : Nat)
    {bytes : Bytes} (done : (readExact onEvent atEnd stream (count + 1)).1 = .ok bytes) :
    (receives onEvent stream (count + 1)).getLast? = some .data := by
  induction stream generalizing count bytes with
  | nil => cases done
  | cons chunk rest ih =>
      cases chunk with
      | event occurrence =>
          cases retried : onEvent occurrence with
          | some other => simp [readExact, retried] at done
          | none =>
              simp only [readExact, receives, retried] at done ⊢
              rw [List.getLast?_cons_of_ne_nil (receives_ne_nil _ _ _)]
              exact ih count done
      | data first more =>
          by_cases fits : more.length ≤ count
          · simp only [readExact, receives, if_pos fits] at done ⊢
            cases missing : count - more.length with
            | zero => rw [receives_zero]; rfl
            | succ missing' =>
                rw [missing] at done
                rw [List.getLast?_cons_of_ne_nil (receives_ne_nil _ _ _)]
                cases later : (readExact onEvent atEnd rest (missing' + 1)).1 with
                | error status => rw [later] at done; cases done
                | ok tail => exact ih _ later
          · simp only [receives, if_neg fits, List.getLast?_singleton]

end ByteStream

end ExodusOps
