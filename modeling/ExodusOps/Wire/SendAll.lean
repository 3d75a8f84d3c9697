/-
**Writing to a socket.**

`MessageSerializer::sendAll` hands its bytes to `send` until all are accepted or a call fails with
something other than an interrupt. What has been accepted by then is in the stream and stays there:
a call that returns `false` has written a proper prefix of its bytes, possibly none
(`sendAll_starts`).

`sendCall` is the same loop with its calls one at a time, each given the rest of the buffer from
`totalSent` on (`sendCalls_sendAll` relates the two):

* `sendCalls_accepted` — **the loop invariant**: what the calls have accepted, put together, is the
  buffer up to `totalSent`;
* `sendAll_returns` — **termination**: whatever `send` answers, once it no longer answers with an
  interrupt or with 0 every call moves `totalSent` on or ends the loop;
* `sendAll_honest` — the two with what each return value says.
-/

import ExodusOps.Lib.Machine
import ExodusOps.Wire.MessageSerializer
import Mathlib.Data.Set.Finite.Lattice
import Mathlib.Order.Interval.Finset.Nat

namespace ExodusOps

namespace MessageSerializer

/-- What one call of `send` returns: how many bytes it accepted, or the reason of a −1. -/
inductive SendResult where
  | sent (count : Nat)
  | failed (errno : Errno)
  deriving DecidableEq, Repr

/-- `sendAll`: what it returns and the bytes accepted, given what the calls of `send` return; `none`
while it is still in one of them, or where one claims to have accepted more than it was given. -/
def sendAll : Bytes → List SendResult → Option (Bool × Bytes)
  | [], _ => some (true, [])
  | _ :: _, [] => none
  | data, .sent count :: later =>
      if count ≤ data.length then
        (sendAll (data.drop count) later).map fun (done, wrote) => (done, data.take count ++ wrote)
      else none
  | data, .failed .eintr :: later => sendAll data later
  | _, .failed _ :: _ => some (false, [])

/-- **What is written is a prefix**, and all of it exactly when `sendAll` says so. -/
theorem sendAll_starts {data : Bytes} {results : List SendResult} {done : Bool} {wrote : Bytes}
    (called : sendAll data results = some (done, wrote)) :
    wrote <+: data ∧ (done = true ↔ wrote = data) := by
  induction results generalizing data wrote with
  | nil =>
      cases data with
      | nil =>
          cases called
          exact ⟨List.prefix_rfl, by simp⟩
      | cons first rest => cases called
  | cons result later ih =>
      cases data with
      | nil =>
          cases called
          exact ⟨List.prefix_rfl, by simp⟩
      | cons first rest =>
          cases result with
          | sent count =>
              simp only [sendAll] at called
              split_ifs at called with fits
              obtain ⟨⟨_, tail⟩, behind, same⟩ := Option.map_eq_some_iff.mp called
              cases same
              obtain ⟨starts, all⟩ := ih behind
              have whole := List.take_append_drop count (first :: rest)
              refine ⟨?_, all.trans ⟨fun tail => ?_, fun same => ?_⟩⟩
              · nth_rewrite 2 [← whole]
                exact (List.prefix_append_right_inj _).mpr starts
              · rw [tail, whole]
              · nth_rewrite 2 [← whole] at same
                exact List.append_cancel_left same
          | failed errno =>
              have stopped (ended : some (false, []) = some (done, wrote)) :
                  wrote <+: first :: rest ∧ (done = true ↔ wrote = first :: rest) := by
                cases ended
                refine ⟨?_, by simp⟩
                exact List.nil_prefix
              cases errno with
              | eintr => exact ih called
              | eagain => exact stopped called
              | econnreset => exact stopped called
              | other number => exact stopped called

/-! ### What the results say -/

/-- The failure on which `sendAll` gives up. -/
def SendResult.fails : SendResult → Bool
  | .failed errno => errno ≠ .eintr
  | .sent _ => false

def SendResult.accepts : SendResult → Bool
  | .sent count => 0 < count
  | .failed _ => false

/-- Some call accepts a byte before one fails. -/
def accepts (results : List SendResult) : Bool :=
  (results.takeWhile (!·.fails)).any SendResult.accepts

/-- A call fails, and one before it has accepted a byte. -/
def breaksOff (results : List SendResult) : Bool :=
  accepts results && results.any SendResult.fails

theorem accepts_cons {result : SendResult} (goesOn : result.fails = false)
    (later : List SendResult) : accepts (result :: later) = (result.accepts || accepts later) := by
  simp [accepts, goesOn]

/-- Without a call that accepts something nothing is written, and without one that fails `sendAll`
does not return `false`. -/
theorem sendAll_results {data : Bytes} {results : List SendResult} {done : Bool} {wrote : Bytes}
    (called : sendAll data results = some (done, wrote)) :
    (wrote ≠ [] → accepts results = true) ∧
      (done = false → results.any SendResult.fails = true) := by
  induction results generalizing data wrote with
  | nil =>
      cases data <;> cases called
      exact ⟨fun some => absurd rfl some, nofun⟩
  | cons result later ih =>
      cases data with
      | nil =>
          cases called
          exact ⟨fun some => absurd rfl some, nofun⟩
      | cons first rest =>
          cases result with
          | sent count =>
              simp only [sendAll] at called
              split_ifs at called
              obtain ⟨⟨_, tail⟩, behind, same⟩ := Option.map_eq_some_iff.mp called
              cases same
              obtain ⟨written, failed⟩ := ih behind
              refine ⟨fun some => ?_, fun gaveUp => ?_⟩
              · rw [accepts_cons rfl, Bool.or_eq_true]
                cases count with
                | zero => exact .inr (written some)
                | succ count => exact .inl rfl
              · rw [List.any_cons, failed gaveUp, Bool.or_true]
          | failed errno =>
              by_cases interrupted : errno = .eintr
              · subst interrupted
                obtain ⟨written, failed⟩ := ih called
                refine ⟨fun some => ?_, fun gaveUp => ?_⟩
                · rw [accepts_cons rfl, written some, Bool.or_true]
                · rw [List.any_cons, failed gaveUp, Bool.or_true]
              · have nothing : wrote = [] := by
                  rw [sendAll] at called
                  · cases called
                    rfl
                  · exact interrupted
                  · nofun
                refine ⟨fun some => absurd nothing some, fun _ => ?_⟩
                rw [List.any_cons, SendResult.fails, decide_eq_true interrupted, Bool.true_or]

/-! ### Call by call -/

/-- Where `sendAll` is, with its `totalSent`: about to call `send`, or back with what it returns. -/
inductive SendLoop where
  | sending (totalSent : Nat)
  | returned (done : Bool) (totalSent : Nat)
  deriving DecidableEq, Repr

/-- The number of bytes accepted so far. -/
def SendLoop.totalSent : SendLoop → Nat
  | .sending totalSent => totalSent
  | .returned _ totalSent => totalSent

/-- What `sendAll` has returned, if it has. -/
def SendLoop.value : SendLoop → Option Bool
  | .sending _ => none
  | .returned done _ => some done

section Calls

variable (data : Bytes)

/-- `sendAll` at the condition of its loop, `totalSent < size`. -/
def sendLoop (totalSent : Nat) : SendLoop :=
  if totalSent < data.length then .sending totalSent else .returned true totalSent

@[simp] theorem sendLoop_totalSent (totalSent : Nat) :
    (sendLoop data totalSent).totalSent = totalSent := by
  unfold sendLoop
  split <;> rfl

/-- One call of `send`, on `data + totalSent` with `size - totalSent` bytes, and what the loop does
with its result; the output is what the call accepted. `send` does not accept more than it is
given, and is not called once `sendAll` has returned. -/
def sendCall : SendLoop → SendResult → Option (Bytes × SendLoop)
  | .sending totalSent, .sent count =>
      if count ≤ data.length - totalSent then
        some ((data.drop totalSent).take count, sendLoop data (totalSent + count))
      else none
  | .sending totalSent, .failed .eintr => some ([], .sending totalSent)
  | .sending totalSent, .failed _ => some ([], .returned false totalSent)
  | .returned _ _, _ => none

variable {data}

/-- The three ways a call can go: it accepts some bytes, is interrupted, or fails. -/
theorem sendCall_cases {state next : SendLoop} {result : SendResult} {accepted : Bytes}
    (taken : sendCall data state result = some (accepted, next)) :
    ∃ totalSent, state = .sending totalSent ∧
      ((∃ count, result = .sent count ∧ count ≤ data.length - totalSent ∧
          accepted = (data.drop totalSent).take count ∧ next = sendLoop data (totalSent + count)) ∨
        (result = .failed .eintr ∧ accepted = [] ∧ next = .sending totalSent) ∨
        ∃ errno, result = .failed errno ∧ errno ≠ .eintr ∧ accepted = [] ∧
          next = .returned false totalSent) := by
  cases state with
  | returned done totalSent => cases result <;> cases taken
  | sending totalSent =>
      refine ⟨totalSent, rfl, ?_⟩
      cases result with
      | sent count =>
          simp only [sendCall] at taken
          split_ifs at taken with fits
          cases taken
          exact .inl ⟨count, rfl, fits, rfl, rfl⟩
      | failed errno =>
          cases errno with
          | eintr =>
              cases taken
              exact .inr (.inl ⟨rfl, rfl, rfl⟩)
          | _ =>
              cases taken
              exact .inr (.inr ⟨_, rfl, nofun, rfl, rfl⟩)

variable (data) in
/-- What `totalSent` is worth: below the size as long as the loop runs and when it has given up,
the size when it is through. -/
def SendLoop.Within : SendLoop → Prop
  | .sending totalSent => totalSent < data.length
  | .returned true totalSent => totalSent = data.length
  | .returned false totalSent => totalSent < data.length

theorem sendLoop_within {totalSent : Nat} (inside : totalSent ≤ data.length) :
    (sendLoop data totalSent).Within data := by
  unfold sendLoop
  split
  · assumption
  · show totalSent = data.length
    omega

theorem sendCall_within {state next : SendLoop} {result : SendResult} {accepted : Bytes}
    (taken : sendCall data state result = some (accepted, next)) (within : state.Within data) :
    next.Within data := by
  obtain ⟨totalSent, rfl, cases⟩ := sendCall_cases taken
  rcases cases with ⟨count, -, fits, -, rfl⟩ | ⟨-, -, rfl⟩ | ⟨_, -, -, -, rfl⟩
  · have inside : totalSent < data.length := within
    exact sendLoop_within (by omega)
  · exact within
  · exact within

theorem sendCalls_within {trace : List (Transition SendLoop SendResult Bytes)} {state : SendLoop}
    (run : Run (sendCall data) (sendLoop data 0) trace state) : state.Within data :=
  run.invariant (SendLoop.Within data) (sendLoop_within (Nat.zero_le _)) sendCall_within

/-- **The loop invariant.** The calls have accepted, one after the other, the first `totalSent`
bytes of the buffer. -/
theorem sendCalls_accepted {trace : List (Transition SendLoop SendResult Bytes)} {state : SendLoop}
    (run : Run (sendCall data) (sendLoop data 0) trace state) :
    (trace.map Transition.output).flatten = data.take state.totalSent := by
  induction run with
  | nil => simp
  | snoc _ taken ih =>
      rw [List.map_append, List.flatten_append, ih]
      obtain ⟨totalSent, rfl, cases⟩ := sendCall_cases taken
      rcases cases with ⟨count, -, -, rfl, rfl⟩ | ⟨-, rfl, rfl⟩ | ⟨_, -, -, rfl, rfl⟩
      · -- the call was given the bytes behind those already accepted
        rw [sendLoop_totalSent, List.take_add, List.map_singleton, List.flatten_singleton,
          SendLoop.totalSent]
      · simp [SendLoop.totalSent]
      · simp [SendLoop.totalSent]

/-- `sendAll` gives up at once on the first failure that is not an interrupt. -/
theorem sendCalls_failed {trace : List (Transition SendLoop SendResult Bytes)} {totalSent : Nat}
    (run : Run (sendCall data) (sendLoop data 0) trace (.returned false totalSent)) :
    ∃ earlier turn errno, trace = earlier ++ [turn] ∧ turn.event = .failed errno ∧
      errno ≠ .eintr := by
  generalize reached : SendLoop.returned false totalSent = state at run
  cases run with
  | nil =>
      unfold sendLoop at reached
      split at reached <;> cases reached
  | @snoc trace before next result accepted _ taken =>
      obtain ⟨_, rfl, cases⟩ := sendCall_cases taken
      rcases cases with ⟨count, -, -, -, rfl⟩ | ⟨-, -, rfl⟩ | ⟨errno, rfl, other, -, rfl⟩
      · unfold sendLoop at reached
        split at reached <;> cases reached
      · cases reached
      · exact ⟨trace, _, errno, rfl, rfl, other⟩

theorem sendLoop_eq_sending {totalSent reached : Nat}
    (running : sendLoop data totalSent = .sending reached) :
    reached = totalSent ∧ totalSent < data.length := by
  unfold sendLoop at running
  split at running
  · cases running
    exact ⟨rfl, by assumption⟩
  · cases running

/-- **The calls are those of `sendAll`**, from any point of the loop on: as long as it runs,
`sendAll` has not returned on the same results, and when it has returned, so has `sendAll`, with
the same value and the same bytes written. -/
theorem sendCalls_sendAll {results : List SendResult} {totalSent : Nat}
    {trace : List (Transition SendLoop SendResult Bytes)} {state : SendLoop}
    (executed : exec (sendCall data) (sendLoop data totalSent) results = some (trace, state)) :
    sendAll (data.drop totalSent) results =
      state.value.map fun done => (done, (trace.map Transition.output).flatten) := by
  induction results generalizing totalSent trace with
  | nil =>
      cases executed
      unfold sendLoop
      split
      next more =>
        rw [List.drop_eq_getElem_cons more]
        rfl
      next through =>
        rw [List.drop_eq_nil_of_le (by omega)]
        rfl
  | cons result later ih =>
      obtain ⟨accepted, next, tail, taken, rest, rfl⟩ := exec_cons executed
      obtain ⟨here, running, cases⟩ := sendCall_cases taken
      obtain ⟨rfl, more⟩ := sendLoop_eq_sending running
      have left : data.drop here ≠ [] := by simpa using more
      rcases cases with ⟨count, rfl, fits, rfl, rfl⟩ | ⟨rfl, rfl, rfl⟩ |
        ⟨errno, rfl, other, rfl, rfl⟩
      · have behind := ih rest
        rw [← List.drop_drop] at behind
        rw [sendAll, List.length_drop, if_pos fits, behind, Option.map_map]
        · rfl
        · exact left
      · rw [← running] at rest
        rw [sendAll, ih rest]
        · rfl
        · exact left
      · have stopped : later = [] ∧ tail = [] ∧ state = .returned false here := by
          cases later with
          | nil =>
              cases rest
              exact ⟨rfl, rfl, rfl⟩
          | cons result later =>
              -- nothing is called once `sendAll` has returned
              obtain ⟨_, _, _, again, -, -⟩ := exec_cons rest
              obtain ⟨_, absent, -⟩ := sendCall_cases again
              cases absent
        obtain ⟨rfl, rfl, rfl⟩ := stopped
        rw [sendAll]
        · rfl
        · exact other
        · exact left

/-! ### What `send` answers for ever -/

/-- A result that leaves `totalSent` where it is and the loop running. -/
def SendResult.Idle (result : SendResult) : Prop :=
  result = .sent 0 ∨ result = .failed .eintr

instance (result : SendResult) : Decidable result.Idle :=
  inferInstanceAs (Decidable (_ ∨ _))

variable (data) in
/-- The calls of `send` have been answered by the first `calls` of `results`. -/
def sendAfter (results : Nat → SendResult) (calls : Nat) :
    Option (List (Transition SendLoop SendResult Bytes) × SendLoop) :=
  exec (sendCall data) (sendLoop data 0) ((List.range calls).map results)

variable (data) in
/-- No call of `send` accepts more than it is given. -/
def Legal (results : Nat → SendResult) : Prop :=
  ∀ calls trace totalSent count, sendAfter data results calls = some (trace, .sending totalSent) →
    results calls = .sent count → count ≤ data.length - totalSent

variable {results : Nat → SendResult}

theorem sendAfter_next {calls : Nat} {state next : SendLoop} {accepted : Bytes}
    {trace : List (Transition SendLoop SendResult Bytes)}
    (reached : sendAfter data results calls = some (trace, state))
    (taken : sendCall data state (results calls) = some (accepted, next)) :
    sendAfter data results (calls + 1) =
      some (trace ++ [⟨state, results calls, accepted, next⟩], next) := by
  rw [sendAfter, List.range_succ, List.map_append, exec_append reached, List.map_singleton]
  simp only [exec, taken, Option.map_some]

/-- One call more: `sendAll` returns, or is still in its loop, and further on unless the call was
idle. -/
theorem sendAfter_succ (legal : Legal data results) {calls totalSent : Nat}
    {trace : List (Transition SendLoop SendResult Bytes)}
    (reached : sendAfter data results calls = some (trace, .sending totalSent)) :
    (∃ trace done sent, sendAfter data results (calls + 1) = some (trace, .returned done sent)) ∨
      ∃ trace sent, sendAfter data results (calls + 1) = some (trace, .sending sent) ∧
        totalSent ≤ sent ∧ (¬(results calls).Idle → totalSent < sent) := by
  cases answer : results calls with
  | sent count =>
      have fits := legal calls trace totalSent count reached answer
      have after := sendAfter_next reached (by rw [answer, sendCall, if_pos fits])
      by_cases through : totalSent + count < data.length
      · rw [sendLoop, if_pos through] at after
        refine .inr ⟨_, _, after, Nat.le_add_right _ _, fun busy => ?_⟩
        have positive : count ≠ 0 := fun zero => busy (.inl (by rw [zero]))
        omega
      · rw [sendLoop, if_neg through] at after
        exact .inl ⟨_, _, _, after⟩
  | failed errno =>
      cases errno with
      | eintr =>
          have after := sendAfter_next reached (by rw [answer, sendCall])
          exact .inr ⟨_, _, after, Nat.le_refl _, fun busy => absurd (.inr rfl) busy⟩
      | _ =>
          have after := sendAfter_next reached (by rw [answer, sendCall]; nofun)
          exact .inl ⟨_, _, _, after⟩

theorem sendAfter_sending_lt {calls totalSent : Nat}
    {trace : List (Transition SendLoop SendResult Bytes)}
    (reached : sendAfter data results calls = some (trace, .sending totalSent)) :
    totalSent < data.length :=
  sendCalls_within (exec_run reached)

/-- Unless `sendAll` has returned by then, it is in its loop after any number of calls. -/
theorem sendAfter_running (legal : Legal data results)
    (never : ∀ calls trace done sent,
      sendAfter data results calls ≠ some (trace, .returned done sent)) (calls : Nat) :
    ∃ trace totalSent, sendAfter data results calls = some (trace, .sending totalSent) := by
  induction calls with
  | zero =>
      by_cases empty : 0 < data.length
      · exact ⟨[], 0, by rw [sendAfter, sendLoop, if_pos empty]; rfl⟩
      · exact absurd (by rw [sendAfter, sendLoop, if_neg empty]; rfl) (never 0 [] true 0)
  | succ calls ih =>
      obtain ⟨trace, totalSent, reached⟩ := ih
      rcases sendAfter_succ legal reached with ⟨_, _, _, returned⟩ | ⟨trace, sent, further, -⟩
      · exact absurd returned (never _ _ _ _)
      · exact ⟨trace, sent, further⟩

/-- **`sendAll` terminates**: behind the last idle answer every call accepts a byte or ends the
loop. -/
theorem sendAll_returns (legal : Legal data results)
    (finite : {calls | (results calls).Idle}.Finite) :
    ∃ calls trace done totalSent,
      sendAfter data results calls = some (trace, .returned done totalSent) := by
  by_contra running
  push Not at running
  obtain ⟨bound, idle⟩ := finite.bddAbove
  have further (more : Nat) : ∃ trace totalSent,
      sendAfter data results (bound + 1 + more) = some (trace, .sending totalSent) ∧
        more ≤ totalSent := by
    induction more with
    | zero =>
        obtain ⟨trace, totalSent, reached⟩ := sendAfter_running legal running (bound + 1)
        exact ⟨trace, totalSent, reached, Nat.zero_le _⟩
    | succ more ih =>
        obtain ⟨trace, totalSent, reached, enough⟩ := ih
        have busy : ¬(results (bound + 1 + more)).Idle := fun still => by
          have := idle still
          omega
        rcases sendAfter_succ legal reached with ⟨_, _, _, returned⟩ | ⟨trace, sent, next, -, on⟩
        · exact absurd returned (running _ _ _ _)
        · exact ⟨trace, sent, next, by have := on busy; omega⟩
  -- after one call for every byte there would be none left to send
  obtain ⟨_, totalSent, reached, enough⟩ := further data.length
  have := sendAfter_sending_lt reached
  omega

end Calls

/-- **`sendAll` writes a prefix and never lies.** For every buffer and whatever `send` answers:
after any number of calls what they have accepted is a prefix of the buffer, each byte once and in
order, and is what `sendAll` has written; it returns `true` only with all of it written and `false`
only on a failure that is not an interrupt, with less than all of it written; and where finitely
many of the answers are interrupts or zero counts it does return. -/
theorem sendAll_honest (data : Bytes) :
    (∀ trace state, Run (sendCall data) (sendLoop data 0) trace state →
      (trace.map Transition.output).flatten = data.take state.totalSent ∧
      sendAll data (trace.map Transition.event) =
        state.value.map (fun done => (done, data.take state.totalSent)) ∧
      (state.value = some true → (trace.map Transition.output).flatten = data) ∧
      (state.value = some false → state.totalSent < data.length ∧
        ∃ earlier turn errno, trace = earlier ++ [turn] ∧ turn.event = .failed errno ∧
          errno ≠ .eintr)) ∧
    ∀ results : Nat → SendResult, Legal data results → {calls | (results calls).Idle}.Finite →
      ∃ calls trace done totalSent,
        sendAfter data results calls = some (trace, .returned done totalSent) := by
  refine ⟨fun trace state run => ⟨sendCalls_accepted run, ?_, fun done => ?_, fun failed => ?_⟩,
    fun results legal finite => sendAll_returns legal finite⟩
  · have same := sendCalls_sendAll run.exec
    rwa [List.drop_zero, sendCalls_accepted run] at same
  · cases state with
    | sending totalSent => cases done
    | returned value totalSent =>
        cases done
        have all : totalSent = data.length := sendCalls_within run
        rw [sendCalls_accepted run, SendLoop.totalSent, all, List.take_length]
  · cases state with
    | sending totalSent => cases failed
    | returned value totalSent =>
        cases failed
        exact ⟨sendCalls_within run, sendCalls_failed run⟩

/-- Three bytes in four calls, two of which are idle; and to a `send` that is interrupted once and
then takes a byte a call. -/
theorem sendAll_honest_three :
    ((execTrace (sendCall [1, 2, 3]) (sendLoop [1, 2, 3] 0)
      [.failed .eintr, .sent 2, .sent 0, .sent 1]).map Transition.output).flatten = [1, 2, 3] ∧
    ∃ calls trace done totalSent,
      sendAfter [1, 2, 3] (fun calls => if calls = 0 then .failed .eintr else .sent 1) calls =
        some (trace, .returned done totalSent) :=
  ⟨((sendAll_honest [1, 2, 3]).1 _ _ (run_of_possible (by decide))).2.2.1 (by decide),
    (sendAll_honest [1, 2, 3]).2 _
      (fun calls trace totalSent count reached answer => by
        have := sendAfter_sending_lt reached
        by_cases first : calls = 0
        · simp [first] at answer
        · simp only [if_neg first, SendResult.sent.injEq] at answer
          omega)
      ((Set.finite_singleton 0).subset fun
        | 0, _ => rfl
        | calls + 1, idle => by simp [SendResult.Idle] at idle)⟩

end MessageSerializer

end ExodusOps
