/-
**Why a connection ended: `errno` and the reasons a worker reports.**

`readFrame` returns `IO_ERROR` both for a `recv` that failed and for a length it refuses, and
`handleConnection` tells the two apart by `errno`, which belongs to the thread. A worker serves one
connection after the other, so `errno` may stem from an earlier one: a failing system call writes
it, nothing clears it. The machine here is such a worker; what its connections deliver, and what its
other system calls fail with, are inputs.

* `ownReason` — the reason a connection has by itself, decided from its last `recv`.
* `reasons_own_iff` — **exactly one thing leaks**: every reason reported is the connection's own
  unless a length is refused while `errno` is still `ECONNRESET`.
-/

import ExodusOps.Telemetry.Observed

namespace ExodusOps

namespace MessageSerializer

/-! ### The calls of `recv` behind a frame -/

/-- The two tests of `readFrame` on the frame length. -/
def refusesLength (lenBuf : Bytes) : Bool :=
  wordAt lenBuf 0 < envelopeSize || wordAt lenBuf 0 - envelopeSize > maxFramePayload

/-- The next frame on the socket is refused for its length. -/
def lengthRefused (socket : List (Chunk Errno)) : Bool :=
  match (readExact socket frameLengthPrefixSize.toNat).1 with
  | .ok lenBuf => refusesLength lenBuf
  | .error _ => false

/-- The calls of `recv` in `readFrame`: for the frame length, then, if it is not refused, for the
envelope and for the payload. -/
def frameRecvs (socket : List (Chunk Errno)) : List (Received Errno) :=
  receives recvFailure socket frameLengthPrefixSize.toNat ++
    match readExact socket frameLengthPrefixSize.toNat with
    | (.error _, _) => []
    | (.ok lenBuf, socket) =>
        if refusesLength lenBuf then []
        else
          receives recvFailure socket envelopeSize.toNat ++
            match readExact socket envelopeSize.toNat with
            | (.error _, _) => []
            | (.ok _, socket) =>
                receives recvFailure socket (wordAt lenBuf 0 - envelopeSize).toNat

/-- `errno` after some calls: what the last one that failed left. -/
def errnoAfter (errno : Errno) (recvs : List (Received Errno)) : Errno :=
  recvs.foldl (fun errno call =>
    match call with
    | .failed failure => failure
    | _ => errno) errno

theorem errnoAfter_failed {errno failure : Errno} {recvs : List (Received Errno)}
    (last : recvs.getLast? = some (.failed failure)) : errnoAfter errno recvs = failure := by
  obtain ⟨front, rfl⟩ := List.getLast?_eq_some_iff.mp last
  rw [errnoAfter, List.foldl_append]
  rfl

theorem readFrame_refused {socket rest : List (Chunk Errno)} {lenBuf : Bytes}
    (first : readExact socket frameLengthPrefixSize.toNat = (.ok lenBuf, rest))
    (refused : refusesLength lenBuf = true) : readFrame socket = (.error .ioError, rest) := by
  simp only [refusesLength, Bool.or_eq_true, decide_eq_true_eq] at refused
  simp only [readFrame, first]
  split
  · rfl
  · rw [if_pos (refused.resolve_left ‹_›)]

/-- With a length that is not refused, the reads of the envelope and of the payload decide. -/
theorem readFrame_admitted {socket rest left : List (Chunk Errno)} {lenBuf : Bytes}
    {status : FrameReadStatus}
    (first : readExact socket frameLengthPrefixSize.toNat = (.ok lenBuf, rest))
    (admitted : refusesLength lenBuf = false) (failed : readFrame socket = (.error status, left)) :
    (∃ after, readExact rest envelopeSize.toNat = (.error status, after)) ∨
      ∃ envelope after, readExact rest envelopeSize.toNat = (.ok envelope, after) ∧
        (readExact after (wordAt lenBuf 0 - envelopeSize).toNat).1 = .error status := by
  simp only [refusesLength, Bool.or_eq_false_iff, decide_eq_false_iff_not] at admitted
  simp only [readFrame, first, if_neg admitted.1, if_neg admitted.2] at failed
  cases second : readExact rest envelopeSize.toNat with
  | mk result after =>
      cases result with
      | error other =>
          simp only [second] at failed
          cases failed
          exact .inl ⟨_, rfl⟩
      | ok envelope =>
          refine .inr ⟨envelope, after, rfl, ?_⟩
          simp only [second] at failed
          split at failed
          · split at failed
            · rename_i third
              cases failed
              rw [third]
            · cases failed
          · cases failed

/-- The last of the calls is what gave the status. -/
def EndedBy (calls : List (Received Errno)) (status : FrameReadStatus) : Prop :=
  (status = .peerClosed ∧ calls.getLast? = some .closed) ∨
    ∃ errno, recvFailure errno = some status ∧ calls.getLast? = some (.failed errno)

theorem EndedBy.append {calls : List (Received Errno)} {status : FrameReadStatus}
    (ended : EndedBy calls status) (earlier : List (Received Errno)) :
    EndedBy (earlier ++ calls) status := by
  have last : (earlier ++ calls).getLast? = calls.getLast? := by
    rw [List.getLast?_append]
    rcases ended with ⟨_, final⟩ | ⟨_, _, final⟩ <;> rw [final, Option.some_or]
  rw [EndedBy, last]
  exact ended

theorem endedBy_of_readExact {socket : List (Chunk Errno)} {count : Nat} {status : FrameReadStatus}
    (failed : (readExact socket count).1 = .error status) :
    EndedBy (receives recvFailure socket count) status :=
  receives_error _ _ _ _ failed

/-- A frame that is accepted was not refused. -/
theorem lengthRefused_of_accepted {socket left : List (Chunk Errno)} {frame : Frame}
    (accepted : readFrame socket = (.ok frame, left)) : lengthRefused socket = false := by
  cases first : readExact socket frameLengthPrefixSize.toNat with
  | mk result rest =>
      cases result with
      | error status => simp only [lengthRefused, first]
      | ok lenBuf =>
          simp only [lengthRefused, first]
          by_contra refused
          rw [readFrame_refused first (Bool.eq_true_of_not_eq_false refused)] at accepted
          cases accepted

/-- **How a read of a frame ends without one**: its length is refused, or its last `recv` says
why. -/
theorem readFrame_error {socket left : List (Chunk Errno)} {status : FrameReadStatus}
    (failed : readFrame socket = (.error status, left)) :
    (lengthRefused socket = true ∧ status = .ioError ∧
      (frameRecvs socket).getLast? = some .data) ∨
    (lengthRefused socket = false ∧ EndedBy (frameRecvs socket) status) := by
  cases first : readExact socket frameLengthPrefixSize.toNat with
  | mk result rest =>
      cases result with
      | error other =>
          simp only [readFrame, first] at failed
          cases failed
          refine .inr ⟨by simp only [lengthRefused, first], ?_⟩
          simp only [frameRecvs, first, List.append_nil]
          exact endedBy_of_readExact (congrArg Prod.fst first)
      | ok lenBuf =>
          cases refused : refusesLength lenBuf with
          | true =>
              rw [readFrame_refused first refused] at failed
              cases failed
              refine .inl ⟨by simp only [lengthRefused, first, refused], rfl, ?_⟩
              simp only [frameRecvs, first, refused, if_true, List.append_nil]
              exact receives_ok _ _ _ _ (congrArg Prod.fst first)
          | false =>
              refine .inr ⟨by simp only [lengthRefused, first, refused], ?_⟩
              simp only [frameRecvs, first, refused, Bool.false_eq_true, if_false]
              rcases readFrame_admitted first refused failed with
                ⟨after, second⟩ | ⟨envelope, after, second, third⟩
              · simp only [second, List.append_nil]
                exact (endedBy_of_readExact (congrArg Prod.fst second)).append _
              · simp only [second]
                exact ((endedBy_of_readExact third).append _).append _

end MessageSerializer

open MessageSerializer

/-! ### The reason a connection has by itself -/

/-- The last `recv` was reset. -/
def wasReset (recvs : List (Received Errno)) : Bool :=
  recvs.getLast? = some (.failed .econnreset)

/-- The reason for the end of a connection that still delivers `socket`, with at most `fuel` reads
of a frame. -/
def reasonWithin : Nat → List (Chunk Errno) → Option DisconnectReason
  | 0, _ => none
  | fuel + 1, socket =>
      match readFrame socket with
      | (.ok _, left) => reasonWithin fuel left
      | (.error status, _) => some (disconnectReason status (wasReset (frameRecvs socket)))

/-- **The connection's own reason**: a function of what its `recv` calls deliver. No frame has less
than a byte, so there are at most as many as bytes. -/
def ownReason (socket : List (Chunk Errno)) : Option DisconnectReason :=
  reasonWithin ((streamBytes socket).length + 1) socket

/-- A frame takes bytes off the stream. -/
theorem streamBytes_readFrame {socket left : List (Chunk Errno)} {frame : Frame}
    (accepted : readFrame socket = (.ok frame, left)) :
    (streamBytes left).length < (streamBytes socket).length := by
  obtain ⟨bytes, isFrame, split⟩ := readFrame_ok accepted
  rw [split, List.length_append]
  have := isFrame.length_pos
  omega

/-- With enough fuel, more does not matter. -/
theorem reasonWithin_enough {fuel more : Nat} {socket : List (Chunk Errno)}
    (enough : (streamBytes socket).length < fuel) (also : (streamBytes socket).length < more) :
    reasonWithin fuel socket = reasonWithin more socket := by
  induction fuel generalizing more socket with
  | zero => exact absurd enough (Nat.not_lt_zero _)
  | succ fuel ih =>
      obtain ⟨more, rfl⟩ := Nat.exists_eq_succ_of_ne_zero (Nat.ne_zero_of_lt also)
      rw [reasonWithin, reasonWithin]
      split
      · rename_i accepted
        have shorter := streamBytes_readFrame accepted
        exact ih (by omega) (by omega)
      · rfl

theorem ownReason_accepted {socket left : List (Chunk Errno)} {frame : Frame}
    (accepted : readFrame socket = (.ok frame, left)) : ownReason socket = ownReason left := by
  rw [ownReason, reasonWithin, accepted]
  exact reasonWithin_enough (streamBytes_readFrame accepted) (Nat.lt_succ_self _)

theorem ownReason_failed {socket left : List (Chunk Errno)} {status : FrameReadStatus}
    (failed : readFrame socket = (.error status, left)) :
    ownReason socket = some (disconnectReason status (wasReset (frameRecvs socket))) := by
  rw [ownReason, reasonWithin, failed]

/-! ### A worker -/

/-- How far a worker is with its connection. -/
inductive Serving where
  | greeting | configuring | receiving
  deriving DecidableEq

/-- The connection a worker serves. -/
structure ServedConnection where
  /-- What its `recv` calls deliver, from its first. -/
  delivers : List (Chunk Errno)
  /-- What they still have to deliver. -/
  left : List (Chunk Errno)
  /-- Those made so far. -/
  recvs : List (Received Errno)
  serving : Serving
  /-- The span of the connection is open. -/
  connectionSpan : Bool

/-- A worker thread. -/
structure WorkerThread where
  errno : Errno
  served : Option ServedConnection

/-- What a worker does, with what its system calls other than `recv` fail with. -/
inductive WorkerEvent where
  | dequeue (delivers : List (Chunk Errno))
  /-- `sendAll` of the welcome. -/
  | greet (failure : Option Errno)
  /-- `applyReceiveTimeout`. -/
  | configure (failure : Option Errno)
  /-- `readFrame`, and what follows from its status. -/
  | read
  /-- Any other system call that fails: in a handler, the logger, a lock. -/
  | fails (errno : Errno)

/-- The end of a connection as `emitDisconnection` reports it, with what it is compared to. -/
structure EndReport where
  delivers : List (Chunk Errno)
  recvs : List (Received Errno)
  /-- The last frame was refused for its length. -/
  refused : Bool
  reason : DisconnectReason
  deriving DecidableEq

/-- One step of a worker. `emitDisconnection` reports nothing for a connection without a span, so
neither a failed welcome nor a failed `setsockopt` is reported. -/
def WorkerThread.step (worker : WorkerThread) :
    WorkerEvent → Option (Option EndReport × WorkerThread)
  | .dequeue delivers => do
      guard worker.served.isNone
      some (none, ⟨worker.errno, some ⟨delivers, delivers, [], .greeting, false⟩⟩)
  | .greet failure => do
      let served ← worker.served
      guard (served.serving = .greeting)
      match failure with
      | none => some (none, { worker with served := some { served with serving := .configuring } })
      | some errno => some (none, ⟨errno, none⟩)
  | .configure failure => do
      let served ← worker.served
      guard (served.serving = .configuring)
      match failure with
      | none => some (none, { worker with served := some { served with serving := .receiving } })
      | some errno => some (none, ⟨errno, none⟩)
  | .read => do
      let served ← worker.served
      guard (served.serving = .receiving)
      let recvs := served.recvs ++ frameRecvs served.left
      let errno := errnoAfter worker.errno (frameRecvs served.left)
      match readFrame served.left with
      | (.ok _, left) =>
          some (none, ⟨errno, some { served with left, recvs, connectionSpan := true }⟩)
      | (.error status, _) =>
          let reason := disconnectReason status (errno = .econnreset)
          let report := ⟨served.delivers, recvs, lengthRefused served.left, reason⟩
          some (if served.connectionSpan then some report else none, ⟨errno, none⟩)
  | .fails errno => some (none, { worker with errno := errno })

/-- What a report of the end of a connection should say. -/
structure EndReport.Own (report : EndReport) : Prop where
  own : ownReason report.delivers = some report.reason
  abrupt : report.reason = .abruptDisconnect ↔
    report.recvs.getLast? = some (.failed .econnreset)
  refused : report.refused = true → report.reason = .recvError

/-- The step refuses a length, on a connection that will be reported, while `errno` is
`ECONNRESET`. -/
def WorkerThread.Leaks (worker : WorkerThread) (event : WorkerEvent) : Prop :=
  event = .read ∧ ∃ served, worker.served = some served ∧ served.connectionSpan = true ∧
    lengthRefused served.left = true ∧
    errnoAfter worker.errno (frameRecvs served.left) = .econnreset

/-- What the connection delivered so far does not change its own reason. -/
def WorkerThread.Steady (worker : WorkerThread) : Prop :=
  ∀ served, worker.served = some served → ownReason served.delivers = ownReason served.left

section Steps

variable {worker next : WorkerThread} {output : Option EndReport}

/-- **A read** gives a frame, or the end of the connection and its report. -/
theorem WorkerThread.read_cases (taken : worker.step .read = some (output, next)) :
    ∃ served, worker.served = some served ∧
      ((∃ frame left, readFrame served.left = (.ok frame, left) ∧ output = none ∧
        next = ⟨errnoAfter worker.errno (frameRecvs served.left),
          some { served with
            left := left
            recvs := served.recvs ++ frameRecvs served.left
            connectionSpan := true }⟩) ∨
      (∃ status left, readFrame served.left = (.error status, left) ∧
        output = (if served.connectionSpan then
          some ⟨served.delivers, served.recvs ++ frameRecvs served.left,
            lengthRefused served.left, disconnectReason status
              (errnoAfter worker.errno (frameRecvs served.left) = .econnreset)⟩ else none) ∧
        next = ⟨errnoAfter worker.errno (frameRecvs served.left), none⟩)) := by
  simp only [WorkerThread.step, Option.bind_eq_bind, Option.bind_eq_some_iff, Option.guard_eq_some',
    exists_const] at taken
  obtain ⟨served, held, _, taken⟩ := taken
  refine ⟨served, held, ?_⟩
  cases read : readFrame served.left with
  | mk result left =>
      rw [read] at taken
      cases result with
      | ok frame =>
          cases taken
          exact .inl ⟨frame, left, rfl, rfl, rfl⟩
      | error status =>
          cases taken
          exact .inr ⟨status, left, rfl, rfl, rfl⟩

/-- Every other step reports nothing, and leaves what the connection delivers alone. -/
theorem WorkerThread.step_other {event : WorkerEvent} (other : event ≠ .read)
    (taken : worker.step event = some (output, next)) :
    output = none ∧ (worker.Steady → next.Steady) := by
  cases event with
  | read => exact absurd rfl other
  | fails errno =>
      cases taken
      exact ⟨rfl, id⟩
  | dequeue delivers =>
      simp only [WorkerThread.step, Option.bind_eq_bind, Option.bind_eq_some_iff] at taken
      obtain ⟨_, _, same⟩ := taken
      cases same
      refine ⟨rfl, fun _ served held => ?_⟩
      cases held
      rfl
  | greet failure | configure failure =>
      simp only [WorkerThread.step, Option.bind_eq_bind, Option.bind_eq_some_iff] at taken
      obtain ⟨served, held, _, _, taken⟩ := taken
      cases failure with
      | some errno =>
          cases taken
          exact ⟨rfl, fun _ served nothing => nomatch nothing⟩
      | none =>
          cases taken
          refine ⟨rfl, fun steady after same => ?_⟩
          cases same
          exact steady served held

theorem WorkerThread.Steady.step {event : WorkerEvent} (steady : worker.Steady)
    (taken : worker.step event = some (output, next)) : next.Steady := by
  by_cases reads : event = .read
  · subst reads
    obtain ⟨served, held, ⟨frame, left, accepted, _, rfl⟩ | ⟨_, _, _, _, rfl⟩⟩ :=
      WorkerThread.read_cases taken
    · rintro _ ⟨⟩
      exact (steady served held).trans (ownReason_accepted accepted)
    · rintro _ ⟨⟩
  · exact (WorkerThread.step_other reads taken).2 steady

/-- **The report of one connection** is its own unless its length was refused and `errno` was
`ECONNRESET`. -/
theorem own_iff {served : ServedConnection} {errno : Errno} {status : FrameReadStatus}
    {left : List (Chunk Errno)} (steady : ownReason served.delivers = ownReason served.left)
    (failed : readFrame served.left = (.error status, left)) :
    EndReport.Own ⟨served.delivers, served.recvs ++ frameRecvs served.left,
        lengthRefused served.left, disconnectReason status
          (errnoAfter errno (frameRecvs served.left) = .econnreset)⟩ ↔
      ¬ (lengthRefused served.left = true ∧
        errnoAfter errno (frameRecvs served.left) = .econnreset) := by
  have own := steady.trans (ownReason_failed failed)
  have last {call : Received Errno} (final : (frameRecvs served.left).getLast? = some call) :
      (served.recvs ++ frameRecvs served.left).getLast? = some call := by
    rw [List.getLast?_append, final, Option.some_or]
  rcases readFrame_error failed with ⟨refused, rfl, final⟩ | ⟨admitted, ended⟩
  · rw [wasReset, final] at own
    constructor
    · rintro report ⟨_, reset⟩
      simpa [disconnectReason, reset] using report.refused refused
    · intro kept
      have quiet : errnoAfter errno (frameRecvs served.left) ≠ .econnreset :=
        fun reset => kept ⟨refused, reset⟩
      refine ⟨?_, ?_, ?_⟩
      · simpa [disconnectReason, quiet] using own
      · simp [disconnectReason, quiet, last final]
      · simp [disconnectReason, quiet]
  · have nothing : ¬ (lengthRefused served.left = true ∧
        errnoAfter errno (frameRecvs served.left) = .econnreset) := by
      rw [admitted]
      simp
    refine iff_of_true ?_ nothing
    rcases ended with ⟨rfl, final⟩ | ⟨failure, ends, final⟩
    · refine ⟨own, ?_, ?_⟩
      · simp [disconnectReason, last final]
      · simp [admitted]
    · rw [wasReset, final] at own
      rw [errnoAfter_failed final]
      refine ⟨by simpa using own, ?_, ?_⟩
      · rw [last final]
        cases failure <;> cases ends <;> simp [disconnectReason]
      · simp [admitted]

/-- A step's report is the connection's own exactly if the step does not leak. -/
theorem WorkerThread.step_own_iff {event : WorkerEvent} (steady : worker.Steady)
    (taken : worker.step event = some (output, next)) :
    (∀ report, output = some report → report.Own) ↔ ¬ worker.Leaks event := by
  by_cases reads : event = .read
  · subst reads
    obtain ⟨served, held, ⟨frame, left, accepted, rfl, _⟩ | ⟨status, left, failed, rfl, _⟩⟩ :=
      WorkerThread.read_cases taken
    · refine iff_of_true (fun _ nothing => nomatch nothing) ?_
      rintro ⟨_, other, same, _, refused, _⟩
      cases held.symm.trans same
      rw [lengthRefused_of_accepted accepted] at refused
      cases refused
    · rw [WorkerThread.Leaks]
      simp only [held, Option.some.injEq, exists_eq_left', true_and]
      cases served.connectionSpan with
      | false => simp
      | true => simpa using own_iff (steady served held) failed
  · obtain ⟨rfl, _⟩ := WorkerThread.step_other reads taken
    exact iff_of_true (fun _ nothing => nomatch nothing) fun leaks => reads leaks.1

end Steps

abbrev WorkerTurn := Transition WorkerThread WorkerEvent (Option EndReport)

/-- **The reasons a worker reports.**

For every sequence of connections, whatever they deliver and whatever the thread's other system
calls fail with: all reported reasons are the connections' own — a function of what the connection
delivers, abrupt exactly after a reset `recv`, a receive error for a refused length — if and only if
no length is refused, on a connection that has spoken, with `ECONNRESET` in `errno`. -/
theorem reasons_own_iff (errno : Errno) {trace : List WorkerTurn} {finish : WorkerThread}
    (run : Run WorkerThread.step ⟨errno, none⟩ trace finish) :
    (∀ turn ∈ trace, ∀ report, turn.output = some report → report.Own) ↔
      ∀ turn ∈ trace, ¬ turn.before.Leaks turn.event := by
  refine forall₂_congr fun turn member => ?_
  obtain ⟨earlier, later, rfl⟩ := List.append_of_mem member
  obtain ⟨before, taken, _⟩ := run.cut
  have steady : turn.before.Steady :=
    before.invariant WorkerThread.Steady (fun _ held => by cases held) fun taken steady =>
      steady.step taken
  exact WorkerThread.step_own_iff steady taken

/-- A worker takes a connection, greets and configures it and reads from it. -/
def serves (delivers : List (Chunk Errno)) (reads : Nat) : List WorkerEvent :=
  [.dequeue delivers, .greet none, .configure none] ++ List.replicate reads .read

/-- A HEARTBEAT frame. -/
def beat : Chunk Errno := .data 0 [0, 0, 10, 1, 6, 0, 0, 0, 1, 0, 0, 0, 0]

/-- One connection is reset, the next one closes: both are reported as what they are. -/
theorem reasons_own_iff_apart :
    let trace := execTrace WorkerThread.step ⟨.other 0, none⟩
      (serves [beat, .event .econnreset] 2 ++ serves [beat] 2)
    (∀ turn ∈ trace, ∀ report, turn.output = some report → report.Own) ∧
      (trace.filterMap Transition.output).map EndReport.reason =
        [.abruptDisconnect, .cleanDisconnect] := by
  intro trace
  let events := serves [beat, .event .econnreset] 2 ++ serves [beat] 2
  have possible : (exec WorkerThread.step ⟨.other 0, none⟩ events).isSome = true := by
    decide +kernel
  have admitted : ∀ turn ∈ trace, ∀ served ∈ turn.before.served,
      lengthRefused served.left = false := by decide +kernel
  refine ⟨(reasons_own_iff (.other 0) (run_of_possible possible)).mpr ?_, by decide +kernel⟩
  rintro turn member ⟨_, served, held, _, refused, _⟩
  rw [admitted turn member served held] at refused
  cases refused

/-- **A connection is taken for reset because another one was.** A worker's first connection is
reset. The next one sends a HEARTBEAT and then a length of zero, and its end is reported as an
abrupt disconnect; on a new worker, the same connection is a receive error. -/
theorem reset_leaks :
    ∃ (trace alone : List WorkerTurn) (finish other : WorkerThread) (report : EndReport),
      Run WorkerThread.step ⟨.other 0, none⟩ trace finish ∧
      (∃ turn ∈ trace, turn.output = some report) ∧
      report.delivers = [beat, .data 0 [0, 0, 0]] ∧ report.refused = true ∧
      report.reason = .abruptDisconnect ∧ report.recvs.getLast? = some .data ∧
      ¬ report.Own ∧
      Run WorkerThread.step ⟨.other 0, none⟩ alone other ∧
      ∃ turn ∈ alone, turn.output = some { report with reason := .recvError } := by
  let second := serves [beat, .data 0 [0, 0, 0]] 2
  let report : EndReport :=
    ⟨[beat, .data 0 [0, 0, 0]], [.data, .data, .data], true, .abruptDisconnect⟩
  have facts : (exec WorkerThread.step ⟨.other 0, none⟩
        (serves [.event .econnreset] 1 ++ second)).isSome = true ∧
      (∃ turn ∈ execTrace WorkerThread.step ⟨.other 0, none⟩
        (serves [.event .econnreset] 1 ++ second), turn.output = some report) ∧
      (exec WorkerThread.step ⟨.other 0, none⟩ second).isSome = true ∧
      ∃ turn ∈ execTrace WorkerThread.step ⟨.other 0, none⟩ second,
        turn.output = some { report with reason := .recvError } := by decide +kernel
  obtain ⟨possible, reported, possibleAlone, reportedAlone⟩ := facts
  refine ⟨_, _, _, _, report, run_of_possible possible, reported, rfl, rfl, rfl, rfl, ?_,
    run_of_possible possibleAlone, reportedAlone⟩
  intro own
  exact absurd (own.refused rfl) (by decide)

end ExodusOps
