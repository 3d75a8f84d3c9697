/-
**How the process ends.**

`main` waits for SIGINT or SIGTERM, of which it learns by two variables that the handler stores one
after the other; or it could not start the acceptor and returns at once. Either way it writes what
it does, and its objects are destroyed.

* `main_writes` — what `main` and `start` write: one of two sequences, with a signal that was
  delivered; after the last line of the second nothing is accepted any more.
* `server_terminates` — **once a signal has been handled the process ends**, by the return of `main`
  if the connections end that are being served, and by the watchdog if they do not.
-/

import ExodusOps.Server.Lifetime

namespace ExodusOps.Lifecycle

open ServerConfig (Fields)
open MessageSerializer (Errno)

variable {config : Fields} {state next : Server} {event : ServerEvent} {effect : Effect}
  {outcome : Outcome}

/-! ### What `main` writes -/

def writtenBy (turn : ServerTurn) : Option Line :=
  match turn.output with
  | .writes line => some line
  | _ => none

/-- The lines, in order. -/
def lines (trace : List ServerTurn) : List Line := trace.filterMap writtenBy

def deliveredBy (turn : ServerTurn) : Option Signal :=
  match turn.event with
  | .storeSignal signal => some signal
  | _ => none

/-- The signals that were delivered, in order. -/
def delivered (trace : List ServerTurn) : List Signal := trace.filterMap deliveredBy

/-- All that is written where the acceptor could not be started. -/
def refusedLines (step : Setup) (errno : Errno) : List Line :=
  [.booting, .setupFailed step errno, .bindFailed]

/-- All that is written otherwise. -/
def servedLines (signal : Signal) : List Line :=
  [.booting, .listening, .ready, .shutdownInitiated (some signal), .shutdownComplete]

/-- How far `main` is with its lines. -/
inductive Chapter where
  | silent | booted
  | failing (line : Line)
  | refused | listening | ready
  | reporting (signal : Option Signal)
  | initiated
  | closing (code : Nat)

def Main.chapter : Main → Chapter
  | .constructing _ _ | .spawning | .booting | .stopping none | .draining none
  | .joining none _ => .silent
  | .setup _ | .announcing => .booted
  | .failing line => .failing line
  | .refused => .refused
  | .clearing | .launching | .readying => .listening
  | .testing | .sleeping | .loading => .ready
  | .reporting signal => .reporting signal
  | .flagging none | .shutting none | .awaiting none | .resetting none | .completing => .initiated
  | .flagging (some code) | .shutting (some code) | .awaiting (some code)
  | .resetting (some code) | .unwinding code _ | .stopping (some code) | .draining (some code)
  | .arming code | .joining (some code) _ => .closing code

/-- What has been written, and which signals had been delivered. -/
def Chapter.Holds (signals : List Signal) (written : List Line) : Chapter → Prop
  | .silent => written = []
  | .booted => written = [.booting]
  | .failing line => written = [.booting] ∧ ∃ step errno, line = .setupFailed step errno
  | .refused => ∃ step errno, written = [.booting, .setupFailed step errno]
  | .listening => written = [.booting, .listening]
  | .ready => written = [.booting, .listening, .ready]
  | .reporting signal =>
      written = [.booting, .listening, .ready] ∧ ∃ one ∈ signals, signal = some one
  | .initiated => ∃ one ∈ signals,
      written = [.booting, .listening, .ready, .shutdownInitiated (some one)]
  | .closing code => (code = 0 ∧ ∃ one ∈ signals, written = servedLines one) ∨
      (code = 1 ∧ ∃ step errno, written = refusedLines step errno)

theorem Chapter.Holds.mono {signals more : List Signal} {written : List Line} {chapter : Chapter}
    (holds : chapter.Holds signals written) (grown : signals ⊆ more) :
    chapter.Holds more written := by
  cases chapter with
  | reporting signal => exact holds.imp_right fun ⟨one, member, same⟩ => ⟨one, grown member, same⟩
  | initiated =>
      obtain ⟨one, member, same⟩ := holds
      exact ⟨one, grown member, same⟩
  | closing code =>
      refine holds.imp_left (And.imp_right ?_)
      exact fun ⟨one, member, same⟩ => ⟨one, grown member, same⟩
  | _ => exact holds

/-- **What `main` has written and what it knows of the signals.** -/
structure Told (trace : List ServerTurn) (state : Server) : Prop where
  chapter : state.main.chapter.Holds (delivered trace) (lines trace)
  known : ∀ signal, state.signal = some signal → signal ∈ delivered trace
  /-- The signal is stored before the flag. -/
  stored : state.running = false ∨ state.handlers ≠ 0 → state.signal ≠ none
  loading : state.main = .loading → state.running = false

theorem told_boot : Told [] .boot where
  chapter := rfl
  known := nofun
  stored := by
    rintro (running | handlers)
    · cases running
    · exact absurd rfl handlers
  loading := nofun

/-- A step of `main` that writes nothing. -/
theorem told_silent {trace : List ServerTurn} {event : ServerEvent} (told : Told trace state)
    (quiet : writtenBy ⟨state, event, effect, next⟩ = none)
    (undelivered : deliveredBy ⟨state, event, effect, next⟩ = none)
    (chapter : state.main.chapter.Holds (delivered trace) (lines trace) →
      next.main.chapter.Holds (delivered trace) (lines trace))
    (signal : next.signal = state.signal)
    (running : next.running = false ∨ next.handlers ≠ 0 →
      state.running = false ∨ state.handlers ≠ 0)
    (loading : next.main = .loading → next.running = false) :
    Told (trace ++ [⟨state, event, effect, next⟩]) next := by
  have same : lines (trace ++ [⟨state, event, effect, next⟩]) = lines trace := by
    rw [lines, filterMap_concat, quiet, Option.toList_none, List.append_nil]
    rfl
  have none : delivered (trace ++ [⟨state, event, effect, next⟩]) = delivered trace := by
    rw [delivered, filterMap_concat, undelivered, Option.toList_none, List.append_nil]
    rfl
  refine ⟨?_, ?_, ?_, loading⟩
  · rw [same, none]
    exact chapter told.chapter
  · rw [none, signal]
    exact told.known
  · rw [signal]
    exact fun either => told.stored (running either)

/-- A step of `main` that writes a line. -/
theorem told_written {trace : List ServerTurn} {place : Main} {line : Line}
    (told : Told trace state)
    (chapter : state.main.chapter.Holds (delivered trace) (lines trace) →
      place.chapter.Holds (delivered trace) (lines trace ++ [line]))
    (other : place ≠ .loading) :
    Told (trace ++ [⟨state, .main outcome, .writes line, { state with main := place }⟩])
      { state with main := place } := by
  have more : lines (trace ++ [⟨state, .main outcome, .writes line, { state with main := place }⟩])
      = lines trace ++ [line] := by
    rw [lines, filterMap_concat]
    rfl
  have none : delivered (trace ++ [⟨state, .main outcome, .writes line,
      { state with main := place }⟩]) = delivered trace := by
    rw [delivered, filterMap_concat]
    exact List.append_nil _
  refine ⟨?_, ?_, told.stored, fun loading => absurd loading other⟩
  · rw [more, none]
    exact chapter told.chapter
  · rw [none]
    exact told.known

theorem told_acts {trace : List ServerTurn} (acts : Acts config state outcome effect next)
    (told : Told trace state) : Told (trace ++ [⟨state, .main outcome, effect, next⟩]) next := by
  cases acts with
  | construct here | constructed here | spawnFails here | spawned here _ | clears here
  | launches here | goesOn here _ | wakes here | arms here | destroysAcceptor here
  | destroysPool here | destroys here _ _ | joined here _ =>
      exact told_silent told rfl rfl (fun before => by rw [here] at before; exact before) rfl id
        nofun
  | opens here _ =>
      exact told_silent told rfl rfl (fun before => by rw [here] at before; exact before) rfl id
        nofun
  | @setup step here _ =>
      refine told_silent told rfl rfl (fun before => ?_) rfl id ?_
      · rw [here] at before
        cases step <;> exact before
      · cases step <;> nofun
  | openFails here | setupFails here _ =>
      refine told_silent told rfl rfl (fun before => ?_) rfl id nofun
      rw [here] at before
      exact ⟨before, _, _, rfl⟩
  | spawn here _ | drains here _ | launchFails here | returns here | armFails here
  | throws here _ =>
      exact told_silent told rfl rfl id rfl id told.loading
  | boots here =>
      refine told_written told (fun before => ?_) nofun
      rw [here] at before
      rw [before]
      rfl
  | announces here | readies here =>
      refine told_written told (fun before => ?_) nofun
      rw [here] at before
      rw [before]
      rfl
  | fails here =>
      refine told_written told (fun before => ?_) nofun
      rw [here] at before
      obtain ⟨written, step, errno, rfl⟩ := before
      rw [written]
      exact ⟨step, errno, rfl⟩
  | refuses here =>
      refine told_written told (fun before => ?_) nofun
      rw [here] at before
      obtain ⟨step, errno, written⟩ := before
      rw [written]
      exact .inr ⟨rfl, step, errno, rfl⟩
  | leaves here stopped =>
      exact told_silent told rfl rfl (fun before => by rw [here] at before; exact before) rfl id
        fun _ => stopped
  | loads here =>
      refine told_silent told rfl rfl (fun before => ?_) rfl id nofun
      rw [here] at before
      obtain ⟨one, same⟩ :=
        Option.ne_none_iff_exists'.mp (told.stored (.inl (told.loading here)))
      exact ⟨before, one, told.known one same, same⟩
  | reports here =>
      refine told_written told (fun before => ?_) nofun
      rw [here] at before
      obtain ⟨written, one, member, rfl⟩ := before
      rw [written]
      exact ⟨one, member, rfl⟩
  | @flags code here | @shuts code _ here _ | @shutsNothing code here _
  | @joinsAcceptor code here _ _ | @joinsNothing code here _ | @joins code _ here _ =>
      refine told_silent told rfl rfl (fun before => ?_) rfl id nofun
      rw [here] at before
      cases code <;> exact before
  | @resets code _ here _ | @resetsNothing code here _ | @drained code _ here _ _ =>
      refine told_silent told rfl rfl (fun before => ?_) rfl id ?_
      · rw [here] at before
        cases code <;> exact before
      · cases code <;> nofun
  | completes here =>
      refine told_written told (fun before => ?_) nofun
      rw [here] at before
      obtain ⟨one, member, written⟩ := before
      rw [written]
      exact .inl ⟨rfl, one, member, rfl⟩
  | @stops code work here _ =>
      refine told_silent told rfl rfl (fun before => ?_) rfl id ?_
      · rw [here] at before
        cases code <;> cases work.draining <;> exact before
      · cases code <;> cases work.draining <;> nofun

theorem told_of_run {trace : List ServerTurn} (run : Run (server config) .boot trace state) :
    Told trace state := by
  induction run with
  | nil => exact told_boot
  | @snoc trace state next event effect _ taken told =>
      obtain ⟨-, turns⟩ := turns_of_step taken
      cases turns with
      | main acts => exact told_acts acts told
      | accept _ _ _ _ => exact told_silent told rfl rfl id rfl id told.loading
      | acceptFailed _ _ => exact told_silent told rfl rfl id rfl id told.loading
      | @acceptor _ call _ _ _ _ _ | @worker _ call _ _ _ =>
          refine told_silent told ?_ rfl id rfl id told.loading
          cases call <;> rfl
      | @storeSignal signal =>
          have grown {next : Server} : delivered (trace ++
              [⟨state, .storeSignal signal, .nothing, next⟩]) = delivered trace ++ [signal] := by
            rw [delivered, filterMap_concat]
            rfl
          have same {next : Server} : lines (trace ++
              [⟨state, .storeSignal signal, .nothing, next⟩]) = lines trace := by
            rw [lines, filterMap_concat]
            exact List.append_nil _
          refine ⟨?_, ?_, fun _ => nofun, told.loading⟩
          · rw [grown, same]
            exact told.chapter.mono (List.subset_append_left _ _)
          · intro one stored
            cases stored
            rw [grown]
            exact List.mem_append_right _ (List.mem_singleton_self _)
      | storeRunning handlers =>
          exact told_silent told rfl rfl id rfl (fun _ => .inr handlers) fun _ => rfl
      | pass => exact told_silent told rfl rfl id rfl id told.loading
      | expire _ _ => exact told_silent told rfl rfl id rfl id told.loading

/-- The exit code is decided. -/
def Main.leaving : Main → Bool
  | .flagging (some _) | .shutting (some _) | .awaiting (some _) | .resetting (some _)
  | .unwinding _ _ | .stopping (some _) | .draining (some _) | .arming _
  | .joining (some _) _ => true
  | _ => false

theorem leaving_step (taken : server config state event = some (effect, next))
    (leaving : state.main.leaving = true) : next.main.leaving = true := by
  obtain ⟨-, turns⟩ := turns_of_step taken
  cases turns with
  | main acts =>
      cases acts with
      | @flags code here | @shuts code _ here _ | @shutsNothing code here _
      | @joinsAcceptor code here _ _ | @joinsNothing code here _ | @resets code _ here _
      | @resetsNothing code here _ | @drained code _ here _ _ | @joins code _ here _ =>
          rw [here] at leaving
          cases code with
          | none => cases leaving
          | some code => rfl
      | @stops code work here _ =>
          rw [here] at leaving
          cases code with
          | none => cases leaving
          | some code => cases work.draining <;> rfl
      | destroysAcceptor _ | destroysPool _ | destroys _ _ _ | arms _ | joined _ _ => rfl
      | spawn here _ | drains here _ | launchFails here | returns here | armFails here
      | throws here _ => exact leaving
      | construct here | constructed here | spawnFails here | spawned here _ | boots here
      | opens here _ | setup here _ | openFails here | setupFails here _ | announces here
      | clears here | launches here | fails here | refuses here | readies here | goesOn here _
      | leaves here _ | wakes here | loads here | reports here | completes here =>
          rw [here] at leaving
          cases leaving
  | _ => exact leaving

/-- Once the exit code is decided the thread of the acceptor is gone. -/
theorem idle_of_leaving (sound : Sound state) (leaving : state.main.leaving = true) :
    state.thread ≠ .running := by
  intro runs
  obtain ⟨door, -⟩ := door_of_running sound runs
  cases place : state.main with
  | flagging code | shutting code | awaiting code | resetting code | stopping code
  | draining code | joining code _ =>
      rw [place] at door leaving
      cases code with
      | none => cases leaving
      | some code => simp [Main.door] at door
  | arming code =>
      rw [place] at door
      simp [Main.door] at door
  | unwinding code left =>
      rw [place, Main.door] at door
      split_ifs at door <;> simp at door
  | _ =>
      rw [place] at leaving
      cases leaving

/-- What has been written is the beginning of one of the two. -/
theorem Chapter.Holds.begins {signals : List Signal} {written : List Line} {chapter : Chapter}
    (holds : chapter.Holds signals written) :
    (∃ step errno, written <+: refusedLines step errno) ∨
      ∃ one, written <+: servedLines one ∧
        (.shutdownInitiated (some one) ∈ written → one ∈ signals) := by
  -- a beginning without a signal
  have served {some : List Line} (same : written = some)
      (starts : some <+: servedLines .sigint)
      (silent : .shutdownInitiated (.some .sigint) ∉ some) :
      (∃ step errno, written <+: refusedLines step errno) ∨
        ∃ one, written <+: servedLines one ∧
          (.shutdownInitiated (.some one) ∈ written → one ∈ signals) := by
    subst same
    exact .inr ⟨.sigint, starts, fun member => absurd member silent⟩
  cases chapter with
  | silent => exact served holds (by decide) (by decide)
  | booted => exact served holds (by decide) (by decide)
  | failing line => exact served holds.1 (by decide) (by decide)
  | refused =>
      obtain ⟨step, errno, rfl⟩ := holds
      exact .inl ⟨step, errno, ⟨[.bindFailed], rfl⟩⟩
  | listening => exact served holds (by decide) (by decide)
  | ready => exact served holds (by decide) (by decide)
  | reporting signal => exact served holds.1 (by decide) (by decide)
  | initiated =>
      obtain ⟨one, member, rfl⟩ := holds
      exact .inr ⟨one, ⟨[.shutdownComplete], rfl⟩, fun _ => member⟩
  | closing code =>
      rcases holds with ⟨-, one, member, rfl⟩ | ⟨-, step, errno, rfl⟩
      · exact .inr ⟨one, List.prefix_refl _, fun _ => member⟩
      · exact .inl ⟨step, errno, List.prefix_refl _⟩

/-- The last line of a process that has served. -/
theorem completes_of_written (turns : Turns config state event (.writes .shutdownComplete) next)
    {trace : List ServerTurn} (told : Told trace state) :
    state.main = .completing ∧ next.main = .unwinding 0 objects := by
  generalize written : Effect.writes .shutdownComplete = effect at turns
  cases turns with
  | main acts =>
      cases acts with
      | completes here => exact ⟨here, rfl⟩
      | fails here =>
          cases written
          have chapter := told.chapter
          rw [here] at chapter
          obtain ⟨-, step, errno, same⟩ := chapter
          cases same
      | _ => cases written
  | @acceptor _ call _ _ _ _ _ | @worker _ call _ _ _ => cases call <;> cases written
  | _ => cases written

/-- **What `main` writes.** At any time the lines are the beginning of one of two sequences, and the
signal that is named was delivered. A process that returns has written one of them, the one that
goes with its exit code. Once the last line of the second is written, the listening socket is
closed, its thread has ended, and nothing is accepted any more. -/
theorem main_writes {trace : List ServerTurn} (run : Run (server config) .boot trace state) :
    ((∃ step errno, lines trace <+: refusedLines step errno) ∨
      ∃ one, lines trace <+: servedLines one ∧
        (.shutdownInitiated (some one) ∈ lines trace → one ∈ delivered trace)) ∧
    (∀ code, state.ended = some (.returned code) →
      (code = 0 ∧ ∃ one ∈ delivered trace, lines trace = servedLines one) ∨
        (code = 1 ∧ ∃ step errno, lines trace = refusedLines step errno)) ∧
    ∀ earlier written later, trace = earlier ++ written :: later →
      written.output = .writes .shutdownComplete →
        written.before.listener = none ∧ written.before.intake.acceptor = .returned ∧
          ∀ turn ∈ later, ∀ event, turn.event ≠ .acceptor event := by
  have told := told_of_run run
  refine ⟨told.chapter.begins, fun code ended => ?_, ?_⟩
  · have chapter := told.chapter
    rw [returned_of_run run ended] at chapter
    exact chapter
  · intro earlier written later whole writes
    subst whole
    obtain ⟨start, taken, rest⟩ := run.cut
    rw [writes] at taken
    obtain ⟨here, after⟩ := completes_of_written (turns_of_step taken).2 (told_of_run start)
    have door := (sound_of_run start).door
    rw [here] at door
    refine ⟨door.2.2, door.2.1, fun turn member event accepts => ?_⟩
    -- the exit code stays decided
    obtain ⟨between, onwards, rfl⟩ := List.append_of_mem member
    obtain ⟨middle, stepped, -⟩ := rest.cut
    have leaving : turn.before.main.leaving = true :=
      middle.invariant (fun state => state.main.leaving = true) (by rw [after]; rfl) leaving_step
    have sound : Sound turn.before := sound_of_run run.upTo
    rw [accepts] at stepped
    have idle := idle_of_leaving sound leaving
    generalize turn.output = effect, turn.after = next at stepped
    cases (turns_of_step stepped).2 with
    | accept runs _ _ _ => exact idle runs
    | acceptFailed runs _ => exact idle runs
    | acceptor runs _ _ _ => exact idle runs

theorem main_writes_served :
    ∃ one ∈ delivered (execTrace (server oneWorker) .boot wholeLife),
      lines (execTrace (server oneWorker) .boot wholeLife) = servedLines one := by
  have facts : (exec (server oneWorker) .boot wholeLife).isSome = true ∧
      (execFinal (server oneWorker) .boot wholeLife).ended = some (.returned 0) := by
    decide +kernel
  rcases (main_writes (run_of_possible facts.1)).2.1 0 facts.2 with ⟨-, served⟩ | ⟨other, -⟩
  · exact served
  · cases other

/-! ### The end -/

/-- The steps that have to be taken: those of `main`; while it waits for the acceptor, those of its
thread; while it waits for the workers, theirs. A connection that is served has to end; a connection
that is rejected may be written to as often as there is reason to. -/
def Helpful (state : Server) : ServerEvent → Prop
  | .main _ => True
  | .acceptor event => (∃ code, state.main = .awaiting code) ∧ event ≠ .reject
  | .worker event => (∃ code index, state.main = .joining code index) ∧
      ∀ worker, event ≠ .use worker
  | _ => False

/-- How far the thread of the acceptor is from its return, with the flag set. -/
def acceptorRank : Acceptor → Nat
  | .returned => 0
  | .testing | .accepting => 1
  | .rejecting _ | .counted _ => 2
  | .passed _ => 3
  | .loaded _ _ => 4
  | .accepted _ => 5

/-- How far a worker is, with the queue stopped. -/
def workerRank : Worker → Nat
  | .returned => 0
  | .waiting => 1
  | .closed _ => 2
  | .closing _ => 3
  | .serving _ => 4
  | .handshake _ => 5

/-- How far `main` is from its end, once it is to leave its loop. -/
def Main.stage : Main → Nat
  | .constructing _ _ => 34
  | .spawning => 33
  | .booting => 32
  | .setup .socket => 31
  | .setup .setsockopt => 30
  | .setup .bind => 29
  | .setup .listen => 28
  | .announcing => 27
  | .clearing => 26
  | .launching => 25
  | .readying => 24
  | .sleeping => 23
  | .testing => 22
  | .loading => 21
  | .reporting _ => 20
  | .flagging none => 19
  | .shutting none => 18
  | .awaiting none => 17
  | .resetting none => 16
  | .completing => 15
  | .failing _ => 14
  | .refused => 13
  | .unwinding _ left => if .acceptor ∈ left then 12 else if .threadPool ∈ left then 7 else 1
  | .flagging (some _) => 11
  | .shutting (some _) => 10
  | .awaiting (some _) => 9
  | .resetting (some _) => 8
  | .stopping _ => 6
  | .draining _ => 5
  | .arming _ => 4
  | .joining _ _ => 3

variable (config) in
/-- What is left to do where it is. -/
def Server.remaining (state : Server) : Nat :=
  match state.main with
  | .constructing _ todo => todo.length
  | .spawning => config.threadPoolSize.toNat - state.intake.workers.length
  | .awaiting _ => acceptorRank state.intake.acceptor
  | .unwinding _ left => left.length
  | .draining _ => state.intake.work.queue.length
  | .joining _ index =>
      (state.intake.workers.map workerRank).sum + (state.intake.workers.length - index)
  | _ => 0

variable (config) in
def Server.rank (state : Server) : Nat × Nat :=
  if state.ended = none then (state.main.stage, state.remaining config) else (0, 0)

theorem stage_pos (place : Main) : 0 < place.stage := by
  cases place with
  | setup step => cases step <;> exact Nat.succ_pos _
  | flagging code | shutting code | awaiting code | resetting code =>
      cases code <;> exact Nat.succ_pos _
  | unwinding code left =>
      simp only [Main.stage]
      split_ifs <;> exact Nat.succ_pos _
  | _ => exact Nat.succ_pos _

/-- A process that has ended is at the end. -/
theorem rank_ended (live : state.ended = none) (ends : next.ended ≠ none) :
    Prod.Lex (· < ·) (· < ·) (next.rank config) (state.rank config) := by
  rw [Server.rank, Server.rank, if_neg ends, if_pos live]
  exact .left _ _ (stage_pos _)

/-- `main` gets to a later stage. -/
theorem rank_stage {place : Main} (live : state.ended = none) (still : next.ended = none)
    (here : state.main = place) (later : next.main.stage < place.stage) :
    Prod.Lex (· < ·) (· < ·) (next.rank config) (state.rank config) := by
  rw [Server.rank, Server.rank, if_pos still, if_pos live, here]
  exact .left _ _ later

/-- Less is left to do. -/
theorem rank_remaining {place : Main} (live : state.ended = none) (still : next.ended = none)
    (here : state.main = place) (same : next.main.stage = place.stage)
    (fewer : next.remaining config < state.remaining config) :
    Prod.Lex (· < ·) (· < ·) (next.rank config) (state.rank config) := by
  rw [Server.rank, Server.rank, if_pos still, if_pos live, here, same]
  exact .right _ fewer

/-- **Every step of `main` brings it closer to its end**, if it is to leave its loop. -/
theorem rank_acts (acts : Acts config state outcome effect next) (live : state.ended = none)
    (stopped : state.running = false) :
    Prod.Lex (· < ·) (· < ·) (next.rank config) (state.rank config) := by
  cases acts with
  | construct here =>
      refine rank_remaining live live here rfl ?_
      simp [Server.remaining, here]
  | spawn here more =>
      refine rank_remaining live live here (by rw [here]) ?_
      simp only [Server.remaining, here, List.length_append, List.length_singleton]
      omega
  | launchFails _ | returns _ | armFails _ | throws _ _ => exact rank_ended live nofun
  | goesOn _ running =>
      rw [stopped] at running
      cases running
  | @setup step here other =>
      refine rank_stage live live here ?_
      cases step with
      | socket => exact absurd rfl other
      | setsockopt | bind | listen => simp [Main.stage, Setup.next]
  | @setupFails step _ here _ =>
      refine rank_stage live live here ?_
      cases step <;> simp [Main.stage]
  | @flags code here | @shuts code _ here _ | @shutsNothing code here _
  | @joinsAcceptor code here _ _ | @joinsNothing code here _ | @drained code _ here _ _ =>
      refine rank_stage live live here ?_
      cases code <;> simp [Main.stage, afterQueue]
  | @resets code _ here _ | @resetsNothing code here _ =>
      refine rank_stage live live here ?_
      cases code <;> simp [Main.stage, afterStop, objects]
  | @stops code work here _ =>
      refine rank_stage live live here ?_
      cases code <;> cases work.draining <;> simp [Main.stage, afterQueue]
  | @drains code _ _ here drained =>
      obtain ⟨-, rest, queued, rfl⟩ := WorkQueue.drain_cases drained
      refine rank_remaining live live here (by rw [here]) ?_
      simp [Server.remaining, here, queued]
  | destroysAcceptor here =>
      refine rank_stage live live here ?_
      simp [Main.stage]
  | destroysPool here =>
      refine rank_stage live live here ?_
      simp only [Main.stage, List.mem_cons_self, if_true]
      split_ifs <;> decide
  | @destroys code object left here notAcceptor notPool =>
      refine rank_remaining live live here ?_ ?_
      · simp [Main.stage, notAcceptor.symm, notPool.symm]
      · simp [Server.remaining, here]
  | @joins code index here returned =>
      obtain ⟨inside, -⟩ := List.getElem?_eq_some_iff.mp returned
      refine rank_remaining live live here rfl ?_
      simp only [Server.remaining, here]
      omega
  | constructed here | spawnFails here | spawned here _ | boots here | opens here _
  | openFails here | announces here | clears here | launches here | fails here | readies here
  | leaves here _ | wakes here | loads here | reports here | arms here | refuses here
  | completes here | joined here _ =>
      refine rank_stage live live here ?_
      simp [Main.stage, objects]

theorem rank_same (main : next.main = state.main) (ended : next.ended = state.ended)
    (same : next.remaining config = state.remaining config) :
    next.rank config = state.rank config := by
  rw [Server.rank, Server.rank, main, ended, same]

/-- **The thread of the acceptor gets closer to its return**, with the flag set and nothing to be
accepted. -/
theorem acceptorRank_lowered {maxClients : UInt32} {before after : Intake} {event : IntakeEvent}
    {call : Option Syscall} (moved : Moves maxClients before event call after)
    (mine : ofAcceptor event = true) (flag : before.stopFlag = true) (writes : event ≠ .reject)
    (accepts : ∀ fd ip, event ≠ .accept fd ip) :
    acceptorRank after.acceptor < acceptorRank before.acceptor := by
  cases moved with
  | testFlag here =>
      rw [here]
      simp [acceptorRank, flag]
  | accept _ _ => exact absurd rfl (accepts _ _)
  | acceptFailed here =>
      rw [here]
      simp [acceptorRank, flag]
  | load here | atCapacity here _ | belowCapacity here _ | rejectClose here | fetchAdd here
  | enqueue here _ _ | enqueueClose here _ _ =>
      rw [here]
      simp [acceptorRank]
  | reject _ => exact absurd rfl writes
  | _ => cases mine

theorem sum_set_lt {α : Type} (weight : α → Nat) {list : List α} {index : Nat} {before after : α}
    (found : list[index]? = some before) (lighter : weight after < weight before) :
    ((list.set index after).map weight).sum < (list.map weight).sum := by
  induction list generalizing index with
  | nil => cases found
  | cons first rest ih =>
      cases index with
      | zero =>
          cases found
          simp only [List.set_cons_zero, List.map_cons, List.sum_cons]
          omega
      | succ index =>
          have lower := ih found
          simp only [List.set_cons_succ, List.map_cons, List.sum_cons]
          omega

/-- **A worker gets closer to its return**, with the queue stopped. -/
theorem workers_lowered {maxClients : UInt32} {before after : Intake} {event : IntakeEvent}
    {call : Option Syscall} (moved : Moves maxClients before event call after)
    (mine : ofWorker event = true) (empty : before.work.queue = [])
    (writes : ∀ worker, event ≠ .use worker) :
    (after.workers.map workerRank).sum < (before.workers.map workerRank).sum := by
  cases moved with
  | dequeue _ _ queued =>
      rw [empty] at queued
      cases queued
  | dequeueNone found _ _ _ => exact sum_set_lt _ found (by decide)
  | finished found | close found | fetchSub found => exact sum_set_lt _ found (by simp [workerRank])
  | @welcomed _ sent _ found =>
      refine sum_set_lt _ found ?_
      cases sent <;> simp [workerRank]
  | useWelcome _ | useServing _ => exact absurd rfl (writes _)
  | _ => cases mine

/-- A helpful step of a thread. -/
theorem rank_thread (turns : Turns config state event effect next) (sound : Sound state)
    (live : state.ended = none) (helpful : Helpful state event)
    (thread : ∀ outcome, event ≠ .main outcome) :
    Prod.Lex (· < ·) (· < ·) (next.rank config) (state.rank config) := by
  -- the acceptor is being stopped
  have acceptor {inner : IntakeEvent} {call : Option Syscall} {moved : Intake}
      (waits : ∃ code, state.main = .awaiting code) (runs : state.thread = .running)
      (moves : Moves config.maxClients state.intake inner call moved)
      (mine : ofAcceptor inner = true) (writes : inner ≠ .reject)
      (accepts : state.shut = true → ∀ fd ip, inner ≠ .accept fd ip) :
      Prod.Lex (· < ·) (· < ·) ({ state with intake := moved }.rank config)
        (state.rank config) := by
    obtain ⟨code, here⟩ := waits
    have door := sound.door
    rw [here] at door
    cases code with
    | none =>
        have lower := acceptorRank_lowered moves mine door.2.2.1 writes (accepts door.2.2.2)
        refine rank_remaining live live here (by rw [here]) ?_
        simp only [Server.remaining, here]
        exact lower
    | some code => exact absurd runs (Down.idle door)
  cases turns with
  | main _ => exact absurd rfl (thread _)
  | accept runs _ open_ moves =>
      refine acceptor helpful.1 runs moves rfl helpful.2 fun shut => ?_
      rw [open_] at shut
      cases shut
  | acceptFailed runs moves => exact acceptor helpful.1 runs moves rfl helpful.2 fun _ _ _ => nofun
  | acceptor runs mine accepts moves =>
      exact acceptor helpful.1 runs moves mine helpful.2 fun _ => accepts
  | worker mine moves =>
      obtain ⟨⟨code, index, here⟩, writes⟩ := helpful
      have hatch := sound.hatch
      rw [here] at hatch
      have lower := workers_lowered moves mine hatch.2.2 writes
      have length := (worker_keeps moves mine).2.2.2.2.2.1
      refine rank_remaining live live here (by rw [here]) ?_
      simp only [Server.remaining, here, length]
      omega
  | _ => cases helpful

/-- A step that is none of these leaves as much to do as there was, or ends the process. -/
theorem rank_aside (turns : Turns config state event effect next) (sound : Sound state)
    (live : state.ended = none) (aside : ¬ Helpful state event) :
    next.rank config = state.rank config ∨
      Prod.Lex (· < ·) (· < ·) (next.rank config) (state.rank config) := by
  -- a step of the acceptor
  have acceptor {inner : IntakeEvent} {call : Option Syscall} {moved : Intake}
      (aside : ¬ ((∃ code, state.main = .awaiting code) ∧ inner ≠ .reject))
      (moves : Moves config.maxClients state.intake inner call moved)
      (mine : ofAcceptor inner = true) :
      { state with intake := moved }.remaining config = state.remaining config := by
    obtain ⟨workers, -, -, -, queue⟩ := acceptor_keeps moves mine
    cases here : state.main with
    | awaiting code =>
        have writes : inner = .reject := not_not.mp fun other => aside ⟨⟨code, here⟩, other⟩
        subst writes
        cases moves
        simp only [Server.remaining, here]
    | draining code =>
        have hatch := sound.hatch
        rw [here] at hatch
        simp only [Server.remaining, here, queue hatch.1]
    | _ => simp only [Server.remaining, here, workers]
  cases turns with
  | main _ => exact absurd trivial aside
  | accept _ _ _ moves => exact .inl (rank_same rfl rfl (acceptor aside moves rfl))
  | acceptFailed _ moves => exact .inl (rank_same rfl rfl (acceptor aside moves rfl))
  | acceptor _ mine _ moves => exact .inl (rank_same rfl rfl (acceptor aside moves mine))
  | @worker inner call moved mine moves =>
      refine .inl (rank_same rfl rfl ?_)
      obtain ⟨acceptor, -, -, -, -, length, -⟩ := worker_keeps moves mine
      cases here : state.main with
      | joining code index =>
          have writes : ∃ worker, inner = .use worker := by
            by_contra other
            exact aside ⟨⟨code, index, here⟩, fun worker same => other ⟨worker, same⟩⟩
          obtain ⟨worker, rfl⟩ := writes
          cases moves <;> simp only [Server.remaining, here]
      | draining code =>
          have hatch := sound.hatch
          rw [here] at hatch
          have queue : moved.work.queue = state.intake.work.queue := by
            cases moves with
            | dequeue _ free _ =>
                rw [hatch.2] at free
                cases free
            | _ => first | rfl | cases mine
          simp only [Server.remaining, here, queue]
      | _ => simp only [Server.remaining, here, acceptor, length]
  | storeSignal => exact .inl (rank_same rfl rfl rfl)
  | storeRunning _ => exact .inl (rank_same rfl rfl rfl)
  | pass => exact .inl (rank_same rfl rfl rfl)
  | expire _ _ => exact .inr (rank_ended live nofun)

/-- The thread of the acceptor can always go on until it has returned. -/
theorem acceptor_possible (runs : state.thread = .running) (live : state.ended = none)
    (going : state.intake.acceptor ≠ .returned) (free : state.intake.work.draining = false) :
    ∃ event, event ≠ .reject ∧ (server config state (.acceptor event)).isSome = true := by
  cases here : state.intake.acceptor with
  | testing =>
      exact ⟨.testFlag, by simp, by simp [server, live, acceptorStep, runs, ofAcceptor, intake,
        acceptLoop, here]⟩
  | accepting =>
      exact ⟨.acceptFailed .eintr, by simp, by simp [server, live, acceptorStep, runs, ofAcceptor,
        intake, acceptLoop, here]⟩
  | accepted socket =>
      exact ⟨.load, by simp, by simp [server, live, acceptorStep, runs, ofAcceptor, intake,
        acceptLoop, here]⟩
  | loaded socket currentCount =>
      exact ⟨.compare, by simp, by simp [server, live, acceptorStep, runs, ofAcceptor, intake,
        acceptLoop, here]⟩
  | rejecting socket =>
      exact ⟨.rejectClose, by simp, by simp [server, live, acceptorStep, runs, ofAcceptor, intake,
        acceptLoop, here]⟩
  | passed socket =>
      exact ⟨.fetchAdd, by simp, by simp [server, live, acceptorStep, runs, ofAcceptor, intake,
        acceptLoop, here]⟩
  | counted socket =>
      refine ⟨.enqueue, by simp, ?_⟩
      cases stopped : state.intake.work.stopped <;>
        simp [server, live, acceptorStep, runs, ofAcceptor, intake, acceptLoop, here,
          WorkQueue.enqueue, free, stopped]
  | returned => exact absurd here going

/-- A worker can, once the queue is stopped. -/
theorem worker_possible {index : Nat} {worker : Worker} (live : state.ended = none)
    (found : state.intake.workers[index]? = some worker) (going : worker ≠ .returned)
    (closed : Hatch.closed.Holds state.intake.work) :
    ∃ event, (∀ other, event ≠ .use other) ∧
      (server config state (.worker event)).isSome = true := by
  obtain ⟨stopped, free, empty⟩ := closed
  cases worker with
  | waiting =>
      exact ⟨.dequeue index, fun _ => by simp, by simp [server, live, ofWorker, intake, workerLoop,
        found, WorkQueue.dequeue, free, stopped, empty]⟩
  | handshake socket =>
      exact ⟨.welcomed index true, fun _ => by simp, by simp [server, live, ofWorker, intake,
        workerLoop, found]⟩
  | serving socket =>
      exact ⟨.finished index, fun _ => by simp, by simp [server, live, ofWorker, intake, workerLoop,
        found]⟩
  | closing socket =>
      exact ⟨.close index, fun _ => by simp, by simp [server, live, ofWorker, intake, workerLoop,
        found]⟩
  | closed socket =>
      exact ⟨.fetchSub index, fun _ => by simp, by simp [server, live, ofWorker, intake, workerLoop,
        found]⟩
  | returned => exact absurd rfl going

/-- **As long as the process has not ended one of these steps can be taken.** -/
theorem helpful_possible (sound : Sound state) (live : state.ended = none) :
    ∃ event, Helpful state event ∧ (server config state event).isSome = true := by
  have main {outcome : Outcome} (possible : (mainStep config state outcome).isSome = true) :
      ∃ event, Helpful state event ∧ (server config state event).isSome = true := by
    refine ⟨.main outcome, trivial, ?_⟩
    simpa only [server, live, if_true] using possible
  have door := sound.door
  have hatch := sound.hatch
  cases here : state.main with
  | constructing built todo =>
      refine @main .done ?_
      cases todo <;> simp [mainStep, here, Server.goes]
  | spawning =>
      refine @main .done ?_
      simp only [mainStep, here, Server.goes]
      split_ifs <;> rfl
  | setup step =>
      refine @main (.failed .eintr) ?_
      cases step <;> simp [mainStep, here, Server.goes, Server.acts]
  | unwinding code left =>
      refine @main .done ?_
      cases left with
      | nil => simp [mainStep, here]
      | cons object left => cases object <;> simp [mainStep, here, Server.goes]
  | shutting code | resetting code =>
      refine @main .done ?_
      cases listens : state.listener <;> simp [mainStep, here, listens, Server.goes]
  | awaiting code =>
      by_cases runs : state.thread = .running
      · by_cases returned : state.intake.acceptor = .returned
        · refine @main .done ?_
          simp [mainStep, here, runs, returned]
        · rw [here] at hatch
          obtain ⟨event, writes, possible⟩ := acceptor_possible runs live returned hatch.2
          exact ⟨.acceptor event, ⟨⟨code, here⟩, writes⟩, possible⟩
      · refine @main .done ?_
        cases thread : state.thread <;> simp_all [mainStep, Server.goes]
  | stopping code =>
      rw [here] at hatch
      refine @main .done ?_
      simp [mainStep, here, WorkQueue.stop, hatch.1, hatch.2]
  | draining code =>
      rw [here] at hatch
      refine @main .done ?_
      cases queued : state.intake.work.queue <;>
        simp [mainStep, here, WorkQueue.drain, WorkQueue.stopReturns, hatch.2, queued]
  | joining code index =>
      rw [here] at hatch
      cases found : state.intake.workers[index]? with
      | none =>
          refine @main .done ?_
          cases code <;> simp [mainStep, here, found, Server.goes]
      | some worker =>
          by_cases returned : worker = .returned
          · subst returned
            refine @main .done ?_
            simp [mainStep, here, found, Server.goes]
          · obtain ⟨event, writes, possible⟩ := worker_possible live found returned hatch
            exact ⟨.worker event, ⟨⟨code, index, here⟩, writes⟩, possible⟩
  | _ =>
      refine @main .done ?_
      simp [mainStep, here, Server.goes, Server.acts]

/-! ### With connections that do not end -/

/-- `shutdown` has got as far as its joins, or further. -/
def Main.armed : Main → Bool
  | .joining (some _) _ => true
  | .unwinding _ left => .threadPool ∉ left
  | _ => false

/-- The watchdog is there from then on. -/
def Watchful (state : Server) : Prop := state.watchdog.isSome = state.main.armed

theorem watchful_acts (acts : Acts config state outcome effect next) (sound : Sound state)
    (watchful : Watchful state) : Watchful next := by
  have kept {place : Main} {after : Server} (here : state.main = place)
      (same : after.main.armed = place.armed) (watchdog : after.watchdog = state.watchdog) :
      Watchful after := by
    rw [Watchful, watchdog, same, ← here]
    exact watchful
  cases acts with
  | arms here => rfl
  | spawn _ _ | drains _ _ | launchFails _ | returns _ | armFails _ | throws _ _ => exact watchful
  | @setup step here _ => exact kept here (by cases step <;> rfl) rfl
  | @resets code _ here _ | @resetsNothing code here _ | @drained code _ here _ _
  | @joins code _ here _ => exact kept here (by cases code <;> rfl) rfl
  | @stops code work here _ =>
      refine kept here ?_ rfl
      cases code <;> cases work.draining <;> rfl
  | @destroysAcceptor code left here =>
      have order := sound.order
      rw [here] at order
      have pool := (suffix_of_objects order).1 List.mem_cons_self
      exact kept here (by simp only [Main.armed, pool, not_true, decide_false]) rfl
  | destroysPool here => exact kept here (by simp [Main.armed]) rfl
  | destroys here _ notPool => exact kept here (by simp [Main.armed, notPool.symm]) rfl
  | construct here | constructed here | spawnFails here | spawned here _ | boots here | opens here _
  | openFails here | setupFails here _ | announces here | clears here | launches here | fails here
  | refuses here | readies here | goesOn here _ | leaves here _ | wakes here | loads here
  | reports here | flags here | shuts here _ | shutsNothing here _ | joinsAcceptor here _ _
  | joinsNothing here _ | completes here | joined here _ => exact kept here rfl rfl

theorem watchful_step (taken : server config state event = some (effect, next))
    (sound : Sound state) (watchful : Watchful state) : Watchful next := by
  cases (turns_of_step taken).2 with
  | main acts => exact watchful_acts acts sound watchful
  | _ => exact watchful

theorem watchful_of_run {trace : List ServerTurn} (run : Run (server config) .boot trace state) :
    Watchful state := by
  refine (run.invariant (fun state => Sound state ∧ Watchful state) ⟨sound_boot, rfl⟩ ?_).2
  exact fun taken before => ⟨sound_step taken before.1, watchful_step taken before.1 before.2⟩

/-- Time goes by until the watchdog has slept long enough, and then it calls `_Exit`. -/
def Elapses (since now : Nat) : ServerEvent → Prop
  | .pass elapsed => 0 < elapsed ∧ now < since + ThreadPool.gracefulShutdownTimeout
  | .expire => True
  | _ => False

/-- The steps that have to be taken where connections need not end: those of `main` and of the
acceptor until the watchdog is set off, and then the watchdog's. A worker has to take one only where
the constructor of the pool has failed: there is no watchdog then, and no connection yet. -/
def Unattended (state : Server) (event : ServerEvent) : Prop :=
  match state.watchdog with
  | none => Helpful state event ∧
      ∀ inner, event = .worker inner → ∃ index, state.main = .joining none index
  | some since => Elapses since state.now event

theorem unattended_iff (absent : state.watchdog = none) (watchful : Watchful state) :
    Unattended state event ↔ Helpful state event := by
  simp only [Unattended, absent]
  refine ⟨And.left, fun helpful => ⟨helpful, ?_⟩⟩
  rintro inner rfl
  obtain ⟨⟨code, index, here⟩, _⟩ := helpful
  cases code with
  | none => exact ⟨index, here⟩
  | some code =>
      rw [Watchful, absent, here] at watchful
      cases watchful

theorem unattended_armed {since : Nat} (armed : state.watchdog = some since) :
    Unattended state event = Elapses since state.now event := by
  simp only [Unattended, armed]

variable (config) in
/-- What is left then. -/
def Server.patience (state : Server) : Nat × Nat × Nat :=
  if state.ended = none then
    match state.watchdog with
    | none => (2, state.rank config)
    | some since => (1, since + ThreadPool.gracefulShutdownTimeout - state.now, 0)
  else (0, 0, 0)

/-- The order of what is left. -/
abbrev Sooner : Nat × Nat × Nat → Nat × Nat × Nat → Prop :=
  Prod.Lex (· < ·) (Prod.Lex (· < ·) (· < ·))

theorem patience_ended (live : state.ended = none) (ends : next.ended ≠ none) :
    Sooner (next.patience config) (state.patience config) := by
  rw [Server.patience, Server.patience, if_neg ends, if_pos live]
  cases state.watchdog with
  | none => exact .left _ _ (by decide)
  | some since => exact .left _ _ (by decide)

/-- Before it is set off, what is left is what `main` has to do. -/
theorem patience_rank (live : state.ended = none) (absent : state.watchdog = none)
    (lower : Prod.Lex (· < ·) (· < ·) (next.rank config) (state.rank config)) :
    Sooner (next.patience config) (state.patience config) := by
  by_cases still : next.ended = none
  · rw [Server.patience, Server.patience, if_pos still, if_pos live, absent]
    cases next.watchdog with
    | none => exact .right _ lower
    | some since => exact .left _ _ (by decide)
  · exact patience_ended live still

theorem patience_aside (turns : Turns config state event effect next) (sound : Sound state)
    (live : state.ended = none) (absent : state.watchdog = none)
    (aside : ¬ Helpful state event) :
    next.patience config = state.patience config ∨
      Sooner (next.patience config) (state.patience config) := by
  rcases rank_aside turns sound live aside with same | lower
  · have kept : next.ended ≠ none ∨ next.ended = none ∧ next.watchdog = none := by
      cases turns with
      | main _ => exact absurd trivial aside
      | expire _ _ => exact .inl nofun
      | _ => exact .inr ⟨live, absent⟩
    rcases kept with ends | ⟨still, unarmed⟩
    · exact .inr (patience_ended live ends)
    · left
      rw [Server.patience, Server.patience, if_pos still, if_pos live, absent, unarmed, same]
  · exact .inr (patience_rank live absent lower)

/-- Once it is set off nothing but time changes what is left. -/
theorem patience_same {since : Nat} (live : state.ended = none)
    (armed : state.watchdog = some since) (watchdog : next.watchdog = state.watchdog)
    (now : next.now = state.now) :
    next.patience config = state.patience config ∨
      Sooner (next.patience config) (state.patience config) := by
  by_cases still : next.ended = none
  · left
    rw [Server.patience, Server.patience, if_pos still, if_pos live, watchdog, armed, now]
  · exact .inr (patience_ended live still)

theorem patience_armed {since : Nat} (turns : Turns config state event effect next)
    (live : state.ended = none) (armed : state.watchdog = some since)
    (watchful : Watchful state) :
    next.patience config = state.patience config ∨
      Sooner (next.patience config) (state.patience config) := by
  cases turns with
  | main acts =>
      cases acts with
      | arms here =>
          rw [Watchful, armed, here] at watchful
          cases watchful
      | _ => exact patience_same live armed rfl rfl
  | @pass elapsed =>
      have later : since + ThreadPool.gracefulShutdownTimeout - (state.now + elapsed) ≤
          since + ThreadPool.gracefulShutdownTimeout - state.now := by omega
      rw [Server.patience, Server.patience]
      simp only [live, armed, if_true]
      rcases Nat.eq_or_lt_of_le later with same | less
      · exact .inl (by rw [same])
      · exact .inr (.right _ (.left _ _ less))
  | expire _ _ => exact .inr (patience_ended live nofun)
  | _ => exact patience_same live armed rfl rfl

theorem patience_elapses {since : Nat} (turns : Turns config state event effect next)
    (live : state.ended = none) (armed : state.watchdog = some since)
    (elapses : Elapses since state.now event) :
    Sooner (next.patience config) (state.patience config) := by
  cases turns with
  | @pass elapsed =>
      obtain ⟨positive, early⟩ := elapses
      rw [Server.patience, Server.patience]
      simp only [live, armed, if_true]
      exact .right _ (.left _ _ (by omega))
  | expire _ _ => exact patience_ended live nofun
  | _ => exact elapses.elim

/-! ### Both ways -/

theorem running_kept (taken : server config state event = some (effect, next))
    (handled : state.running = false) : next.running = false := by
  cases (turns_of_step taken).2 with
  | main acts => cases acts <;> exact handled
  | storeRunning _ => rfl
  | _ => exact handled

/-- **A helpful step** leaves less to do. -/
theorem rank_helpful (helpful : Helpful state event)
    (taken : server config state event = some (effect, next)) (sound : Sound state)
    (handled : state.running = false) :
    Prod.Lex (· < ·) (· < ·) (next.rank config) (state.rank config) := by
  obtain ⟨live, turns⟩ := turns_of_step taken
  by_cases main : ∃ outcome, event = .main outcome
  · obtain ⟨outcome, rfl⟩ := main
    cases turns with
    | main acts => exact rank_acts acts live handled
  · exact rank_thread turns sound live helpful fun outcome same => main ⟨outcome, same⟩

theorem rank_founded :
    WellFounded (Prod.Lex (· < ·) (· < ·) : Nat × Nat → Nat × Nat → Prop) :=
  (Prod.lex Nat.lt_wfRel Nat.lt_wfRel).wf

/-- The connections end, and `main` returns. -/
theorem ends_with_connections (sound : Sound state) (handled : state.running = false) :
    InevitablyBeside (server config) Helpful (fun later => later.ended ≠ none) state := by
  refine .of_decreasing rank_founded (Server.rank config)
    (fun state => Sound state ∧ state.running = false) ?_ ?_ ?_ ?_ ⟨sound, handled⟩
  · intro state before unmet
    exact helpful_possible before.1 (not_not.mp unmet)
  · intro state event effect next taken before _
    exact ⟨sound_step taken before.1, running_kept taken before.2⟩
  · intro state event effect next helpful taken before _
    exact rank_helpful helpful taken before.1 before.2
  · intro state event effect next aside taken before _
    obtain ⟨live, turns⟩ := turns_of_step taken
    exact rank_aside turns before.1 live aside

/-- As long as the process has not ended, `main` or the watchdog can go on. -/
theorem unattended_possible (sound : Sound state) (watchful : Watchful state)
    (live : state.ended = none) :
    ∃ event, Unattended state event ∧ (server config state event).isSome = true := by
  cases armed : state.watchdog with
  | none =>
      obtain ⟨event, helpful, possible⟩ := @helpful_possible config state sound live
      exact ⟨event, (unattended_iff armed watchful).mpr helpful, possible⟩
  | some since =>
      by_cases early : state.now < since + ThreadPool.gracefulShutdownTimeout
      · refine ⟨.pass 1, ?_, by simp [server, live]⟩
        rw [unattended_armed armed]
        exact ⟨Nat.one_pos, early⟩
      · refine ⟨.expire, by rw [unattended_armed armed]; trivial, ?_⟩
        simp [server, live, armed, Nat.not_lt.mp early]

/-- The connections need not end. -/
theorem ends_unattended (sound : Sound state) (watchful : Watchful state)
    (handled : state.running = false) :
    InevitablyBeside (server config) Unattended (fun later => later.ended ≠ none) state := by
  have founded : WellFounded Sooner := (Prod.lex Nat.lt_wfRel ⟨_, rank_founded⟩).wf
  refine .of_decreasing founded (Server.patience config)
    (fun state => (Sound state ∧ state.running = false) ∧ Watchful state) ?_ ?_ ?_ ?_
    ⟨⟨sound, handled⟩, watchful⟩
  · intro state before unmet
    exact unattended_possible before.1.1 before.2 (not_not.mp unmet)
  · intro state event effect next taken before _
    exact ⟨⟨sound_step taken before.1.1, running_kept taken before.1.2⟩,
      watchful_step taken before.1.1 before.2⟩
  · intro state event effect next helpful taken before _
    obtain ⟨live, turns⟩ := turns_of_step taken
    cases armed : state.watchdog with
    | none =>
        have helpful := (unattended_iff armed before.2).mp helpful
        exact patience_rank live armed (rank_helpful helpful taken before.1.1 before.1.2)
    | some since =>
        rw [unattended_armed armed] at helpful
        exact patience_elapses turns live armed helpful
  · intro state event effect next aside taken before _
    obtain ⟨live, turns⟩ := turns_of_step taken
    cases armed : state.watchdog with
    | none =>
        rw [unattended_iff armed before.2] at aside
        exact patience_aside turns before.1.1 live armed aside
    | some since => exact patience_armed turns live armed before.2

/-- **Once a signal has been handled the process ends**, wherever `main` is at that time, whichever
steps are taken and whatever else the threads do: as long as a connection that is being served does
not go on for ever; and if one does, the watchdog ends the process. -/
theorem server_terminates {trace : List ServerTurn} (run : Run (server config) .boot trace state)
    (handled : state.running = false) :
    InevitablyBeside (server config) Helpful (fun later => later.ended ≠ none) state ∧
    InevitablyBeside (server config) Unattended (fun later => later.ended ≠ none) state :=
  ⟨ends_with_connections (sound_of_run run) handled,
    ends_unattended (sound_of_run run) (watchful_of_run run) handled⟩

theorem server_terminates_serving :
    InevitablyBeside (server oneWorker) Helpful (fun later => later.ended ≠ none)
      (execFinal (server oneWorker) .boot untilSignal) ∧
    InevitablyBeside (server oneWorker) Unattended (fun later => later.ended ≠ none)
      (execFinal (server oneWorker) .boot untilSignal) := by
  have facts : (exec (server oneWorker) .boot untilSignal).isSome = true ∧
      (execFinal (server oneWorker) .boot untilSignal).running = false := by decide +kernel
  exact server_terminates (run_of_possible facts.1) facts.2

end ExodusOps.Lifecycle
