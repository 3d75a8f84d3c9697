/-
**The thread of the heartbeat monitor.**

`HeartbeatMonitor::run` waits on a condition variable for an interval, or until `m_stop` is set,
and calls `tick` without the mutex. `stop` sets the flag under the mutex, notifies behind it and
joins the thread; the destructor calls it again. `report` has the ticks and lets them come at any
time; here they come from the thread, beside its owner, the workers, the exporter and a steady
clock. A wait can end by the notification, for no reason, or when the time is over; only the last is
taken for the end of an interval. Nothing catches what `dump` throws, in a tick, in a worker or on
the exporter's thread: the process ends there, also for an owner that waits in `stop`.

* `monitored_refines` — with the thread left out, a run is a run of `report`.
* `stopped_silent` — **no tick after `stop`**: once the flag is set at most the tick begins whose
  condition was tested before, and once `stop` has returned a node goes OFFLINE only with the
  connection that names it, even if the monitor is started again.
* `stop_returns` — **`stop` returns**, and no time has to pass for it, unless the process ends
  before, which it does only where a line of the log or a batch of spans cannot be written.
* `ticks_spaced` — **ticks are an interval apart**, whatever wakes the thread in between.
-/

import ExodusOps.Lib.JsonFlat
import ExodusOps.Telemetry.Exported
import ExodusOps.Telemetry.Reported

namespace ExodusOps.HeartbeatMonitor

/-! ### The thread and its owner -/

/-- Where `run` is. The deadline of a wait is a reading of the steady clock. -/
inductive RunPlace where
  | notStarted
  /-- About to take the mutex for the first time. -/
  | entering
  /-- At the head of the loop, with the mutex. -/
  | checking
  /-- At the predicate of `wait_for`, with the mutex. -/
  | testing (deadline : Nat)
  /-- On the condition variable, un-notified. -/
  | waiting (deadline : Nat)
  /-- Awake, and before the mutex again. -/
  | released (deadline : Nat) (timedOut : Bool)
  /-- `wait_for` has returned; with the mutex. -/
  | woken
  /-- The flag was not set: `tick` is called, without the mutex. -/
  | unlocked
  /-- In the second phase of `tick`. -/
  | sweeping
  /-- `tick` has returned. -/
  | relocking
  | returned
  deriving DecidableEq, Repr

/-- `run` has the mutex. -/
def RunPlace.holds : RunPlace → Bool
  | .checking | .testing _ | .woken => true
  | _ => false

/-- Where the owner is: outside, or in `stop`. -/
inductive Owner where
  | outside
  /-- Before the mutex. -/
  | locking
  /-- With the mutex. -/
  | setting
  | notifying
  | joining
  deriving DecidableEq, Repr

/-- The server with the thread of its monitor. -/
structure Monitored where
  reported : Reported
  run : RunPlace
  owner : Owner
  /-- `m_stop`. -/
  stop : Bool
  /-- `m_thread.joinable()`. -/
  joinable : Bool
  /-- The steady clock, in nanoseconds. -/
  steady : Nat

/-- A monitor that has been constructed. -/
def Monitored.boot (reported : Reported) : Monitored :=
  ⟨reported, .notStarted, .outside, false, false, 0⟩

abbrev Monitored.world (state : Monitored) : World := state.reported.observed.world

/-- There is a process: nothing has thrown, in the server or on the exporter's thread. -/
def Monitored.Running (state : Monitored) : Prop :=
  state.reported.alive = true ∧ state.reported.observed.exporter.stage ≠ .terminated

instance (state : Monitored) : Decidable state.Running :=
  inferInstanceAs (Decidable (_ ∧ _))

inductive RunEvent where
  /-- A step of a worker, or of the exporter's thread. -/
  | beside (report : Report)
  | pass (elapsed : Nat)
  -- the owner
  | start
  | callStop
  | ownerLock
  | setStop
  | notify
  /-- `join`, if there is a thread; then `stop` returns. -/
  | join
  -- the thread
  | lock
  | check
  | test
  | spurious
  | timeout
  | decide
  | tick (now : Time) (snapshot : List NodeEntry) (readings : Readings) (clock : LogReadings)
  | offline (now : Time) (readings : Readings) (clock : LogReadings)
  | tickReturns

/-- The interval, as `std::chrono::seconds`. -/
def interval (config : ServerConfig) : Nat := config.heartbeatIntervalSecs.toNat * 1000000000

/-- The action is one of the monitor. -/
def ofTick : Action → Bool
  | .tickStart _ | .tickOffline => true
  | _ => false

/-- Neither a step of the monitor nor one of the exporter's destructor, which does not run before
`main` has returned. -/
def besides : Observation → Bool
  | .server event _ => !ofTick event.action
  | .exporter event => !event.ofDestructor

section Step

variable (codec : JsonCodec) (what : Bytes → Bytes) (config : ServerConfig)

/-- A step of the server, with its spans and its lines. -/
def Monitored.serve (state : Monitored) (report : Report) (run : RunPlace) :
    Option (Option Emitted × Monitored) :=
  (ExodusOps.report codec what config state.reported report).map fun (emitted, reported) =>
    (some emitted, { state with reported, run })

/-- A step of a worker, of the exporter, of the owner or of the thread. -/
def Monitored.take (state : Monitored) : RunEvent → Option (Option Emitted × Monitored)
  | .beside report =>
      if besides report.observation then state.serve codec what config report state.run else none
  | .pass elapsed => some (none, { state with steady := state.steady + elapsed })
  | .start =>
      -- a thread that is still joinable must not be replaced
      if state.owner = .outside ∧ state.joinable = false then
        some (none, { state with run := .entering, joinable := true })
      else none
  | .callStop =>
      if state.owner = .outside then some (none, { state with owner := .locking }) else none
  | .ownerLock =>
      if state.owner = .locking ∧ state.run.holds = false then
        some (none, { state with owner := .setting })
      else none
  | .setStop =>
      if state.owner = .setting then some (none, { state with owner := .notifying, stop := true })
      else none
  | .notify =>
      if state.owner = .notifying then
        match state.run with
        | .waiting deadline =>
            some (none, { state with owner := .joining, run := .released deadline false })
        | _ => some (none, { state with owner := .joining })
      else none
  | .join =>
      if state.owner = .joining ∧ (state.joinable = true → state.run = .returned) then
        some (none, { state with owner := .outside, joinable := false })
      else none
  | .lock =>
      if state.owner = .setting then none
      else
        match state.run with
        | .entering | .relocking => some (none, { state with run := .checking })
        | .released deadline false => some (none, { state with run := .testing deadline })
        -- after a time-out `wait_for` returns what the predicate is then
        | .released _ true => some (none, { state with run := .woken })
        | _ => none
  | .check =>
      match state.run with
      | .checking => some (none, { state with
          run := if state.stop then .returned else .testing (state.steady + interval config) })
      | _ => none
  | .test =>
      match state.run with
      | .testing deadline => some (none, { state with
          run := if state.stop then .woken else .waiting deadline })
      | _ => none
  | .spurious =>
      match state.run with
      | .waiting deadline => some (none, { state with run := .released deadline false })
      | _ => none
  | .timeout =>
      match state.run with
      | .waiting deadline =>
          if deadline ≤ state.steady then
            some (none, { state with run := .released deadline true })
          else none
      | _ => none
  | .decide =>
      match state.run with
      | .woken => some (none, { state with run := if state.stop then .checking else .unlocked })
      | _ => none
  | .tick now snapshot readings clock =>
      match state.run with
      | .unlocked =>
          state.serve codec what config ⟨.server ⟨now, .tickStart snapshot⟩ readings, clock⟩
            .sweeping
      | _ => none
  | .offline now readings clock =>
      match state.run with
      | .sweeping =>
          state.serve codec what config ⟨.server ⟨now, .tickOffline⟩ readings, clock⟩ .sweeping
      | _ => none
  | .tickReturns =>
      match state.run with
      | .sweeping =>
          if state.world.stale = [] then some (none, { state with run := .relocking }) else none
      | _ => none

/-- **One step**, while there is a process. -/
def monitored (state : Monitored) (event : RunEvent) : Option (Option Emitted × Monitored) :=
  if state.Running then state.take codec what config event else none

/-- What a step can do. -/
inductive Moves (state : Monitored) : RunEvent → Option Emitted → Monitored → Prop where
  | beside {report : Report} {emitted : Emitted} {reported : Reported} :
      besides report.observation = true →
      ExodusOps.report codec what config state.reported report = some (emitted, reported) →
      Moves state (.beside report) (some emitted) { state with reported }
  | pass {elapsed : Nat} :
      Moves state (.pass elapsed) none { state with steady := state.steady + elapsed }
  | start : state.owner = .outside → state.joinable = false →
      Moves state .start none { state with run := .entering, joinable := true }
  | callStop : state.owner = .outside →
      Moves state .callStop none { state with owner := .locking }
  | ownerLock : state.owner = .locking → state.run.holds = false →
      Moves state .ownerLock none { state with owner := .setting }
  | setStop : state.owner = .setting →
      Moves state .setStop none { state with owner := .notifying, stop := true }
  | notifyWaiter {deadline : Nat} : state.owner = .notifying → state.run = .waiting deadline →
      Moves state .notify none { state with owner := .joining, run := .released deadline false }
  | notifyNobody : state.owner = .notifying → (∀ deadline, state.run ≠ .waiting deadline) →
      Moves state .notify none { state with owner := .joining }
  | join : state.owner = .joining → (state.joinable = true → state.run = .returned) →
      Moves state .join none { state with owner := .outside, joinable := false }
  | lock : state.owner ≠ .setting → state.run = .entering ∨ state.run = .relocking →
      Moves state .lock none { state with run := .checking }
  | relock {deadline : Nat} : state.owner ≠ .setting → state.run = .released deadline false →
      Moves state .lock none { state with run := .testing deadline }
  | relockLate {deadline : Nat} : state.owner ≠ .setting → state.run = .released deadline true →
      Moves state .lock none { state with run := .woken }
  | check : state.run = .checking →
      Moves state .check none { state with
        run := if state.stop then .returned else .testing (state.steady + interval config) }
  | test {deadline : Nat} : state.run = .testing deadline →
      Moves state .test none { state with run := if state.stop then .woken else .waiting deadline }
  | spurious {deadline : Nat} : state.run = .waiting deadline →
      Moves state .spurious none { state with run := .released deadline false }
  | timeout {deadline : Nat} : state.run = .waiting deadline → deadline ≤ state.steady →
      Moves state .timeout none { state with run := .released deadline true }
  | decide : state.run = .woken →
      Moves state .decide none { state with run := if state.stop then .checking else .unlocked }
  | tick {now : Time} {snapshot : List NodeEntry} {readings : Readings} {clock : LogReadings}
      {emitted : Emitted} {reported : Reported} : state.run = .unlocked →
      ExodusOps.report codec what config state.reported
        ⟨.server ⟨now, .tickStart snapshot⟩ readings, clock⟩ = some (emitted, reported) →
      Moves state (.tick now snapshot readings clock) (some emitted)
        { state with reported, run := .sweeping }
  | offline {now : Time} {readings : Readings} {clock : LogReadings} {emitted : Emitted}
      {reported : Reported} : state.run = .sweeping →
      ExodusOps.report codec what config state.reported
        ⟨.server ⟨now, .tickOffline⟩ readings, clock⟩ = some (emitted, reported) →
      Moves state (.offline now readings clock) (some emitted)
        { state with reported, run := .sweeping }
  | tickReturns : state.run = .sweeping → state.world.stale = [] →
      Moves state .tickReturns none { state with run := .relocking }

variable {codec what config}

theorem moves_of_step {state next : Monitored} {event : RunEvent} {output : Option Emitted}
    (taken : monitored codec what config state event = some (output, next)) :
    Moves codec what config state event output next := by
  obtain ⟨-, taken⟩ := Option.ite_none_right_eq_some.mp taken
  have served {report : Report} {run : RunPlace}
      (taken : state.serve codec what config report run = some (output, next)) :
      ∃ emitted reported, ExodusOps.report codec what config state.reported report =
          some (emitted, reported) ∧
        output = some emitted ∧ next = { state with reported, run } := by
    obtain ⟨⟨emitted, reported⟩, there, same⟩ := Option.map_eq_some_iff.mp taken
    cases same
    exact ⟨emitted, reported, there, rfl, rfl⟩
  cases event with
  | beside report =>
      obtain ⟨other, taken⟩ := Option.ite_none_right_eq_some.mp taken
      obtain ⟨emitted, reported, there, rfl, rfl⟩ := served taken
      exact .beside other there
  | pass elapsed =>
      cases taken
      exact .pass
  | start =>
      obtain ⟨⟨outside, fresh⟩, same⟩ := Option.ite_none_right_eq_some.mp taken
      cases same
      exact .start outside fresh
  | callStop =>
      obtain ⟨outside, same⟩ := Option.ite_none_right_eq_some.mp taken
      cases same
      exact .callStop outside
  | ownerLock =>
      obtain ⟨⟨locking, free⟩, same⟩ := Option.ite_none_right_eq_some.mp taken
      cases same
      exact .ownerLock locking free
  | setStop =>
      obtain ⟨setting, same⟩ := Option.ite_none_right_eq_some.mp taken
      cases same
      exact .setStop setting
  | notify =>
      obtain ⟨notifying, same⟩ := Option.ite_none_right_eq_some.mp taken
      split at same
      next deadline waiting =>
        cases same
        exact .notifyWaiter notifying waiting
      next other =>
        cases same
        exact .notifyNobody notifying other
  | join =>
      obtain ⟨⟨joining, ended⟩, same⟩ := Option.ite_none_right_eq_some.mp taken
      cases same
      exact .join joining ended
  | lock =>
      obtain ⟨free, same⟩ := Option.ite_none_left_eq_some.mp taken
      split at same
      next entering =>
        cases same
        exact .lock free (.inl entering)
      next relocking =>
        cases same
        exact .lock free (.inr relocking)
      next deadline released =>
        cases same
        exact .relock free released
      next deadline released =>
        cases same
        exact .relockLate free released
      next => cases same
  | check =>
      simp only [Monitored.take] at taken
      split at taken
      next checking =>
        cases taken
        exact .check checking
      next => cases taken
  | test =>
      simp only [Monitored.take] at taken
      split at taken
      next deadline testing =>
        cases taken
        exact .test testing
      next => cases taken
  | spurious =>
      simp only [Monitored.take] at taken
      split at taken
      next deadline waiting =>
        cases taken
        exact .spurious waiting
      next => cases taken
  | timeout =>
      simp only [Monitored.take] at taken
      split at taken
      next deadline waiting =>
        split_ifs at taken with late
        cases taken
        exact .timeout waiting late
      next => cases taken
  | decide =>
      simp only [Monitored.take] at taken
      split at taken
      next woken =>
        cases taken
        exact .decide woken
      next => cases taken
  | tick now snapshot readings clock =>
      simp only [Monitored.take] at taken
      split at taken
      next unlocked =>
        obtain ⟨emitted, reported, there, rfl, rfl⟩ := served taken
        exact .tick unlocked there
      next => cases taken
  | offline now readings clock =>
      simp only [Monitored.take] at taken
      split at taken
      next sweeping =>
        obtain ⟨emitted, reported, there, rfl, rfl⟩ := served taken
        exact .offline sweeping there
      next => cases taken
  | tickReturns =>
      simp only [Monitored.take] at taken
      split at taken
      next sweeping =>
        split_ifs at taken with swept
        cases taken
        exact .tickReturns sweeping swept
      next => cases taken

end Step

abbrev MonitoredTurn := Transition Monitored RunEvent (Option Emitted)

section Runs

variable {codec : JsonCodec} {what : Bytes → Bytes} {config : ServerConfig} {start : Reported}
  {state next : Monitored} {event : RunEvent} {output : Option Emitted}
  {trace : List MonitoredTurn}

/-! ### The thread left out -/

/-- The step of the server, its exporter and its log in a step. -/
def reportMove (turn : MonitoredTurn) : Option ReportedTurn :=
  let moved (report : Report) : Option ReportedTurn :=
    turn.output.map fun emitted => ⟨turn.before.reported, report, emitted, turn.after.reported⟩
  match turn.event with
  | .beside report => moved report
  | .tick now snapshot readings clock => moved ⟨.server ⟨now, .tickStart snapshot⟩ readings, clock⟩
  | .offline now readings clock => moved ⟨.server ⟨now, .tickOffline⟩ readings, clock⟩
  | _ => none

/-- **A run of the threads is a run of the server**, with the ticks where the thread makes them. -/
theorem monitored_refines (run : Run (monitored codec what config) (.boot start) trace state) :
    Run (report codec what config) start (trace.filterMap reportMove) state.reported := by
  refine run.project Monitored.reported reportMove ?_ ?_
  · rintro ⟨before, event, output, after⟩ taken still
    change monitored codec what config before event = some (output, after) at taken
    cases moves_of_step taken with
    | beside _ _ => cases still
    | tick _ _ => cases still
    | offline _ _ => cases still
    | _ => rfl
  · rintro ⟨before, event, output, after⟩ other taken moved
    change monitored codec what config before event = some (output, after) at taken
    cases moves_of_step taken with
    | beside _ there =>
        cases moved
        exact ⟨rfl, rfl, there⟩
    | tick _ there =>
        cases moved
        exact ⟨rfl, rfl, there⟩
    | offline _ there =>
        cases moved
        exact ⟨rfl, rfl, there⟩
    | _ => cases moved

/-- The step of `World` in a step of the server. -/
theorem step_of_report {reported reported' : Reported} {event : Event} {readings : Readings}
    {clock : LogReadings} {emitted : Emitted}
    (taken : report codec what config reported ⟨.server event readings, clock⟩ =
      some (emitted, reported')) :
    step codec config reported.observed.world event =
      some (emitted.reply, reported'.observed.world) :=
  step_of_observe (report_iff.mp taken).2.1

theorem world_of_report_exporter {reported reported' : Reported} {event : ExporterEvent}
    {clock : LogReadings} {emitted : Emitted}
    (taken : report codec what config reported ⟨.exporter event, clock⟩ =
      some (emitted, reported')) :
    reported'.observed.world = reported.observed.world :=
  world_of_exporter (report_iff.mp taken).2.1

/-! ### What is true of the thread at any time -/

/-- **The thread and its owner.** -/
structure Sound (state : Monitored) : Prop where
  /-- A sweep is under way in `tick` only. -/
  swept : state.world.stale ≠ [] → state.run = .sweeping
  /-- Without a thread to join none has begun, or the last one has returned. -/
  joined : state.joinable = false → state.run = .notStarted ∨ state.run = .returned
  started : state.joinable = true → state.run ≠ .notStarted
  /-- From the flag on the thread waits only for the notification that is to come. -/
  notified : state.stop = true → state.owner ≠ .notifying →
    ∀ deadline, state.run ≠ .waiting deadline
  /-- Past the critical section of `stop` the flag is set. -/
  flagged : state.owner = .notifying ∨ state.owner = .joining → state.stop = true
  /-- The thread returns because of the flag. -/
  ended : state.run = .returned → state.stop = true

theorem sound_boot (fresh : start.observed.world.stale = []) : Sound (.boot start) where
  swept := fun some => absurd fresh some
  joined := fun _ => .inl rfl
  started := nofun
  notified := nofun
  flagged := nofun
  ended := nofun

/-- A step beside the monitor leaves the sweep alone. -/
theorem stale_beside {reported reported' : Reported} {event : Report} {emitted : Emitted}
    (other : besides event.observation = true)
    (taken : report codec what config reported event = some (emitted, reported')) :
    reported'.observed.world.stale = reported.observed.world.stale := by
  obtain ⟨observation, clock⟩ := event
  cases observation with
  | exporter event => rw [world_of_report_exporter taken]
  | server event readings =>
      rw [(step_sweep (step_of_report taken)).2]
      obtain ⟨now, action⟩ := event
      cases action with
      | tickStart snapshot => cases other
      | tickOffline => cases other
      | _ => rfl

/-- The thread moves on, to a place where it does not wait or end, and not in a sweep. -/
theorem Sound.moves (sound : Sound state) {place : RunPlace} (alive : state.joinable = true)
    (swept : state.run ≠ .sweeping ∨ state.world.stale = []) (begun : place ≠ .notStarted)
    (waits : ∀ deadline, place = .waiting deadline → state.stop = false)
    (ends : place = .returned → state.stop = true) : Sound { state with run := place } where
  swept some := by
    rcases swept with elsewhere | nothing
    · exact absurd (sound.swept some) elsewhere
    · exact absurd nothing some
  joined dead := by
    rw [alive] at dead
    cases dead
  started _ := begun
  notified set _ deadline here := by
    rw [waits deadline here] at set
    cases set
  flagged := sound.flagged
  ended := ends

/-- Where the thread is on its way there is one. -/
theorem Sound.alive (sound : Sound state) (begun : state.run ≠ .notStarted)
    (going : state.run ≠ .returned) : state.joinable = true := by
  cases there : state.joinable with
  | true => rfl
  | false =>
      rcases sound.joined there with fresh | ended
      · exact absurd fresh begun
      · exact absurd ended going

theorem sound_step (taken : monitored codec what config state event = some (output, next))
    (sound : Sound state) : Sound next := by
  -- a step of the thread from one place to another, outside a sweep
  have moves {before after : RunPlace} (here : state.run = before)
      (leaves : before ≠ .notStarted ∧ before ≠ .returned ∧ before ≠ .sweeping)
      (begun : after ≠ .notStarted)
      (waits : ∀ deadline, after = .waiting deadline → state.stop = false)
      (ends : after = .returned → state.stop = true) : Sound { state with run := after } := by
    refine sound.moves (sound.alive ?_ ?_) (.inl ?_) begun waits ends
    · rw [here]; exact leaves.1
    · rw [here]; exact leaves.2.1
    · rw [here]; exact leaves.2.2
  cases moves_of_step taken with
  | beside other there =>
      have same := stale_beside other there
      exact ⟨fun some => sound.swept (same ▸ some), sound.joined, sound.started, sound.notified,
        sound.flagged, sound.ended⟩
  | pass =>
      exact ⟨sound.swept, sound.joined, sound.started, sound.notified, sound.flagged, sound.ended⟩
  | start outside fresh =>
      refine ⟨fun some => ?_, nofun, fun _ => nofun, fun _ _ _ => nofun, sound.flagged, nofun⟩
      rcases sound.joined fresh with place | place <;> rw [sound.swept some] at place <;>
        cases place
  | callStop outside =>
      exact ⟨sound.swept, sound.joined, sound.started,
        fun set _ => sound.notified set (by rw [outside]; nofun), nofun, sound.ended⟩
  | ownerLock locking _ =>
      exact ⟨sound.swept, sound.joined, sound.started,
        fun set _ => sound.notified set (by rw [locking]; nofun), nofun, sound.ended⟩
  | setStop setting =>
      exact ⟨sound.swept, sound.joined, sound.started, fun _ other => absurd rfl other,
        fun _ => rfl, fun _ => rfl⟩
  | @notifyWaiter deadline notifying waiting =>
      have set := sound.flagged (.inl notifying)
      have released : Sound { state with run := .released deadline false } :=
        moves waiting (by simp) nofun nofun nofun
      exact ⟨released.swept, released.joined, released.started, fun _ _ _ => nofun, fun _ => set,
        released.ended⟩
  | notifyNobody notifying nobody =>
      exact ⟨sound.swept, sound.joined, sound.started, fun _ _ => nobody,
        fun _ => sound.flagged (.inl notifying), sound.ended⟩
  | join joining returned =>
      have set := sound.flagged (.inr joining)
      refine ⟨sound.swept, fun _ => ?_, nofun,
        fun _ _ => sound.notified set (by rw [joining]; nofun), nofun, sound.ended⟩
      cases alive : state.joinable with
      | true => exact .inr (returned alive)
      | false => exact sound.joined alive
  | lock _ place =>
      rcases place with entering | relocking
      · exact moves entering (by simp) nofun nofun nofun
      · exact moves relocking (by simp) nofun nofun nofun
  | relock _ released => exact moves released (by simp) nofun nofun nofun
  | relockLate _ released => exact moves released (by simp) nofun nofun nofun
  | check checking =>
      refine moves checking (by simp) ?_ ?_ ?_ <;> cases state.stop <;> simp
  | test testing =>
      refine moves testing (by simp) ?_ ?_ ?_ <;> cases state.stop <;> simp
  | spurious waiting => exact moves waiting (by simp) nofun nofun nofun
  | timeout waiting _ => exact moves waiting (by simp) nofun nofun nofun
  | decide woken =>
      refine moves woken (by simp) ?_ ?_ ?_ <;> cases state.stop <;> simp
  | tick unlocked there =>
      have begun : Sound { state with run := .sweeping } :=
        moves unlocked (by simp) nofun nofun nofun
      exact ⟨fun _ => rfl, begun.joined, begun.started, begun.notified, begun.flagged, begun.ended⟩
  | offline sweeping there =>
      have alive := sound.alive (by rw [sweeping]; nofun) (by rw [sweeping]; nofun)
      exact ⟨fun _ => rfl, fun dead => (by rw [alive] at dead; cases dead), fun _ => nofun,
        fun _ _ _ => nofun, sound.flagged, nofun⟩
  | tickReturns sweeping nothing =>
      exact sound.moves (sound.alive (by rw [sweeping]; nofun) (by rw [sweeping]; nofun))
        (.inr nothing) nofun nofun nofun

theorem sound_of_run (fresh : start.observed.world.stale = [])
    (run : Run (monitored codec what config) (.boot start) trace state) : Sound state :=
  run.invariant Sound (sound_boot fresh) sound_step

/-! ### After the flag -/

/-- A tick begins. -/
def RunEvent.begins : RunEvent → Bool
  | .tick _ _ _ _ => true
  | _ => false

/-- The event is one of `tick`. -/
def RunEvent.ticks : RunEvent → Bool
  | .tick _ _ _ _ | .offline _ _ _ => true
  | _ => false

/-- The ticks that may still begin once the flag is set. -/
def Monitored.due (state : Monitored) : Nat := if state.run = .unlocked then 1 else 0

/-- **With the flag set** a tick begins only if it was due. -/
theorem due_step (taken : monitored codec what config state event = some (output, next))
    (set : state.stop = true) :
    next.stop = true ∧ event.begins.toNat + next.due ≤ state.due := by
  cases moves_of_step taken with
  | check checking => simp [set, Monitored.due, RunEvent.begins]
  | test testing => simp [set, Monitored.due, RunEvent.begins]
  | decide woken => simp [set, Monitored.due, RunEvent.begins]
  | tick unlocked _ => simp [set, Monitored.due, RunEvent.begins, unlocked]
  | setStop _ => exact ⟨rfl, (Nat.zero_add _).le⟩
  | beside _ _ => exact ⟨set, (Nat.zero_add _).le⟩
  | pass => exact ⟨set, (Nat.zero_add _).le⟩
  | callStop _ => exact ⟨set, (Nat.zero_add _).le⟩
  | ownerLock _ _ => exact ⟨set, (Nat.zero_add _).le⟩
  | notifyNobody _ _ => exact ⟨set, (Nat.zero_add _).le⟩
  | join _ _ => exact ⟨set, (Nat.zero_add _).le⟩
  | _ => exact ⟨set, Nat.zero_le _⟩

theorem begins_le {first : Monitored} (run : Run (monitored codec what config) first trace state)
    (set : first.stop = true) :
    state.stop = true ∧ trace.countP (fun turn => turn.event.begins) + state.due ≤ first.due := by
  induction run with
  | nil => exact ⟨set, (Nat.zero_add _).le⟩
  | @snoc trace state next event output _ taken ih =>
      obtain ⟨still, bound⟩ := due_step taken ih.1
      refine ⟨still, ?_⟩
      rw [List.countP_append, List.countP_singleton]
      have counted : (if event.begins = true then 1 else 0) = event.begins.toNat := by
        cases event.begins <;> rfl
      rw [show (Transition.event ⟨state, event, output, next⟩) = event from rfl, counted]
      omega

/-- The flag is set and the thread is not on its way to a tick. -/
def Monitored.Silent (state : Monitored) : Prop :=
  state.stop = true ∧ (state.run = .notStarted ∨ state.run = .entering ∨ state.run = .checking ∨
    state.run = .returned)

/-- **A stopped monitor stays silent**, also when it is started again. -/
theorem silent_step (taken : monitored codec what config state event = some (output, next))
    (silent : state.Silent) : event.ticks = false ∧ next.Silent := by
  obtain ⟨set, place⟩ := silent
  -- a place the thread is not at
  have elsewhere {other : RunPlace} (here : state.run = other)
      (away : other ≠ .notStarted ∧ other ≠ .entering ∧ other ≠ .checking ∧ other ≠ .returned) :
      event.ticks = false ∧ next.Silent := by
    rw [here] at place
    rcases place with same | same | same | same
    · exact absurd same away.1
    · exact absurd same away.2.1
    · exact absurd same away.2.2.1
    · exact absurd same away.2.2.2
  cases moves_of_step taken with
  | beside _ _ => exact ⟨rfl, set, place⟩
  | pass => exact ⟨rfl, set, place⟩
  | start _ _ => exact ⟨rfl, set, .inr (.inl rfl)⟩
  | callStop _ => exact ⟨rfl, set, place⟩
  | ownerLock _ _ => exact ⟨rfl, set, place⟩
  | setStop _ => exact ⟨rfl, rfl, place⟩
  | notifyWaiter _ waiting => exact elsewhere waiting (by simp)
  | notifyNobody _ _ => exact ⟨rfl, set, place⟩
  | join _ _ => exact ⟨rfl, set, place⟩
  | lock _ _ => exact ⟨rfl, set, .inr (.inr (.inl rfl))⟩
  | relock _ released => exact elsewhere released (by simp)
  | relockLate _ released => exact elsewhere released (by simp)
  | check _ => exact ⟨rfl, set, .inr (.inr (.inr (if_pos set)))⟩
  | test testing => exact elsewhere testing (by simp)
  | spurious waiting => exact elsewhere waiting (by simp)
  | timeout waiting _ => exact elsewhere waiting (by simp)
  | decide woken => exact elsewhere woken (by simp)
  | tick unlocked _ => exact elsewhere unlocked (by simp)
  | offline sweeping _ => exact elsewhere sweeping (by simp)
  | tickReturns sweeping _ => exact elsewhere sweeping (by simp)

/-- When `stop` returns the thread has returned, or there was none. -/
theorem silent_of_joined (sound : Sound state)
    (taken : monitored codec what config state .join = some (output, next)) : next.Silent := by
  cases moves_of_step taken with
  | join joining returned =>
      refine ⟨sound.flagged (.inr joining), ?_⟩
      cases alive : state.joinable with
      | true => exact .inr (.inr (.inr (returned alive)))
      | false => exact (sound.joined alive).imp_right fun ended => .inr (.inr ended)

theorem silent_run {first : Monitored} (run : Run (monitored codec what config) first trace state)
    (silent : first.Silent) :
    state.Silent ∧ ∀ turn ∈ trace, turn.event.ticks = false := by
  induction run with
  | nil => exact ⟨silent, fun _ member => absurd member List.not_mem_nil⟩
  | snoc _ taken ih =>
      obtain ⟨before, quiet⟩ := ih
      obtain ⟨still, after⟩ := silent_step taken before
      refine ⟨after, fun turn member => ?_⟩
      rcases List.mem_append.mp member with inside | same
      · exact quiet turn inside
      · rw [List.mem_singleton.mp same]
        exact still

/-! ### Who turns a node OFFLINE -/

/-- **A node goes OFFLINE by `setOffline` alone.** -/
theorem setOffline_of_gone {world world' : World} {event : Event} {nodeId : Bytes}
    {output : Option (Nat × Reply)} (taken : step codec config world event = some (output, world'))
    (online : world.registry.isOnline nodeId = true)
    (gone : world'.registry.isOnline nodeId = false) :
    registryCall codec world event = some (.setOffline nodeId event.now) := by
  obtain ⟨entry, found, status⟩ := NodeRegistry.isOnline_iff.mp online
  have offline : ∀ after, world'.registry.queryNode nodeId = some after →
      after.status ≠ .online := fun after there state => by
    rw [NodeRegistry.isOnline_iff.mpr ⟨after, there, state⟩] at gone
    cases gone
  cases called : registryCall codec world event with
  | none =>
      rw [step_registry_of_none taken called] at gone
      rw [online] at gone
      cases gone
  | some call =>
      have effect := step_registry_of_some taken called
      cases call with
      | registerNode passed =>
          rw [effect, NodeRegistry.perform] at offline
          simp only [NodeRegistry.queryNode_registerNode] at offline
          split_ifs at offline with accepted
          · exact absurd rfl (offline _ rfl)
          · exact absurd status (offline entry found)
      | updateLastSeen target now =>
          rw [effect, NodeRegistry.perform] at offline
          simp only [NodeRegistry.queryNode_updateLastSeen, found] at offline
          split_ifs at offline with accepted
          · exact (offline _ rfl status).elim
          · exact absurd status (offline entry rfl)
      | setOffline target now =>
          rw [effect, NodeRegistry.perform] at offline
          simp only [NodeRegistry.queryNode_setOffline, found] at offline
          split_ifs at offline with same
          · obtain ⟨rfl, -⟩ := same
            by_cases framed : ∃ conn frame listing, event.action = .frame conn frame listing
            · obtain ⟨conn, frame, listing, action⟩ := framed
              simp only [registryCall, action] at called
              split_ifs at called
              · obtain ⟨_, _, wrong⟩ := Option.map_eq_some_iff.mp called
                cases wrong
              · cases called
            · obtain ⟨other, same⟩ := registryCall_of_not_frame framed called
              cases same
              rfl
          · exact absurd status (offline entry rfl)

/-- The `setOffline` of a worker is the end of a connection that names the node. -/
theorem setOffline_connection {world : World} {event : Event} {nodeId : Bytes} {now : Time}
    (other : ofTick event.action = false)
    (called : registryCall codec world event = some (.setOffline nodeId now)) :
    ∃ conn, world.active conn = nodeId ∧
      ((∃ status, event.action = .teardown conn status) ∨
        event.action = .configure conn false) := by
  obtain ⟨moment, action⟩ := event
  cases action with
  | frame conn frame listing =>
      simp only [registryCall] at called
      split_ifs at called
      · obtain ⟨_, _, wrong⟩ := Option.map_eq_some_iff.mp called
        cases wrong
      · cases called
  | teardown conn status =>
      obtain ⟨_, same⟩ := Option.ite_none_left_eq_some.mp called
      cases same
      exact ⟨conn, rfl, .inl ⟨status, rfl⟩⟩
  | configure conn applied =>
      obtain ⟨failed, marked⟩ := Option.ite_none_left_eq_some.mp called
      obtain ⟨_, same⟩ := Option.ite_none_left_eq_some.mp marked
      cases same
      exact ⟨conn, rfl, .inr (by rw [Bool.eq_false_of_not_eq_true failed])⟩
  | tickStart snapshot => cases other
  | tickOffline => cases other
  | accept => cases called
  | welcome conn sent => cases called

/-- A step that turns a node OFFLINE without the monitor. -/
theorem gone_by_connection (taken : monitored codec what config state event = some (output, next))
    (quiet : event.ticks = false) {nodeId : Bytes}
    (online : state.world.registry.isOnline nodeId = true)
    (gone : next.world.registry.isOnline nodeId = false) :
    ∃ report cause readings conn, event = .beside report ∧
      report.observation = .server cause readings ∧ state.world.active conn = nodeId ∧
      ((∃ status, cause.action = .teardown conn status) ∨
        cause.action = .configure conn false) := by
  have unchanged (same : next.world = state.world) : False := by
    rw [same, online] at gone
    cases gone
  cases moves_of_step taken with
  | @beside event _ _ other there =>
      obtain ⟨observation, clock⟩ := event
      cases observation with
      | exporter event => exact (unchanged (world_of_report_exporter there)).elim
      | server cause readings =>
          obtain ⟨conn, names, ends⟩ := setOffline_connection ((Bool.not_eq_true' _).mp other)
            (setOffline_of_gone (step_of_report there) online gone)
          exact ⟨_, cause, readings, conn, rfl, rfl, names, ends⟩
  | tick _ _ => cases quiet
  | offline _ _ => cases quiet
  | _ => exact (unchanged rfl).elim

theorem flag_set (taken : monitored codec what config state .setStop = some (output, next)) :
    next.stop = true ∧ next.due = state.due := by
  cases moves_of_step taken
  exact ⟨rfl, rfl⟩

/-- **No tick after `stop`.** Once the flag is set at most one tick begins, and only if the thread
had passed its test before; once `stop` has returned no step is one of a tick, and a node that is
ONLINE goes OFFLINE only when a connection that names it ends. -/
theorem stopped_silent {earlier later : List MonitoredTurn} {stopped : MonitoredTurn}
    (fresh : start.observed.world.stale = [])
    (run : Run (monitored codec what config) (.boot start) (earlier ++ stopped :: later) state)
    (sets : stopped.event = .setStop) :
    later.countP (fun turn => turn.event.begins) ≤
      (if stopped.before.run = .unlocked then 1 else 0) ∧
    ∀ middle returned after, later = middle ++ returned :: after → returned.event = .join →
      ∀ turn ∈ after, turn.event.ticks = false ∧
        ∀ nodeId, turn.before.world.registry.isOnline nodeId = true →
          turn.after.world.registry.isOnline nodeId = false →
            ∃ report cause readings conn, turn.event = .beside report ∧
              report.observation = .server cause readings ∧
              turn.before.world.active conn = nodeId ∧
              ((∃ status, cause.action = .teardown conn status) ∨
                cause.action = .configure conn false) := by
  obtain ⟨before, setting, rest⟩ := run.cut
  rw [sets] at setting
  constructor
  · obtain ⟨set, same⟩ := flag_set setting
    obtain ⟨-, bound⟩ := begins_le rest set
    rw [same] at bound
    exact (Nat.le_add_right _ _).trans bound
  · rintro middle returned after rfl joins turn member
    obtain ⟨-, joined, on⟩ := rest.cut
    rw [joins] at joined
    have reached : Run (monitored codec what config) (.boot start)
        (earlier ++ stopped :: middle) returned.before := run.upTo
    have silent := silent_of_joined (sound_of_run fresh reached) joined
    have quiet := (silent_run on silent).2 turn member
    exact ⟨quiet, fun nodeId => gone_by_connection (on.taken member) quiet⟩

/-- The thread waits for an interval, wakes once for no reason, and passes its test; then `stop` is
called. -/
def untilFlag : List RunEvent :=
  [.start, .lock, .check, .test, .spurious, .lock, .test, .pass 10000000000, .timeout, .lock,
    .decide, .callStop, .ownerLock]

/-- The tick that was due is made while `stop` waits for the thread; a second start is in vain. -/
def sinceFlag : List RunEvent :=
  [.tick 5 [] steadyReadings ⟨6, 7, 0⟩, .notify, .tickReturns, .lock, .check, .join, .start, .lock,
    .check]

theorem stopped_silent_inTick :
    ∃ earlier stopped later, execTrace (monitored Json.flatCodec quoting .default) (.boot .boot)
        (untilFlag ++ .setStop :: sinceFlag) = earlier ++ stopped :: later ∧
      later.map Transition.event = sinceFlag ∧
      later.countP (fun turn => turn.event.begins) ≤
        (if stopped.before.run = .unlocked then 1 else 0) := by
  have possible : (exec (monitored Json.flatCodec quoting .default) (.boot .boot)
      (untilFlag ++ .setStop :: sinceFlag)).isSome = true := by decide +kernel
  obtain ⟨earlier, stopped, later, whole, -, sets, events⟩ :=
    execTrace_cut untilFlag .setStop sinceFlag possible
  have run := run_of_possible possible
  rw [whole] at run
  exact ⟨earlier, stopped, later, whole, events, (stopped_silent rfl run sets).1⟩

/-! ### `stop` returns -/

/-- A step of the thread, or of the owner in `stop`. -/
def Scheduled (_ : Monitored) : RunEvent → Prop
  | .notify | .join | .lock | .check | .test | .spurious | .timeout | .decide | .tick _ _ _ _
  | .offline _ _ _ | .tickReturns => True
  | _ => False

/-- How far the thread is from its return, with the flag set. A tick that is to begin may find any
number of nodes. -/
def Monitored.toReturn (state : Monitored) : Nat × Nat :=
  match state.run with
  | .notStarted | .returned => (0, 0)
  | .checking => (0, 1)
  | .entering | .woken | .relocking => (0, 2)
  | .testing _ | .released _ true => (0, 3)
  | .released _ false => (0, 4)
  | .waiting _ => (0, 5)
  | .sweeping => (1, state.world.stale.length)
  | .unlocked => (2, 0)

/-- How far the owner is. -/
def Owner.toReturn : Owner → Nat
  | .notifying => 2
  | .joining => 1
  | _ => 0

def Monitored.rank (state : Monitored) : Nat × Nat :=
  (state.toReturn.1, state.toReturn.2 + state.owner.toReturn)

/-- **Every such step brings `stop` closer to its return.** -/
theorem rank_lowered (taken : monitored codec what config state event = some (output, next))
    (scheduled : Scheduled state event) (set : state.stop = true) :
    Prod.Lex (· < ·) (· < ·) next.rank state.rank := by
  rw [Prod.lex_def]
  unfold Monitored.rank Monitored.toReturn
  cases moves_of_step taken with
  | beside _ _ => cases scheduled
  | pass => cases scheduled
  | start _ _ => cases scheduled
  | callStop _ => cases scheduled
  | ownerLock _ _ => cases scheduled
  | setStop _ => cases scheduled
  | notifyWaiter notifying waiting => simp [notifying, waiting, Owner.toReturn]
  | notifyNobody notifying _ => simp [notifying, Owner.toReturn]
  | join joining _ => simp [joining, Owner.toReturn]
  | lock _ place => rcases place with here | here <;> simp [here]
  | relock _ released => simp [released]
  | relockLate _ released => simp [released]
  | check checking => simp [checking, set]
  | test testing => simp [testing, set]
  | spurious waiting => simp [waiting]
  | timeout waiting _ => simp [waiting]
  | decide woken => simp [woken, set]
  | tick unlocked _ => simp [unlocked]
  | offline sweeping there =>
      obtain ⟨nodeId, rest, stale, -, world⟩ := step_tickOffline_iff.mp (step_of_report there)
      simp [Monitored.world, sweeping, stale, world]
  | tickReturns sweeping _ => simp [sweeping]

/-- The others leave the thread and its owner where they are. -/
theorem rank_aside (taken : monitored codec what config state event = some (output, next))
    (stopping : state.owner = .notifying ∨ state.owner = .joining)
    (aside : ¬ Scheduled state event) : next.rank = state.rank := by
  -- the owner is in `stop`, and no longer at its first half
  have busy {place : Owner} (here : state.owner = place)
      (other : place ≠ .notifying ∧ place ≠ .joining) : next.rank = state.rank := by
    rcases stopping with there | there
    · exact absurd (here.symm.trans there) other.1
    · exact absurd (here.symm.trans there) other.2
  cases moves_of_step taken with
  | beside other there =>
      have same := stale_beside other there
      unfold Monitored.rank Monitored.toReturn Monitored.world
      simp only [same]
  | pass => rfl
  | start outside _ => exact busy outside (by simp)
  | callStop outside => exact busy outside (by simp)
  | ownerLock locking _ => exact busy locking (by simp)
  | setStop setting => exact busy setting (by simp)
  | _ => exact absurd trivial aside

/-- A step of the monitor is possible in a running server where it is in `World`. -/
theorem report_possible (running : state.Running) {event : Event} {reply : Option (Nat × Reply)}
    {world : World} (other : event.action ≠ .accept)
    (there : step codec config state.world event = some (reply, world)) (readings : Readings)
    (clock : LogReadings) :
    (report codec what config state.reported ⟨.server event readings, clock⟩).isSome = true := by
  have admitted : state.reported.observed.Admits event readings :=
    fun accepts => absurd accepts other
  have observed : observe codec what config state.reported.observed (.server event readings) =
      some ((reply, _), _) :=
    observe_server_iff.mpr ⟨⟨running.2, admitted⟩, world, there, rfl, rfl⟩
  simp [report, running.1, observed]

/-- **As long as there is a process and `stop` has not returned one of them can be taken.** -/
theorem scheduled_possible (sound : Sound state) (running : state.Running)
    (stopping : state.owner = .notifying ∨ state.owner = .joining) :
    ∃ event : RunEvent, Scheduled state event ∧
      (monitored codec what config state event).isSome = true := by
  have set := sound.flagged stopping
  simp only [monitored, if_pos running]
  rcases stopping with notifying | joining
  · refine ⟨.notify, trivial, ?_⟩
    simp only [Monitored.take, notifying, if_true]
    split <;> rfl
  · cases alive : state.joinable with
    | false =>
        refine ⟨.join, trivial, ?_⟩
        simp [Monitored.take, joining, alive]
    | true =>
        cases place : state.run with
        | notStarted => exact absurd place (sound.started alive)
        | entering => exact ⟨.lock, trivial, by simp [Monitored.take, joining, place]⟩
        | checking => exact ⟨.check, trivial, by simp [Monitored.take, place]⟩
        | testing deadline => exact ⟨.test, trivial, by simp [Monitored.take, place]⟩
        | waiting deadline =>
            exact absurd place (sound.notified set (by rw [joining]; nofun) deadline)
        | released deadline timedOut =>
            cases timedOut <;> exact ⟨.lock, trivial, by simp [Monitored.take, joining, place]⟩
        | woken => exact ⟨.decide, trivial, by simp [Monitored.take, place]⟩
        | unlocked =>
            have nothing : state.world.stale = [] := by
              by_contra some
              rw [sound.swept some] at place
              cases place
            refine ⟨.tick epoch state.world.registry.listNodes steadyReadings ⟨epoch, epoch, 0⟩,
              trivial, ?_⟩
            have there : step codec config state.world
                ⟨epoch, .tickStart state.world.registry.listNodes⟩ = some (none, _) :=
              step_tickStart_iff.mpr ⟨nothing, List.Perm.refl _, rfl, rfl⟩
            simp only [Monitored.take, place, Monitored.serve, Option.isSome_map]
            exact report_possible running (by simp) there _ _
        | sweeping =>
            cases stale : state.world.stale with
            | nil => exact ⟨.tickReturns, trivial, by simp [Monitored.take, place, stale]⟩
            | cons nodeId rest =>
                refine ⟨.offline epoch steadyReadings ⟨epoch, epoch, 0⟩, trivial, ?_⟩
                have there : step codec config state.world ⟨epoch, .tickOffline⟩ = some (none, _) :=
                  step_tickOffline_iff.mpr ⟨nodeId, rest, stale, rfl, rfl⟩
                simp only [Monitored.take, place, Monitored.serve, Option.isSome_map]
                exact report_possible running (by simp) there _ _
        | relocking => exact ⟨.lock, trivial, by simp [Monitored.take, joining, place]⟩
        | returned => exact ⟨.join, trivial, by simp [Monitored.take, joining, place]⟩

/-! ### How the process can end -/

/-- `dump` throws on a line of the log, or on the batch the exporter has in hand. -/
def ReportThrows (codec : JsonCodec) (state : Observed) (event : Report) : Prop :=
  (∃ line ∈ event.lines codec state, codec.dump line = none) ∨
  ∃ batch, event.observation = .exporter .serialise ∧ state.exporter.stage = .serialising batch ∧
    codec.dump (payload batch) = none

/-- It does so in the step. -/
def Throws (codec : JsonCodec) (turn : MonitoredTurn) : Prop :=
  ∃ move ∈ reportMove turn, ReportThrows codec move.before.observed move.event

/-- The exporter's thread ends the process where it cannot write its batch, and nowhere else. -/
theorem serialising_of_terminated {exporter exporter' : BatchExporter} {event : ExporterEvent}
    (taken : exporter.step codec event = some exporter') (alive : exporter.stage ≠ .terminated)
    (ended : exporter'.stage = .terminated) :
    ∃ batch, event = .serialise ∧ exporter.stage = .serialising batch ∧
      codec.dump (payload batch) = none := by
  rcases BatchExporter.step_cases taken with ⟨_, _, rfl⟩ | ⟨_, _, rfl⟩ |
    ⟨batch, here, serialising, rfl⟩ | ⟨_, _, _, _, _, rfl⟩ | ⟨_, _, rfl⟩ | ⟨_, _, rfl⟩
  · exact absurd ended exporter.proceed_alive
  · exact absurd ended exporter.flush_alive
  · refine ⟨batch, here, serialising, ?_⟩
    simp only [BatchExporter.serialised] at ended
    split at ended
    · cases ended
    · assumption
  · exact absurd ended exporter.proceed_alive
  · exact absurd ended alive
  · exact absurd ended (BatchExporter.flush_alive _)

/-- **A step of the server ends the process** where it cannot write a line, or a batch. -/
theorem throws_of_report {before after : Reported} {event : Report} {emitted : Emitted}
    (taken : report codec what config before event = some (emitted, after))
    (running : before.observed.exporter.stage ≠ .terminated)
    (ended : after.alive = true → after.observed.exporter.stage = .terminated) :
    ReportThrows codec before.observed event := by
  obtain ⟨-, observed, -, lives⟩ := report_iff.mp taken
  cases alive : after.alive with
  | false =>
      obtain ⟨line, member, unwritten⟩ := List.all_eq_false.mp (lives.symm.trans alive)
      exact .inl ⟨line, member, by simpa [written] using unwritten⟩
  | true =>
      have ended := ended alive
      obtain ⟨observation, clock⟩ := event
      cases observation with
      | server event readings =>
          obtain ⟨-, world, -, -, same⟩ := observe_server_iff.mp observed
          rw [same] at ended
          exact absurd ended running
      | exporter event =>
          obtain ⟨exporter, stepped, -, same⟩ := observe_exporter_iff.mp observed
          rw [same] at ended
          obtain ⟨batch, rfl, serialising, unwritten⟩ :=
            serialising_of_terminated stepped running ended
          exact .inr ⟨batch, rfl, serialising, unwritten⟩

theorem throws_of_ended (taken : monitored codec what config state event = some (output, next))
    (ended : ¬ next.Running) : Throws codec ⟨state, event, output, next⟩ := by
  obtain ⟨running, -⟩ := Option.ite_none_right_eq_some.mp taken
  have died (alive : next.reported.alive = true) :
      next.reported.observed.exporter.stage = .terminated :=
    not_not.mp fun going => ended ⟨alive, going⟩
  cases moves_of_step taken with
  | beside _ there => exact ⟨_, rfl, throws_of_report there running.2 died⟩
  | tick _ there => exact ⟨_, rfl, throws_of_report there running.2 died⟩
  | offline _ there => exact ⟨_, rfl, throws_of_report there running.2 died⟩
  | _ => exact absurd running ended

theorem throws_of_run {first : Monitored}
    (run : Run (monitored codec what config) first trace state) (running : first.Running)
    (ended : ¬ state.Running) : ∃ turn ∈ trace, Throws codec turn := by
  cases run with
  | nil => exact absurd running ended
  | snoc _ taken =>
      exact ⟨_, List.mem_append_right _ (List.mem_singleton_self _), throws_of_ended taken ended⟩

/-- **`stop` returns**, or the process ends before. Once `stop` has set the flag, the steps of the
thread and its own lead to one of the two, whichever of them are taken, whatever the workers and the
exporter do in between, and without any time passing: a thread that waits is notified, one that is
in a tick finishes it. And the process ends only by an exception of `dump`, such as the one of the
line about a node whose id the tick cannot log. -/
theorem stop_returns (fresh : start.observed.world.stale = [])
    (run : Run (monitored codec what config) (.boot start) trace state)
    (stopping : state.owner = .notifying ∨ state.owner = .joining) :
    InevitablyBeside (monitored codec what config) Scheduled
      (fun later => later.owner = .outside ∨ ¬ later.Running) state ∧
    ∀ moves later, Run (monitored codec what config) state moves later → state.Running →
      ¬ later.Running → ∃ turn ∈ moves, Throws codec turn := by
  refine ⟨?_, fun moves later moved => throws_of_run moved⟩
  have sound := sound_of_run fresh run
  -- the flag is set, and the owner in the second half of `stop` or out of it
  let holds (state : Monitored) : Prop := Sound state ∧ state.stop = true ∧
    (state.owner = .notifying ∨ state.owner = .joining ∨ state.owner = .outside)
  have inside {state : Monitored} (before : holds state)
      (unmet : ¬ (state.owner = .outside ∨ ¬ state.Running)) :
      state.owner = .notifying ∨ state.owner = .joining :=
    before.2.2.imp_right fun later => later.resolve_right fun outside => unmet (.inl outside)
  have founded : WellFounded (Prod.Lex (· < ·) (· < ·) : Nat × Nat → Nat × Nat → Prop) :=
    (Prod.lex Nat.lt_wfRel Nat.lt_wfRel).wf
  refine .of_decreasing founded Monitored.rank holds ?_ ?_ ?_ ?_
    ⟨sound, sound.flagged stopping, stopping.imp_right .inl⟩
  · intro state before unmet
    have running : state.Running := not_not.mp fun ended => unmet (.inr ended)
    exact scheduled_possible before.1 running (inside before unmet)
  · intro state event output next taken before unmet
    refine ⟨sound_step taken before.1, (due_step taken before.2.1).1, ?_⟩
    have owner := before.2.2
    cases moves_of_step taken with
    | start outside _ => exact absurd (.inl outside) unmet
    | callStop outside => exact absurd (.inl outside) unmet
    | ownerLock locking _ => simp [locking] at owner
    | setStop setting => simp [setting] at owner
    | notifyWaiter _ _ => exact .inr (.inl rfl)
    | notifyNobody _ _ => exact .inr (.inl rfl)
    | join _ _ => exact .inr (.inr rfl)
    | _ => exact owner
  · intro state event output next scheduled taken before unmet
    exact rank_lowered taken scheduled before.2.1
  · intro state event output next aside taken before unmet
    exact .inl (rank_aside taken (inside before unmet) aside)

theorem stop_returns_due :
    InevitablyBeside (monitored Json.flatCodec quoting .default) Scheduled
      (fun later => later.owner = .outside ∨ ¬ later.Running)
      (execFinal (monitored Json.flatCodec quoting .default) (.boot .boot)
        (untilFlag ++ [.setStop])) := by
  have facts : (exec (monitored Json.flatCodec quoting .default) (.boot .boot)
        (untilFlag ++ [.setStop])).isSome = true ∧
      (execFinal (monitored Json.flatCodec quoting .default) (.boot .boot)
        (untilFlag ++ [.setStop])).owner = .notifying := by decide +kernel
  exact (stop_returns rfl (run_of_possible facts.1) (.inl facts.2)).1

/-! ### How often `tick` is called -/

/-- The event begins an interval: the thread is started, or a tick begins. -/
def RunEvent.marks : RunEvent → Bool
  | .start | .tick _ _ _ _ => true
  | _ => false

/-- The thread is not at a tick before the interval after `last` is over. -/
structure Due (config : ServerConfig) (last : Nat) (state : Monitored) : Prop where
  past : last ≤ state.steady
  testing : ∀ deadline, state.run = .testing deadline → last + interval config ≤ deadline
  waiting : ∀ deadline, state.run = .waiting deadline → last + interval config ≤ deadline
  released : ∀ deadline timedOut, state.run = .released deadline timedOut →
    last + interval config ≤ deadline ∧ (timedOut = true → deadline ≤ state.steady)
  woken : state.run = .woken → state.stop = true ∨ last + interval config ≤ state.steady
  unlocked : state.run = .unlocked → last + interval config ≤ state.steady

/-- At a place that says nothing about a deadline. -/
theorem Due.elsewhere {last : Nat} (past : last ≤ state.steady)
    (place : state.run = .entering ∨ state.run = .checking ∨ state.run = .sweeping ∨
      state.run = .relocking ∨ state.run = .returned) : Due config last state := by
  rcases place with here | here | here | here | here <;>
    exact ⟨past, by simp [here], by simp [here], by simp [here], by simp [here], by simp [here]⟩

/-- **No step brings a tick forward.** -/
theorem due_kept {last : Nat}
    (taken : monitored codec what config state event = some (output, next))
    (due : Due config last state) : Due config last next := by
  cases moves_of_step taken with
  | beside _ _ =>
      exact ⟨due.past, due.testing, due.waiting, due.released, due.woken, due.unlocked⟩
  | @pass elapsed =>
      have later : state.steady ≤ state.steady + elapsed := Nat.le_add_right _ _
      exact ⟨due.past.trans later, due.testing, due.waiting,
        fun deadline timedOut here =>
          (due.released deadline timedOut here).imp_right fun late out => (late out).trans later,
        fun here => (due.woken here).imp_right fun late => late.trans later,
        fun here => (due.unlocked here).trans later⟩
  | start _ _ => exact .elsewhere due.past (.inl rfl)
  | callStop _ =>
      exact ⟨due.past, due.testing, due.waiting, due.released, due.woken, due.unlocked⟩
  | ownerLock _ _ =>
      exact ⟨due.past, due.testing, due.waiting, due.released, due.woken, due.unlocked⟩
  | setStop _ =>
      exact ⟨due.past, due.testing, due.waiting, due.released, fun _ => .inl rfl, due.unlocked⟩
  | @notifyWaiter deadline _ waiting =>
      refine ⟨due.past, nofun, nofun, fun other timedOut here => ?_, nofun, nofun⟩
      cases here
      exact ⟨due.waiting deadline waiting, nofun⟩
  | notifyNobody _ _ =>
      exact ⟨due.past, due.testing, due.waiting, due.released, due.woken, due.unlocked⟩
  | join _ _ =>
      exact ⟨due.past, due.testing, due.waiting, due.released, due.woken, due.unlocked⟩
  | lock _ _ => exact .elsewhere due.past (.inr (.inl rfl))
  | @relock deadline _ released =>
      refine ⟨due.past, fun other here => ?_, nofun, nofun, nofun, nofun⟩
      cases here
      exact (due.released deadline false released).1
  | @relockLate deadline _ released =>
      obtain ⟨far, late⟩ := due.released deadline true released
      exact ⟨due.past, nofun, nofun, nofun, fun _ => .inr (far.trans (late rfl)), nofun⟩
  | check checking =>
      cases set : state.stop with
      | true => exact .elsewhere due.past (.inr (.inr (.inr (.inr rfl))))
      | false =>
          refine ⟨due.past, fun other here => ?_, nofun, nofun, nofun, nofun⟩
          cases here
          exact Nat.add_le_add_right due.past _
  | @test deadline testing =>
      cases set : state.stop with
      | true => exact ⟨due.past, nofun, nofun, nofun, fun _ => .inl rfl, nofun⟩
      | false =>
          refine ⟨due.past, nofun, fun other here => ?_, nofun, nofun, nofun⟩
          cases here
          exact due.testing deadline testing
  | @spurious deadline waiting =>
      refine ⟨due.past, nofun, nofun, fun other timedOut here => ?_, nofun, nofun⟩
      cases here
      exact ⟨due.waiting deadline waiting, nofun⟩
  | @timeout deadline waiting late =>
      refine ⟨due.past, nofun, nofun, fun other timedOut here => ?_, nofun, nofun⟩
      cases here
      exact ⟨due.waiting deadline waiting, fun _ => late⟩
  | decide woken =>
      cases set : state.stop with
      | true => exact .elsewhere due.past (.inr (.inl rfl))
      | false =>
          refine ⟨due.past, nofun, nofun, nofun, nofun, fun _ => ?_⟩
          rcases due.woken woken with stopped | late
          · rw [set] at stopped
            cases stopped
          · exact late
  | tick _ _ => exact .elsewhere due.past (.inr (.inr (.inl rfl)))
  | offline _ _ => exact .elsewhere due.past (.inr (.inr (.inl rfl)))
  | tickReturns _ _ => exact .elsewhere due.past (.inr (.inr (.inr (.inl rfl))))

/-- At its start, and where a tick begins, the thread has an interval before it. -/
theorem due_marked (taken : monitored codec what config state event = some (output, next))
    (marked : event.marks = true) : Due config state.steady next := by
  cases moves_of_step taken with
  | start _ _ => exact .elsewhere le_rfl (.inl rfl)
  | tick _ _ => exact .elsewhere le_rfl (.inr (.inr (.inl rfl)))
  | _ => cases marked

/-- **Ticks are an interval apart.** Between the start of the thread, or a tick, and any later tick
the steady clock has advanced by the interval, whatever woke the thread in between. -/
theorem ticks_spaced {earlier middle later : List MonitoredTurn} {first second : MonitoredTurn}
    (run : Run (monitored codec what config) (.boot start)
      (earlier ++ first :: (middle ++ second :: later)) state)
    (marked : first.event.marks = true) (begins : second.event.begins = true) :
    first.before.steady + interval config ≤ second.before.steady := by
  obtain ⟨-, beginning, rest⟩ := run.cut
  obtain ⟨between, tick, -⟩ := rest.cut
  have due : Due config first.before.steady second.before :=
    between.invariant (Due config first.before.steady) (due_marked beginning marked) due_kept
  obtain ⟨before, event, output, after⟩ := second
  change monitored codec what config before event = some (output, after) at tick
  cases moves_of_step tick with
  | tick unlocked _ => exact due.unlocked unlocked
  | _ => cases begins

theorem ticks_spaced_first :
    ∃ first second : MonitoredTurn, first.event = .start ∧ second.event.begins = true ∧
      first.before.steady + interval .default ≤ second.before.steady := by
  have possible : (exec (monitored Json.flatCodec quoting .default) (.boot .boot)
      (untilFlag ++ .tick 5 [] steadyReadings ⟨6, 7, 0⟩ :: [])).isSome = true := by decide +kernel
  obtain ⟨earlier, second, later, whole, before, tick, -⟩ :=
    execTrace_cut untilFlag (.tick 5 [] steadyReadings ⟨6, 7, 0⟩) [] possible
  obtain ⟨first, middle, rfl, started, -⟩ := List.map_eq_cons_iff.mp before
  have begins : second.event.begins = true := by rw [tick]; rfl
  have run : Run (monitored Json.flatCodec quoting .default) (.boot .boot)
      ([] ++ first :: (middle ++ second :: later)) _ := whole ▸ run_of_possible possible
  exact ⟨first, second, started, begins, ticks_spaced run (by rw [started]; rfl) begins⟩

end Runs

end ExodusOps.HeartbeatMonitor
