/-
**The shutdown watchdog.**

`ThreadPool`, as many of them as a process makes: the constructor that spawns the workers one by one
and may fail, the workers, and `shutdown`, called or from the destructor, which stops the queue,
sets off a watchdog, joins the workers and clears the list. The watchdog sleeps for fifteen seconds
and calls `std::_Exit`; it is detached and nothing disarms it. A process has a clock, and ends by
`std::terminate`, by a watchdog, or after `main` has returned and the static destructors have run,
during which the watchdogs are still there.

* `watchdog_of_run` — `shutdown` sets off one watchdog, however often it is called, and the watchdog
  remembers when.
* `tallied_of_run` — the workers spawned are those that have returned from `workerLoop` and those
  still in it.
* `watchdog_fires_on_stuck` — **a watchdog calls `_Exit` only while a worker is not joined** if,
  fifteen seconds after a `shutdown` began to wait for its workers, one of them has not returned or
  the process has ended.
* `exits_after_shutdown` — a process that goes on is ended, long after its only worker was joined.
-/

import ExodusOps.Lib.Descriptors
import ExodusOps.Lib.History
import ExodusOps.Lib.Machine
import Mathlib.Algebra.Group.Nat.Defs

namespace ExodusOps

namespace ThreadPool

/-! ### One pool -/

/-- `GRACEFUL_SHUTDOWN_TIMEOUT_SECS`, in nanoseconds. -/
def gracefulShutdownTimeout : Nat := 15 * 10 ^ 9

/-- Where a worker is. -/
inductive Thread where
  /-- In `dequeue`. -/
  | waiting
  /-- It has a connection. -/
  | serving
  /-- `workerLoop` has returned. -/
  | finished
  | joined
  deriving DecidableEq, Repr

/-- Where the object is. In `shutdown`, whether it was called by the destructor. -/
inductive Phase where
  /-- In the loop of the constructor. -/
  | spawning
  /-- A worker could not be spawned; the constructor joins the others. -/
  | failed
  /-- The constructor has thrown. -/
  | thrown
  | ready
  /-- `m_shutdown` is set, the queue is stopped next. -/
  | stopping (destructor : Bool)
  /-- The watchdog is created next. -/
  | arming (destructor : Bool)
  | joining (destructor : Bool)
  /-- `shutdown` has returned. -/
  | down
  /-- `shutdown` has thrown: there was no thread for the watchdog. -/
  | abandoned
  | destroyed
  deriving DecidableEq, Repr

structure Pool where
  /-- Which queue the pool was given. -/
  workQueue : Nat
  threadPoolSize : Nat
  workers : List Thread
  phase : Phase
  /-- When the watchdog fell asleep. It does not belong to the object and outlives it. -/
  watchdog : Option Nat
  deriving DecidableEq, Repr

inductive PoolEvent where
  /-- `emplace_back`, or `std::system_error`. -/
  | spawn (created : Bool)
  | constructed
  /-- `dequeue` returns to a worker. -/
  | dequeue (worker : Nat)
  /-- A worker is done with its connection. -/
  | served (worker : Nat)
  | shutdown
  | destroy
  /-- The steps of `shutdown`. -/
  | stop
  | arm (created : Bool)
  | join
  | leave
  /-- The watchdog has slept long enough. -/
  | expire
  deriving DecidableEq, Repr

/-- How a process ends. -/
inductive Ending where
  | returned
  | terminated
  /-- By the watchdog of a pool. -/
  | exited
  deriving DecidableEq, Repr

/-- What a step does outside the pool. -/
inductive Effect where
  | nothing
  | stopsQueue
  | ends (ending : Ending)
  deriving DecidableEq, Repr

/-- The next `join` returns. -/
def joinNext : List Thread → Option (List Thread)
  | .joined :: later => (joinNext later).map (.joined :: ·)
  | .finished :: later => some (.joined :: later)
  | _ => none

/-- **A step of a pool**, given whether its queue is stopped and the time. -/
def Pool.step (pool : Pool) (stopped : Bool) (now : Nat) : PoolEvent → Option (Effect × Pool)
  | .spawn created =>
      if pool.phase = .spawning ∧ pool.workers.length < pool.threadPoolSize then
        if created then some (.nothing, { pool with workers := pool.workers ++ [.waiting] })
        else some (.stopsQueue, { pool with phase := .failed })
      else none
  | .constructed =>
      if pool.phase = .spawning ∧ pool.workers.length = pool.threadPoolSize then
        some (.nothing, { pool with phase := .ready })
      else none
  | .dequeue worker =>
      if pool.workers[worker]? = some .waiting then
        some (.nothing, { pool with
          workers := pool.workers.set worker (if stopped then .finished else .serving) })
      else none
  | .served worker =>
      if pool.workers[worker]? = some .serving then
        some (.nothing, { pool with workers := pool.workers.set worker .waiting })
      else none
  | .shutdown =>
      match pool.phase with
      | .ready => some (.nothing, { pool with phase := .stopping false })
      -- `m_shutdown` is set
      | .stopping false | .arming false | .joining false | .down | .abandoned =>
          some (.nothing, pool)
      | _ => none
  | .destroy =>
      match pool.phase with
      | .ready => some (.nothing, { pool with phase := .stopping true })
      | .down => some (.nothing, { pool with phase := .destroyed })
      -- a thread that is joinable must not be destroyed
      | .abandoned =>
          if pool.workers = [] then some (.nothing, { pool with phase := .destroyed })
          else some (.ends .terminated, pool)
      | _ => none
  | .stop =>
      match pool.phase with
      | .stopping destructor => some (.stopsQueue, { pool with phase := .arming destructor })
      | _ => none
  | .arm created =>
      match pool.phase with
      | .arming destructor =>
          if created then
            some (.nothing, { pool with phase := .joining destructor, watchdog := some now })
          -- an exception does not leave a destructor
          else if destructor then some (.ends .terminated, pool)
          else some (.nothing, { pool with phase := .abandoned })
      | _ => none
  | .join =>
      match pool.phase with
      | .failed | .joining _ =>
          (joinNext pool.workers).map fun workers => (.nothing, { pool with workers := workers })
      | _ => none
  | .leave =>
      if pool.workers.all (· = .joined) then
        match pool.phase with
        | .failed => some (.nothing, { pool with workers := [], phase := .thrown })
        | .joining destructor => some (.nothing, { pool with
            workers := [], phase := if destructor then .destroyed else .down })
        | _ => none
      else none
  | .expire =>
      match pool.watchdog with
      | some start =>
          if start + gracefulShutdownTimeout ≤ now then some (.ends .exited, pool) else none
      | none => none

/-- **What a step of a pool does.** -/
inductive PoolMoves (pool : Pool) (stopped : Bool) (now : Nat) :
    PoolEvent → Effect → Pool → Prop where
  | spawn : pool.phase = .spawning → PoolMoves pool stopped now (.spawn true) .nothing
      { pool with workers := pool.workers ++ [.waiting] }
  | spawnFails : pool.phase = .spawning →
      PoolMoves pool stopped now (.spawn false) .stopsQueue { pool with phase := .failed }
  | constructed : pool.phase = .spawning →
      PoolMoves pool stopped now .constructed .nothing { pool with phase := .ready }
  | dequeue {worker : Nat} : pool.workers[worker]? = some .waiting →
      PoolMoves pool stopped now (.dequeue worker) .nothing { pool with
        workers := pool.workers.set worker (if stopped then .finished else .serving) }
  | served {worker : Nat} : pool.workers[worker]? = some .serving →
      PoolMoves pool stopped now (.served worker) .nothing
        { pool with workers := pool.workers.set worker .waiting }
  | shutdown : pool.phase = .ready →
      PoolMoves pool stopped now .shutdown .nothing { pool with phase := .stopping false }
  | shutdownAgain : PoolMoves pool stopped now .shutdown .nothing pool
  | destroy : pool.phase = .ready →
      PoolMoves pool stopped now .destroy .nothing { pool with phase := .stopping true }
  | destroyed : pool.workers = [] ∨ pool.phase = .down →
      PoolMoves pool stopped now .destroy .nothing { pool with phase := .destroyed }
  | destroyFails : PoolMoves pool stopped now .destroy (.ends .terminated) pool
  | stop {destructor : Bool} : pool.phase = .stopping destructor →
      PoolMoves pool stopped now .stop .stopsQueue { pool with phase := .arming destructor }
  | arm {destructor : Bool} : pool.phase = .arming destructor →
      PoolMoves pool stopped now (.arm true) .nothing
        { pool with phase := .joining destructor, watchdog := some now }
  | armFails : pool.phase = .arming false →
      PoolMoves pool stopped now (.arm false) .nothing { pool with phase := .abandoned }
  | armTerminates : PoolMoves pool stopped now (.arm false) (.ends .terminated) pool
  | join {workers : List Thread} : joinNext pool.workers = some workers →
      PoolMoves pool stopped now .join .nothing { pool with workers := workers }
  | leave {destructor : Bool} : (∀ worker ∈ pool.workers, worker = .joined) →
      pool.phase = .joining destructor → PoolMoves pool stopped now .leave .nothing
        { pool with workers := [], phase := if destructor then .destroyed else .down }
  | leaveFailed : (∀ worker ∈ pool.workers, worker = .joined) → pool.phase = .failed →
      PoolMoves pool stopped now .leave .nothing { pool with workers := [], phase := .thrown }
  | expire {start : Nat} : pool.watchdog = some start → start + gracefulShutdownTimeout ≤ now →
      PoolMoves pool stopped now .expire (.ends .exited) pool

/-- **Inversion of a step of a pool.** -/
theorem moves_of_step {pool moved : Pool} {stopped : Bool} {now : Nat} {event : PoolEvent}
    {effect : Effect} (taken : pool.step stopped now event = some (effect, moved)) :
    PoolMoves pool stopped now event effect moved := by
  cases event with
  | spawn created =>
      simp only [Pool.step] at taken
      split at taken
      · rename_i here
        cases created <;> cases taken
        · exact .spawnFails here.1
        · exact .spawn here.1
      · cases taken
  | constructed =>
      simp only [Pool.step] at taken
      split_ifs at taken with here
      cases taken
      exact .constructed here.1
  | dequeue worker =>
      simp only [Pool.step] at taken
      split at taken <;> cases taken
      exact .dequeue (by assumption)
  | served worker =>
      simp only [Pool.step] at taken
      split at taken <;> cases taken
      exact .served (by assumption)
  | shutdown =>
      simp only [Pool.step] at taken
      split at taken <;> cases taken
      · exact .shutdown (by assumption)
      all_goals exact .shutdownAgain
  | destroy =>
      simp only [Pool.step] at taken
      split at taken
      · cases taken
        exact .destroy (by assumption)
      · cases taken
        exact .destroyed (.inr (by assumption))
      · split_ifs at taken with none <;> cases taken
        · exact .destroyed (.inl none)
        · exact .destroyFails
      · cases taken
  | stop =>
      simp only [Pool.step] at taken
      split at taken <;> cases taken
      exact .stop (by assumption)
  | arm created =>
      simp only [Pool.step] at taken
      split at taken
      · rename_i destructor here
        cases created with
        | true =>
            cases taken
            exact .arm here
        | false =>
            cases destructor <;> cases taken
            · exact .armFails here
            · exact .armTerminates
      · cases taken
  | join =>
      simp only [Pool.step] at taken
      split at taken
      · obtain ⟨workers, next, same⟩ := Option.map_eq_some_iff.mp taken
        cases same
        exact .join next
      · obtain ⟨workers, next, same⟩ := Option.map_eq_some_iff.mp taken
        cases same
        exact .join next
      · cases taken
  | leave =>
      simp only [Pool.step] at taken
      split_ifs at taken with all
      have joined : ∀ worker ∈ pool.workers, worker = .joined := by simpa using all
      split at taken <;> cases taken
      · exact .leaveFailed joined (by assumption)
      · exact .leave joined (by assumption)
  | expire =>
      simp only [Pool.step] at taken
      split at taken
      · split_ifs at taken with due
        cases taken
        exact .expire (by assumption) due
      · cases taken

/-! ### The process -/

structure Process where
  pools : List Pool
  /-- The queues that are stopped. -/
  stopped : List Nat
  /-- The steady clock, in nanoseconds. -/
  now : Nat
  /-- `main` has returned, and the static destructors run. -/
  returning : Bool
  ended : Option Ending

def Process.boot : Process := ⟨[], [], 0, false, none⟩

inductive ProcessEvent where
  | construct (workQueue threadPoolSize : Nat)
  | pool (index : Nat) (event : PoolEvent)
  /-- `WorkQueue::stop`, called by somebody else. -/
  | stopQueue (workQueue : Nat)
  /-- Time goes by, and with it whatever else the program does. -/
  | pass (delay : Nat)
  /-- `main` returns. -/
  | main
  /-- The static destructors have run. -/
  | exit
  /-- An exception nobody catches. -/
  | terminate
  deriving DecidableEq, Repr

/-- What a step of a pool does to the process. -/
def Process.after (state : Process) (workQueue : Nat) : Effect → Process
  | .nothing => state
  | .stopsQueue => { state with stopped := workQueue :: state.stopped }
  | .ends ending => { state with ended := some ending }

/-- **One step of the process**, while it runs. -/
def process (state : Process) (event : ProcessEvent) : Option (Effect × Process) :=
  if state.ended.isSome then none
  else
    match event with
    | .construct workQueue threadPoolSize => some (.nothing, { state with
        pools := state.pools ++ [⟨workQueue, threadPoolSize, [], .spawning, none⟩] })
    | .pool index event => do
        let pool ← state.pools[index]?
        let (effect, moved) ← pool.step (state.stopped.contains pool.workQueue) state.now event
        return (effect, { state with pools := state.pools.set index moved }.after pool.workQueue
          effect)
    | .stopQueue workQueue => some (.stopsQueue, state.after workQueue .stopsQueue)
    | .pass delay => some (.nothing, { state with now := state.now + delay })
    | .main =>
        if state.returning then none else some (.nothing, { state with returning := true })
    | .exit =>
        if state.returning then some (.ends .returned, { state with ended := some .returned })
        else none
    | .terminate => some (.ends .terminated, { state with ended := some .terminated })

/-- **What a step does.** -/
inductive Steps (state : Process) : ProcessEvent → Effect → Process → Prop where
  | construct (workQueue threadPoolSize : Nat) :
      Steps state (.construct workQueue threadPoolSize) .nothing { state with
        pools := state.pools ++ [⟨workQueue, threadPoolSize, [], .spawning, none⟩] }
  | pool {index : Nat} {event : PoolEvent} {pool moved : Pool} {effect : Effect} :
      state.pools[index]? = some pool →
        pool.step (state.stopped.contains pool.workQueue) state.now event = some (effect, moved) →
          Steps state (.pool index event) effect
            ({ state with pools := state.pools.set index moved }.after pool.workQueue effect)
  | stopQueue (workQueue : Nat) :
      Steps state (.stopQueue workQueue) .stopsQueue (state.after workQueue .stopsQueue)
  | pass (delay : Nat) :
      Steps state (.pass delay) .nothing { state with now := state.now + delay }
  | main : Steps state .main .nothing { state with returning := true }
  | exit : Steps state .exit (.ends .returned) { state with ended := some .returned }
  | terminate :
      Steps state .terminate (.ends .terminated) { state with ended := some .terminated }

section Steps

variable {state next : Process} {event : ProcessEvent} {effect : Effect}

/-- **Inversion of a step.** -/
theorem steps_of_process (taken : process state event = some (effect, next)) :
    state.ended = none ∧ Steps state event effect next := by
  unfold process at taken
  obtain ⟨ended, taken⟩ := Option.ite_none_left_eq_some.mp taken
  refine ⟨Option.not_isSome_iff_eq_none.mp ended, ?_⟩
  cases event with
  | construct workQueue threadPoolSize =>
      cases taken
      exact .construct workQueue threadPoolSize
  | pool index event =>
      obtain ⟨pool, found, rest⟩ := Option.bind_eq_some_iff.mp taken
      obtain ⟨_, moved, same⟩ := Option.bind_eq_some_iff.mp rest
      cases same
      exact .pool found moved
  | stopQueue workQueue =>
      cases taken
      exact .stopQueue workQueue
  | pass delay =>
      cases taken
      exact .pass delay
  | main =>
      obtain ⟨_, same⟩ := Option.ite_none_left_eq_some.mp taken
      cases same
      exact .main
  | exit =>
      obtain ⟨_, same⟩ := Option.ite_none_right_eq_some.mp taken
      cases same
      exact .exit
  | terminate =>
      cases taken
      exact .terminate

@[simp] theorem after_pools (state : Process) (workQueue : Nat) (effect : Effect) :
    (state.after workQueue effect).pools = state.pools := by
  cases effect <;> rfl

end Steps

/-! ### The watchdogs of a run -/

/-- `shutdown` has set off the watchdog and `m_shutdown` keeps it from doing so again. -/
def Phase.guarded : Phase → Bool
  | .joining _ | .down | .destroyed => true
  | _ => false

/-- **What a step does about the watchdog.** -/
theorem PoolMoves.watchdog {pool moved : Pool} {stopped : Bool} {now : Nat} {event : PoolEvent}
    {effect : Effect} (moves : PoolMoves pool stopped now event effect moved) :
    (event ≠ .arm true ∧ moved.watchdog = pool.watchdog ∧
      (pool.phase.guarded = true → moved.phase.guarded = true)) ∨
    (event = .arm true ∧ pool.phase.guarded = false ∧ moved.watchdog = some now ∧
      moved.phase.guarded = true) := by
  cases moves with
  | arm here => exact .inr ⟨rfl, by rw [here]; rfl, rfl, rfl⟩
  | spawnFails here | constructed here | shutdown here | destroy here | stop here | armFails here
  | leaveFailed _ here => exact .inl ⟨nofun, rfl, by rw [here]; nofun⟩
  | @leave destructor _ _ => exact .inl ⟨nofun, rfl, fun _ => by cases destructor <;> rfl⟩
  | destroyed here => exact .inl ⟨nofun, rfl, fun _ => rfl⟩
  | _ => exact .inl ⟨nofun, rfl, id⟩

abbrev ProcessTurn := Transition Process ProcessEvent Effect

/-- When a step sets off the watchdog of a pool. -/
def armedBy (index : Nat) (turn : ProcessTurn) : Option Nat :=
  if turn.event = .pool index (.arm true) then some turn.before.now else none

/-- **What a step does to the pool at an index**, and when it sets off its watchdog. -/
inductive Touches (now : Nat) : Option Pool → Option Pool → Option Nat → Prop where
  | keeps {pool : Option Pool} : Touches now pool pool none
  | makes {pool : Pool} : pool.watchdog = none → Touches now none (some pool) none
  | moves {pool moved : Pool} : moved.watchdog = pool.watchdog →
      (pool.phase.guarded = true → moved.phase.guarded = true) →
        Touches now (some pool) (some moved) none
  | arms {pool moved : Pool} : pool.phase.guarded = false → moved.watchdog = some now →
      moved.phase.guarded = true → Touches now (some pool) (some moved) (some now)

theorem Steps.touches {state next : Process} {event : ProcessEvent} {effect : Effect}
    (steps : Steps state event effect next) (index : Nat) :
    Touches state.now state.pools[index]? next.pools[index]?
      (armedBy index ⟨state, event, effect, next⟩) := by
  cases steps with
  | construct workQueue threadPoolSize =>
      rcases Nat.lt_trichotomy index state.pools.length with inside | rfl | outside
      · rw [List.getElem?_append_left inside]
        exact .keeps
      · rw [List.getElem?_eq_none (Nat.le_refl _), List.getElem?_concat_length]
        exact .makes rfl
      · rw [List.getElem?_eq_none (Nat.le_of_lt outside),
          List.getElem?_eq_none (by simp; omega)]
        exact .keeps
  | @pool at_ event pool moved _ found taken =>
      rw [after_pools]
      by_cases same : at_ = index
      · subst same
        obtain ⟨inside, _⟩ := List.getElem?_eq_some_iff.mp found
        rw [found, List.getElem?_set_self inside]
        rcases (moves_of_step taken).watchdog with
          ⟨other, watchdog, phase⟩ | ⟨rfl, early, watchdog, late⟩
        · rw [armedBy, if_neg fun same => other (ProcessEvent.pool.inj same).2]
          exact .moves watchdog phase
        · rw [armedBy, if_pos rfl]
          exact .arms early watchdog late
      · rw [List.getElem?_set_ne same, armedBy,
          if_neg fun other => same (ProcessEvent.pool.inj other).1]
        exact .keeps
  | _ => exact .keeps

/-- When the watchdog of a pool was set off. -/
def Process.watchdog (state : Process) (index : Nat) : Option Nat :=
  state.pools[index]?.bind Pool.watchdog

/-- A pool has been given one watchdog if `shutdown` has come that far, and none before. -/
structure Watched (pool : Option Pool) (armed : List Nat) : Prop where
  once : (pool.bind Pool.watchdog).toList = armed
  guarded : ∀ one, pool = some one → one.watchdog ≠ none → one.phase.guarded = true

theorem Watched.step {now : Nat} {pool moved : Option Pool} {armed : List Nat} {arms : Option Nat}
    (watched : Watched pool armed) (touches : Touches now pool moved arms) :
    Watched moved (armed ++ arms.toList) := by
  cases touches with
  | keeps => exact (List.append_nil armed).symm ▸ watched
  | makes unarmed =>
      refine ⟨?_, ?_⟩
      · rw [← watched.once, Option.bind_some, unarmed]
        rfl
      · rintro one same armed
        cases same
        exact absurd unarmed armed
  | moves watchdog phase =>
      refine ⟨?_, ?_⟩
      · rw [← watched.once, Option.bind_some, Option.bind_some, watchdog]
        exact (List.append_nil _).symm
      · rintro one same armed
        cases same
        rw [watchdog] at armed
        exact phase (watched.guarded _ rfl armed)
  | @arms pool moved early watchdog late =>
      -- the pool has none yet, since it could not have come this far a second time
      have unarmed : pool.watchdog = none := by
        by_contra armed
        exact absurd (watched.guarded _ rfl armed) (by rw [early]; decide)
      refine ⟨?_, ?_⟩
      · rw [← watched.once, Option.bind_some, Option.bind_some, unarmed, watchdog]
        rfl
      · rintro one same _
        cases same
        exact late

/-- **`shutdown` sets off one watchdog**, and it is the one the pool has. -/
theorem watchdog_of_run {trace : List ProcessTurn} {state : Process}
    (run : Run process .boot trace state) (index : Nat) :
    (state.watchdog index).toList = trace.filterMap (armedBy index) := by
  suffices watched : Watched state.pools[index]? (trace.filterMap (armedBy index)) from watched.once
  induction run with
  | nil => exact ⟨rfl, nofun⟩
  | snoc _ taken ih =>
      rw [filterMap_concat]
      exact ih.step ((steps_of_process taken).2.touches index)

/-! ### Which workers have returned -/

/-- The thread is in `workerLoop`. -/
def Thread.loops : Thread → Bool
  | .waiting | .serving => true
  | .finished | .joined => false

/-- How many workers of a pool are in `workerLoop`. -/
def looping (pool : Option Pool) : Nat :=
  (pool.map fun one => one.workers.countP Thread.loops).getD 0

/-- The constructor of the pool spawns a worker. -/
def spawns (index : Nat) (turn : ProcessTurn) : Bool := turn.event = .pool index (.spawn true)

/-- The step that has left the pool like this was the last of a `workerLoop`. -/
def Pool.returnedBy (pool : Pool) : PoolEvent → Bool
  | .dequeue worker => pool.workers[worker]? = some .finished
  | _ => false

/-- `workerLoop` returns in a worker of the pool. -/
def returns (index : Nat) (turn : ProcessTurn) : Bool :=
  match turn.event with
  | .pool here event => here = index && turn.after.pools[index]?.any (·.returnedBy event)
  | _ => false

theorem joinNext_loops {workers joined : List Thread} (next : joinNext workers = some joined) :
    joined.countP Thread.loops = workers.countP Thread.loops := by
  fun_induction joinNext workers generalizing joined with
  | case1 later ih =>
      obtain ⟨rest, found, rfl⟩ := Option.map_eq_some_iff.mp next
      rw [List.countP_cons, List.countP_cons, ih found]
  | case2 later =>
      cases next
      rw [List.countP_cons, List.countP_cons]
      rfl
  | case3 => cases next

/-- **What a step of a pool does to the number of its workers in the loop.** -/
theorem PoolMoves.looping {pool moved : Pool} {stopped : Bool} {now : Nat} {event : PoolEvent}
    {effect : Effect} (moves : PoolMoves pool stopped now event effect moved) :
    moved.workers.countP Thread.loops + (moved.returnedBy event).toNat =
      pool.workers.countP Thread.loops + (decide (event = .spawn true)).toNat := by
  cases moves with
  | spawn _ => simp [Thread.loops, Pool.returnedBy]
  | @dequeue worker found =>
      have counted := countP_set_add Thread.loops found (if stopped then .finished else .serving)
      obtain ⟨inside, _⟩ := List.getElem?_eq_some_iff.mp found
      rw [Pool.returnedBy, List.getElem?_set_self inside]
      cases stopped
      · simpa [Thread.loops] using counted
      · simpa [Thread.loops] using counted
  | served found => exact Nat.add_right_cancel (countP_set_add Thread.loops found .waiting)
  | join next => exact joinNext_loops next
  | leave joined _ | leaveFailed joined _ =>
      have none : pool.workers.countP Thread.loops = 0 := by
        rw [List.countP_eq_zero]
        intro worker member
        rw [joined worker member]
        nofun
      rw [none]
      rfl
  | _ => rfl

theorem Steps.looping {state next : Process} {event : ProcessEvent} {effect : Effect}
    (steps : Steps state event effect next) (index : Nat) :
    looping next.pools[index]? + (returns index ⟨state, event, effect, next⟩).toNat =
      looping state.pools[index]? + (spawns index ⟨state, event, effect, next⟩).toNat := by
  cases steps with
  | construct workQueue threadPoolSize =>
      rcases Nat.lt_trichotomy index state.pools.length with inside | rfl | outside
      · rw [List.getElem?_append_left inside]
        rfl
      · rw [List.getElem?_eq_none (Nat.le_refl _), List.getElem?_concat_length]
        rfl
      · rw [List.getElem?_eq_none (Nat.le_of_lt outside),
          List.getElem?_eq_none (by simp; omega)]
        rfl
  | @pool here event pool moved _ found taken =>
      by_cases same : here = index
      · subst same
        obtain ⟨inside, _⟩ := List.getElem?_eq_some_iff.mp found
        simpa [ThreadPool.looping, returns, spawns, found, List.getElem?_set_self inside] using
          (moves_of_step taken).looping
      · simp [returns, spawns, same, List.getElem?_set_ne same]
  | _ => rfl

/-- **The workers spawned** are those that have returned and those in the loop. -/
theorem tallied_of_run {trace : List ProcessTurn} {state : Process}
    (run : Run process .boot trace state) (index : Nat) :
    looping state.pools[index]? + trace.countP (returns index) = trace.countP (spawns index) := by
  induction run with
  | nil => rfl
  | snoc _ taken ih =>
      have step := (steps_of_process taken).2.looping index
      have last (counts : ProcessTurn → Bool) (turn : ProcessTurn) :
          [turn].countP counts = (counts turn).toNat := by
        rw [List.countP_singleton]
        cases counts turn <;> rfl
      rw [List.countP_append, List.countP_append, last, last]
      omega

/-! ### When it fires -/

/-- The workers of a pool that are not joined. -/
def Process.unjoined (state : Process) (index : Nat) : List Thread :=
  match state.pools[index]? with
  | some pool => pool.workers.filter (· ≠ .joined)
  | none => []

/-- A worker is not joined. -/
def Process.Stuck (state : Process) (index : Nat) : Prop := state.unjoined index ≠ []

theorem stuck_of_looping {state : Process} {index : Nat}
    (some : 0 < looping state.pools[index]?) : state.Stuck index := by
  rw [Process.Stuck, Process.unjoined]
  cases found : state.pools[index]? with
  | none =>
      rw [found] at some
      cases some
  | some pool =>
      rw [found] at some
      obtain ⟨worker, member, loops⟩ := List.countP_pos_iff.mp some
      refine List.ne_nil_of_mem (List.mem_filter.mpr ⟨member, ?_⟩)
      cases worker with
      | waiting | serving => rfl
      | finished | joined => cases loops

/-- A watchdog can call `_Exit` when it has slept long enough, and asks for nothing else. -/
theorem expire_possible_iff (state : Process) (index : Nat) :
    (process state (.pool index .expire)).isSome = true ↔
      state.ended = none ∧ ∃ start ∈ state.watchdog index,
        start + gracefulShutdownTimeout ≤ state.now := by
  rw [Process.watchdog]
  cases ended : state.ended with
  | some ending => simp [process, ended]
  | none =>
      cases found : state.pools[index]? with
      | none => simp [process, ended, found]
      | some pool =>
          cases armed : pool.watchdog with
          | none => simp [process, ended, found, Pool.step, armed]
          | some start =>
              by_cases due : start + gracefulShutdownTimeout ≤ state.now <;>
                simp [process, ended, found, Pool.step, armed, due]

/-- **In time.** Fifteen seconds after a `shutdown` has set off the watchdog of its pool, some
worker of the pool has not returned from `workerLoop`, or the process has ended. -/
def InTime (trace : List ProcessTurn) (state : Process) : Prop :=
  ∀ index < state.pools.length, ∀ start ∈ trace.filterMap (armedBy index),
    start + gracefulShutdownTimeout ≤ state.now → state.ended = none →
      trace.countP (returns index) < trace.countP (spawns index)

instance (trace : List ProcessTurn) (state : Process) : Decidable (InTime trace state) :=
  inferInstanceAs (Decidable (∀ index < state.pools.length, _))

section Result

variable {trace : List ProcessTurn} {finish : Process}

theorem InTime.stuck (run : Run process .boot trace finish) (inTime : InTime trace finish)
    {index : Nat} (fires : (process finish (.pool index .expire)).isSome = true) :
    finish.Stuck index := by
  obtain ⟨running, start, armed, due⟩ := (expire_possible_iff finish index).mp fires
  have inside : index < finish.pools.length := by
    obtain ⟨pool, found, _⟩ := Option.bind_eq_some_iff.mp armed
    exact (List.getElem?_eq_some_iff.mp found).1
  have member : start ∈ trace.filterMap (armedBy index) := by
    rw [← watchdog_of_run run index]
    exact Option.mem_toList.mpr armed
  have fewer := inTime index inside start member due running
  have tallied := tallied_of_run run index
  exact stuck_of_looping (by omega)

/-- **A watchdog fires only on a stuck worker, in a process that ends in time.** In every run of any
number of pools, in every order of their steps: if fifteen seconds after a `shutdown` has set off
its watchdog a worker of the pool has not returned or the process has ended, then a watchdog can
call `_Exit` only while a worker of its pool is not joined; and if that was so at every step, it has
called it only then. -/
theorem watchdog_fires_on_stuck (run : Run process .boot trace finish) :
    (InTime trace finish → ∀ index, (process finish (.pool index .expire)).isSome = true →
      finish.Stuck index) ∧
    (EveryStep (fun earlier turn => InTime earlier turn.before) [] trace →
      ∀ turn ∈ trace, ∀ index, turn.event = .pool index .expire → turn.before.Stuck index) := by
  refine ⟨fun inTime index => inTime.stuck run, ?_⟩
  intro inTime turn member index fires
  obtain ⟨earlier, later, rfl⟩ := List.append_of_mem member
  obtain ⟨before, taken, _⟩ := run.cut
  rw [fires] at taken
  refine InTime.stuck before (everyStep_cut inTime) ?_
  rw [taken]
  rfl

end Result

/-- A pool with one worker, and `shutdown` up to the joins. -/
def shutdownOne : List ProcessEvent :=
  [.construct 0 1, .pool 0 (.spawn true), .pool 0 .constructed, .pool 0 (.dequeue 0),
    .pool 0 .shutdown, .pool 0 .stop, .pool 0 (.arm true)]

/-- The worker does not come back, and fifteen seconds later, when `main` has returned, the watchdog
ends the process. -/
theorem watchdog_fires_on_stuck_serving :
    ∃ trace finish, Run process .boot trace finish ∧
      trace.map Transition.event =
        shutdownOne ++ [.main, .pass (15 * 10 ^ 9), .pool 0 .expire] ∧
      ∀ turn ∈ trace, turn.event = .pool 0 .expire → turn.before.Stuck 0 := by
  let events := shutdownOne ++ [.main, .pass (15 * 10 ^ 9), .pool 0 .expire]
  let trace := execTrace process .boot events
  have facts : (exec process .boot events).isSome = true ∧
      trace.map Transition.event = events ∧
      EveryStep (fun earlier turn => InTime earlier turn.before) [] trace := by
    decide +kernel
  obtain ⟨possible, same, inTime⟩ := facts
  have run := run_of_possible possible
  have stuck := (watchdog_fires_on_stuck run).2 inTime
  exact ⟨trace, _, run, same, fun turn member => stuck turn member 0⟩

/-- **A process that goes on is ended**, fifteen seconds after a `shutdown` that has returned. -/
theorem exits_after_shutdown :
    ∃ trace finish, Run process .boot trace finish ∧
      trace.map Transition.event = shutdownOne ++ [.pool 0 (.served 0), .pool 0 (.dequeue 0),
        .pool 0 .join, .pool 0 .leave, .pass (15 * 10 ^ 9), .pool 0 .expire] ∧
      finish.ended = some .exited ∧
      ∃ turn ∈ trace, turn.event = .pool 0 .expire ∧ ¬ turn.before.Stuck 0 ∧
        turn.before.pools.map Pool.phase = [.down] := by
  let events := shutdownOne ++ [.pool 0 (.served 0), .pool 0 (.dequeue 0), .pool 0 .join,
    .pool 0 .leave, .pass (15 * 10 ^ 9), .pool 0 .expire]
  have facts : (exec process .boot events).isSome = true ∧
      (execTrace process .boot events).map Transition.event = events ∧
      (execFinal process .boot events).ended = some .exited ∧
      ∃ turn ∈ execTrace process .boot events, turn.event = .pool 0 .expire ∧
        ¬ turn.before.unjoined 0 ≠ [] ∧ turn.before.pools.map Pool.phase = [.down] := by
    decide +kernel
  exact ⟨_, _, run_of_possible facts.1, facts.2⟩

end ThreadPool

end ExodusOps
