/-
**A mutex and a condition variable.**

Any number of threads call operations whose critical sections are run under one mutex. A critical
section finds out that it has to wait, goes on, or leaves the mutex, with a notification to make
after it or without. A thread that waits is un-notified until it is released: by `notify_one`, which
releases one waiter if there is any, by `notify_all`, or for no reason. It then takes the mutex
again and runs its critical section from the start. A step is one access to what the threads share,
so the runs of `Monitor.step` are all interleavings.

* `Monitor.Moves` — what each step does; `Monitor.moves_of_step` is the inversion of the step.
* `Monitor.exclusive` — mutual exclusion.
* `Monitor.PlaceInvariant.of_run` — the rule for what is true of every thread by itself.
* `Monitor.Covered` — **the rule.** `need` says how many waiters the shared state has work for. It
  is enough that a critical section waits only when there is none, and that one that adds to the
  need notifies for what it adds, while one that has been woken may also take the place it was woken
  for.
* `Monitor.need_le` — **no lost wakeup**: then, as long as a thread waits un-notified, the need is
  at most what is on its way: the threads that are released and have not run, and the notifications
  that have yet to be made.
-/

import ExodusOps.Lib.Machine
import Mathlib.Algebra.BigOperators.Group.Finset.Basic
import Mathlib.Data.ENat.BigOperators
import Mathlib.Data.Fintype.BigOperators

namespace ExodusOps

inductive Notify where
  | one
  | all
  deriving DecidableEq, Repr

/-- What the critical section of a call does. -/
inductive Outcome (σ κ ο : Type) where
  /-- The condition does not hold: the thread waits, and the mutex is free. -/
  | waits
  /-- It goes on, under the mutex. -/
  | continues (shared : σ) (call : κ) (output : ο)
  /-- It is done, and owes a notification or none. -/
  | leaves (shared : σ) (owed : Option Notify) (output : ο)

/-- The calls a thread can make, and what their critical sections do. -/
structure Monitor (σ κ ο : Type) where
  entry : κ → Bool
  body : σ → κ → Outcome σ κ ο

/-- Where a thread is. -/
inductive Place (κ : Type) where
  | idle
  /-- Before the mutex. -/
  | entering (call : κ)
  /-- In its critical section, which it is about to run; `woken` if it waited before. -/
  | inside (call : κ) (woken : Bool)
  /-- Through with its critical section, the mutex still taken. -/
  | leaving (owed : Option Notify)
  | notifying (owed : Notify)
  /-- On the condition variable, un-notified. -/
  | waiting (call : κ)
  /-- Released, and before the mutex again. -/
  | released (call : κ)
  deriving DecidableEq, Repr

namespace Place

variable {κ : Type}

/-- It has the mutex. -/
def holds : Place κ → Bool
  | .inside _ _ | .leaving _ => true
  | _ => false

/-- It waits un-notified. -/
def waits : Place κ → Bool
  | .waiting _ => true
  | _ => false

/-- It has been released and has not run its critical section since. -/
def awake : Place κ → Bool
  | .released _ | .inside _ true => true
  | _ => false

/-- The call it is in, up to the end of its critical section. -/
def call : Place κ → Option κ
  | .entering call | .inside call _ | .waiting call | .released call => some call
  | _ => none

/-- The notification it has yet to make; `commits` are the calls that cannot do without one. -/
def owed (commits : κ → Option Notify) : Place κ → Option Notify
  | .leaving owed => owed
  | .notifying owed => some owed
  | place => place.call.bind commits

end Place

structure MonitorState (τ σ κ : Type) where
  shared : σ
  places : τ → Place κ

inductive MonitorEvent (τ κ : Type) where
  | call (thread : τ) (call : κ)
  /-- It takes the mutex, for the first time or again. -/
  | lock (thread : τ)
  /-- It runs its critical section, or a part of it. -/
  | body (thread : τ)
  | unlock (thread : τ)
  /-- It notifies; `target` is the waiter `notify_one` releases. -/
  | notify (thread : τ) (target : Option τ)
  /-- A waiter wakes up for no reason. -/
  | spurious (thread : τ)
  deriving DecidableEq, Repr

/-- Every thread outside. -/
def MonitorState.start (τ : Type) {σ : Type} (κ : Type) (shared : σ) : MonitorState τ σ κ :=
  ⟨shared, fun _ => .idle⟩

section Step

variable {τ σ κ ο : Type} [DecidableEq τ]

/-- A thread moves. -/
def MonitorState.put (state : MonitorState τ σ κ) (thread : τ) (place : Place κ) :
    MonitorState τ σ κ :=
  { state with places := Function.update state.places thread place }

@[simp] theorem MonitorState.put_shared (state : MonitorState τ σ κ) (thread : τ)
    (place : Place κ) : (state.put thread place).shared = state.shared := rfl

@[simp] theorem MonitorState.put_places_self (state : MonitorState τ σ κ) (thread : τ)
    (place : Place κ) : (state.put thread place).places thread = place :=
  Function.update_self _ _ _

theorem MonitorState.put_places_ne (state : MonitorState τ σ κ) {thread other : τ}
    (different : other ≠ thread) (place : Place κ) :
    (state.put thread place).places other = state.places other :=
  Function.update_of_ne different _ _

/-- Every waiter is released. -/
def Place.notified {κ : Type} : Place κ → Place κ
  | .waiting call => .released call
  | place => place

variable [Fintype τ] (M : Monitor σ κ ο)

/-- A step of a thread. -/
def Monitor.step (state : MonitorState τ σ κ) :
    MonitorEvent τ κ → Option (Option ο × MonitorState τ σ κ)
  | .call thread call =>
      match state.places thread with
      | .idle => if M.entry call then some (none, state.put thread (.entering call)) else none
      | _ => none
  | .lock thread =>
      if ∃ other, (state.places other).holds = true then none
      else
        match state.places thread with
        | .entering call => some (none, state.put thread (.inside call false))
        | .released call => some (none, state.put thread (.inside call true))
        | _ => none
  | .body thread =>
      match state.places thread with
      | .inside call woken =>
          match M.body state.shared call with
          | .waits => some (none, state.put thread (.waiting call))
          | .continues shared call output =>
              some (some output, { state with shared }.put thread (.inside call woken))
          | .leaves shared owed output =>
              some (some output, { state with shared }.put thread (.leaving owed))
      | _ => none
  | .unlock thread =>
      match state.places thread with
      | .leaving none => some (none, state.put thread .idle)
      | .leaving (some owed) => some (none, state.put thread (.notifying owed))
      | _ => none
  | .notify thread target =>
      match state.places thread, target with
      | .notifying .one, some other =>
          match state.places other with
          | .waiting call => some (none, (state.put thread .idle).put other (.released call))
          | _ => none
      | .notifying .one, none =>
          if ∃ other, (state.places other).waits = true then none
          else some (none, state.put thread .idle)
      | .notifying .all, none =>
          some (none, { state with places := fun other => (state.places other).notified }.put
            thread .idle)
      | _, _ => none
  | .spurious thread =>
      match state.places thread with
      | .waiting call => some (none, state.put thread (.released call))
      | _ => none

/-- What a step can do. -/
inductive Monitor.Moves (state : MonitorState τ σ κ) :
    MonitorEvent τ κ → Option ο → MonitorState τ σ κ → Prop where
  | call {thread : τ} {call : κ} : state.places thread = .idle → M.entry call = true →
      Moves state (.call thread call) none (state.put thread (.entering call))
  | lock {thread : τ} {call : κ} : (∀ other, (state.places other).holds = false) →
      state.places thread = .entering call →
      Moves state (.lock thread) none (state.put thread (.inside call false))
  | relock {thread : τ} {call : κ} : (∀ other, (state.places other).holds = false) →
      state.places thread = .released call →
      Moves state (.lock thread) none (state.put thread (.inside call true))
  | waits {thread : τ} {call : κ} {woken : Bool} : state.places thread = .inside call woken →
      M.body state.shared call = .waits →
      Moves state (.body thread) none (state.put thread (.waiting call))
  | continues {thread : τ} {call next : κ} {woken : Bool} {shared : σ} {output : ο} :
      state.places thread = .inside call woken →
      M.body state.shared call = .continues shared next output →
      Moves state (.body thread) (some output)
        ({ state with shared }.put thread (.inside next woken))
  | leaves {thread : τ} {call : κ} {woken : Bool} {shared : σ} {owed : Option Notify}
      {output : ο} : state.places thread = .inside call woken →
      M.body state.shared call = .leaves shared owed output →
      Moves state (.body thread) (some output) ({ state with shared }.put thread (.leaving owed))
  | unlock {thread : τ} : state.places thread = .leaving none →
      Moves state (.unlock thread) none (state.put thread .idle)
  | unlockOwing {thread : τ} {owed : Notify} : state.places thread = .leaving (some owed) →
      Moves state (.unlock thread) none (state.put thread (.notifying owed))
  | notifyOne {thread other : τ} {call : κ} : state.places thread = .notifying .one →
      state.places other = .waiting call →
      Moves state (.notify thread (some other)) none
        ((state.put thread .idle).put other (.released call))
  | notifyNobody {thread : τ} : state.places thread = .notifying .one →
      (∀ other, (state.places other).waits = false) →
      Moves state (.notify thread none) none (state.put thread .idle)
  | notifyAll {thread : τ} : state.places thread = .notifying .all →
      Moves state (.notify thread none) none
        ({ state with places := fun other => (state.places other).notified }.put thread .idle)
  | spurious {thread : τ} {call : κ} : state.places thread = .waiting call →
      Moves state (.spurious thread) none (state.put thread (.released call))

variable {M}

theorem Monitor.moves_of_step {state next : MonitorState τ σ κ} {event : MonitorEvent τ κ}
    {output : Option ο} (taken : M.step state event = some (output, next)) :
    M.Moves state event output next := by
  cases event with
  | call thread call =>
      simp only [Monitor.step] at taken
      split at taken
      next outside =>
        split_ifs at taken with entry
        cases taken
        exact .call outside entry
      next => cases taken
  | lock thread =>
      simp only [Monitor.step] at taken
      split_ifs at taken with busy
      have free : ∀ other, (state.places other).holds = false := fun other =>
        Bool.eq_false_of_not_eq_true fun held => busy ⟨other, held⟩
      split at taken
      next call entering =>
        cases taken
        exact .lock free entering
      next call released =>
        cases taken
        exact .relock free released
      next => cases taken
  | body thread =>
      simp only [Monitor.step] at taken
      split at taken
      next call woken inside =>
        split at taken
        next waits =>
          cases taken
          exact .waits inside waits
        next shared call output continues =>
          cases taken
          exact .continues inside continues
        next shared owed output leaves =>
          cases taken
          exact .leaves inside leaves
      next => cases taken
  | unlock thread =>
      simp only [Monitor.step] at taken
      split at taken
      next leaving =>
        cases taken
        exact .unlock leaving
      next owed leaving =>
        cases taken
        exact .unlockOwing leaving
      next => cases taken
  | notify thread target =>
      simp only [Monitor.step] at taken
      split at taken
      next other notifying =>
        split at taken
        next call waiting =>
          cases taken
          exact .notifyOne notifying waiting
        next => cases taken
      next notifying =>
        split_ifs at taken with waiter
        cases taken
        exact .notifyNobody notifying fun other =>
          Bool.eq_false_of_not_eq_true fun waits => waiter ⟨other, waits⟩
      next notifying =>
        cases taken
        exact .notifyAll notifying
      next => cases taken
  | spurious thread =>
      simp only [Monitor.step] at taken
      split at taken
      next call waiting =>
        cases taken
        exact .spurious waiting
      next => cases taken

end Step

section Runs

variable {τ σ κ ο : Type} [DecidableEq τ] [Fintype τ] {M : Monitor σ κ ο}
  {state next : MonitorState τ σ κ} {event : MonitorEvent τ κ} {output : Option ο} {initial : σ}
  {trace : List (Transition (MonitorState τ σ κ) (MonitorEvent τ κ) (Option ο))}

/-! ### Mutual exclusion -/

/-- At most one thread has the mutex. -/
def MonitorState.Exclusive (state : MonitorState τ σ κ) : Prop :=
  ∀ thread other, (state.places thread).holds = true → (state.places other).holds = true →
    thread = other

omit [Fintype τ] in
/-- A thread that moves and has the mutex had it before. -/
theorem MonitorState.Exclusive.put (exclusive : state.Exclusive) {shared : σ} {thread : τ}
    {place : Place κ} (kept : place.holds = true → (state.places thread).holds = true) :
    ({ state with shared }.put thread place).Exclusive := by
  have before (other : τ)
      (held : (({ state with shared }.put thread place).places other).holds = true) :
      (state.places other).holds = true := by
    by_cases own : other = thread
    · subst own
      rw [MonitorState.put_places_self] at held
      exact kept held
    · rwa [MonitorState.put_places_ne _ own] at held
  exact fun first second one two => exclusive first second (before first one) (before second two)

omit [Fintype τ] in
theorem MonitorState.Exclusive.lock (free : ∀ other, (state.places other).holds = false)
    {thread : τ} {place : Place κ} : (state.put thread place).Exclusive := by
  have own (other : τ) (held : ((state.put thread place).places other).holds = true) :
      other = thread := by
    by_contra different
    rw [MonitorState.put_places_ne _ different, free other] at held
    cases held
  exact fun first second one two => (own first one).trans (own second two).symm

@[simp] theorem Place.notified_holds (place : Place κ) : place.notified.holds = place.holds := by
  cases place <;> rfl

@[simp] theorem Place.notified_waits (place : Place κ) : place.notified.waits = false := by
  cases place <;> rfl

theorem Place.notified_call (place : Place κ) : place.notified.call = place.call := by
  cases place <;> rfl

theorem Monitor.exclusive (run : Run M.step (.start τ κ initial) trace state) :
    state.Exclusive := by
  refine run.invariant MonitorState.Exclusive (fun _ _ held => Bool.noConfusion held) ?_
  intro state event output next taken exclusive
  cases Monitor.moves_of_step taken with
  | lock free _ => exact .lock free
  | relock free _ => exact .lock free
  | continues inside _ => exact exclusive.put fun _ => by rw [inside]; rfl
  | leaves inside _ => exact exclusive.put fun _ => by rw [inside]; rfl
  | @notifyOne thread other call _ _ =>
      have idle : (state.put thread .idle).Exclusive := exclusive.put nofun
      exact idle.put nofun
  | @notifyAll thread _ =>
      have notified : MonitorState.Exclusive
          { state with places := fun other => (state.places other).notified } := by
        intro first second one two
        rw [Place.notified_holds] at one two
        exact exclusive first second one two
      exact notified.put nofun
  | _ => exact exclusive.put nofun

/-! ### Where a thread can be -/

/-- A condition on the place of a thread and on what is shared that every step keeps: the steps of
the thread itself, and those by which another one changes what is shared. -/
structure Monitor.PlaceInvariant (M : Monitor σ κ ο) (fits : σ → Place κ → Prop) : Prop where
  idle : ∀ {shared}, fits shared .idle
  enters : ∀ {shared call}, M.entry call = true → fits shared (.entering call)
  locks : ∀ {shared call}, fits shared (.entering call) → fits shared (.inside call false)
  relocks : ∀ {shared call}, fits shared (.released call) → fits shared (.inside call true)
  waits : ∀ {shared call woken}, M.body shared call = .waits → fits shared (.inside call woken) →
    fits shared (.waiting call)
  continues : ∀ {shared call woken shared' call' output},
    M.body shared call = .continues shared' call' output → fits shared (.inside call woken) →
      fits shared' (.inside call' woken) ∧ ∀ place, fits shared place → fits shared' place
  leaves : ∀ {shared call woken shared' owed output},
    M.body shared call = .leaves shared' owed output → fits shared (.inside call woken) →
      fits shared' (.leaving owed) ∧ ∀ place, fits shared place → fits shared' place
  unlocks : ∀ {shared owed}, fits shared (.leaving (some owed)) → fits shared (.notifying owed)
  released : ∀ {shared call}, fits shared (.waiting call) → fits shared (.released call)

omit [Fintype τ] in
theorem MonitorState.forall_put {fits : Place κ → Prop} {shared : σ} {thread : τ}
    {place : Place κ} (every : ∀ other, fits (state.places other)) (own : fits place) :
    ∀ other, fits (({ state with shared }.put thread place).places other) := by
  intro other
  by_cases same : other = thread
  · subst same
    rwa [MonitorState.put_places_self]
  · rw [MonitorState.put_places_ne _ same]
    exact every other

/-- **The rule for it.** -/
theorem Monitor.PlaceInvariant.of_run {fits : σ → Place κ → Prop} (rule : M.PlaceInvariant fits)
    (run : Run M.step (.start τ κ initial) trace state) :
    ∀ thread, fits state.shared (state.places thread) := by
  refine run.invariant (fun state => ∀ thread, fits state.shared (state.places thread))
    (fun _ => rule.idle) ?_
  intro state event output next taken every
  have here {thread : τ} {place : Place κ} (there : state.places thread = place) :
      fits state.shared place := there ▸ every thread
  cases Monitor.moves_of_step taken with
  | call idle entry => exact MonitorState.forall_put every (rule.enters entry)
  | lock free entering => exact MonitorState.forall_put every (rule.locks (here entering))
  | relock free released => exact MonitorState.forall_put every (rule.relocks (here released))
  | waits inside waits => exact MonitorState.forall_put every (rule.waits waits (here inside))
  | continues inside continues =>
      obtain ⟨own, others⟩ := rule.continues continues (here inside)
      exact MonitorState.forall_put (fun other => others _ (every other)) own
  | leaves inside leaves =>
      obtain ⟨own, others⟩ := rule.leaves leaves (here inside)
      exact MonitorState.forall_put (fun other => others _ (every other)) own
  | unlock leaving => exact MonitorState.forall_put every rule.idle
  | unlockOwing leaving => exact MonitorState.forall_put every (rule.unlocks (here leaving))
  | @notifyOne thread other call notifying waiting =>
      have outside : ∀ other, fits state.shared ((state.put thread .idle).places other) :=
        MonitorState.forall_put every rule.idle
      exact MonitorState.forall_put outside (rule.released (here waiting))
  | notifyNobody notifying nobody => exact MonitorState.forall_put every rule.idle
  | @notifyAll thread notifying =>
      let released : MonitorState τ σ κ :=
        { state with places := fun other => (state.places other).notified }
      have notified (other : τ) : fits state.shared (released.places other) := by
        show fits state.shared (state.places other).notified
        cases there : state.places other with
        | waiting call => exact rule.released (here there)
        | _ => exact here there
      exact MonitorState.forall_put notified rule.idle
  | spurious waiting => exact MonitorState.forall_put every (rule.released (here waiting))

/-- A part of a call at which no call starts and none waits is reached only under the mutex. -/
theorem Monitor.holds_of_call {part : κ} (within : M.entry part = false)
    (runs : ∀ shared, M.body shared part ≠ .waits)
    (run : Run M.step (.start τ κ initial) trace state) (thread : τ)
    (there : (state.places thread).call = some part) :
    (state.places thread).holds = true := by
  have rule : M.PlaceInvariant fun _ place => place.call = some part → place.holds = true := {
    idle := nofun
    enters := fun entry there => by
      cases there
      rw [within] at entry
      cases entry
    locks := fun _ _ => rfl
    relocks := fun _ _ => rfl
    waits := fun waits _ there => by
      cases there
      exact absurd waits (runs _)
    continues := fun _ _ => ⟨fun _ => rfl, fun _ => id⟩
    leaves := fun _ _ => ⟨fun _ => rfl, fun _ => id⟩
    unlocks := fun _ => nofun
    released := id }
  exact rule.of_run run thread there

/-! ### What is on its way -/

/-- How many waiters a notification is sure to release, if there are as many. -/
def Notify.weight : Notify → ℕ∞
  | .one => 1
  | .all => ⊤

def owedWeight : Option Notify → ℕ∞
  | none => 0
  | some owed => owed.weight

/-- What a thread is worth to those that wait. -/
def Place.credit (commits : κ → Option Notify) (place : Place κ) : ℕ∞ :=
  owedWeight (place.owed commits) + if place.awake then 1 else 0

def MonitorState.credit (commits : κ → Option Notify) (state : MonitorState τ σ κ) : ℕ∞ :=
  ∑ thread, (state.places thread).credit commits

variable {commits : κ → Option Notify}

section Credit

variable {call : κ}

theorem Place.credit_idle : (Place.idle (κ := κ)).credit commits = 0 := add_zero _

theorem Place.credit_inside {woken : Bool} : (Place.inside call woken).credit commits =
    owedWeight (commits call) + if woken then 1 else 0 := by
  cases woken <;> rfl

theorem Place.credit_leaving {owed : Option Notify} :
    (Place.leaving (κ := κ) owed).credit commits = owedWeight owed := add_zero _

theorem Place.credit_notifying {owed : Notify} :
    (Place.notifying (κ := κ) owed).credit commits = owed.weight := add_zero _

theorem Place.credit_waiting : (Place.waiting call).credit commits = owedWeight (commits call) :=
  add_zero _

theorem Place.credit_released :
    (Place.released call).credit commits = owedWeight (commits call) + 1 := rfl

end Credit

/-- A thread and the others. -/
theorem MonitorState.credit_eq (state : MonitorState τ σ κ) (thread : τ) :
    state.credit commits =
      (∑ other ∈ Finset.univ.erase thread, (state.places other).credit commits) +
        (state.places thread).credit commits :=
  (Finset.sum_erase_add _ _ (Finset.mem_univ thread)).symm

theorem MonitorState.credit_put (state : MonitorState τ σ κ) (thread : τ) (place : Place κ) :
    (state.put thread place).credit commits =
      (∑ other ∈ Finset.univ.erase thread, (state.places other).credit commits) +
        place.credit commits := by
  rw [MonitorState.credit_eq _ thread]
  congr 1
  · refine Finset.sum_congr rfl fun other member => ?_
    rw [MonitorState.put_places_ne _ (Finset.ne_of_mem_erase member)]
  · rw [MonitorState.put_places_self]

/-- **The rule.** `need` is how many waiters the shared state has work for, `commits` are the
notifications that are certain in the middle of a call, `blocking` the calls that may wait. Whatever
the other threads are worth, a critical section keeps the need covered. -/
structure Monitor.Covered (M : Monitor σ κ ο) (need : σ → ℕ∞) (commits : κ → Option Notify)
    (blocking : κ → Prop) : Prop where
  waits : ∀ {shared call}, M.body shared call = .waits → need shared = 0 ∧ blocking call
  continues : ∀ {shared call shared' call' output},
    M.body shared call = .continues shared' call' output → (blocking call → blocking call') ∧
      ∀ rest, need shared ≤ rest + owedWeight (commits call) →
        need shared' ≤ rest + owedWeight (commits call')
  leaves : ∀ {shared call shared' owed output},
    M.body shared call = .leaves shared' owed output →
      ∀ rest, need shared ≤ rest + owedWeight (commits call) →
        need shared' ≤ rest + owedWeight owed
  woken : ∀ {shared call shared' owed output}, blocking call →
    M.body shared call = .leaves shared' owed output →
      ∀ rest, need shared ≤ rest + (owedWeight (commits call) + 1) →
        need shared' ≤ rest + owedWeight owed

/-- As long as a thread waits un-notified, the need is covered. -/
def MonitorState.Covers (need : σ → ℕ∞) (commits : κ → Option Notify)
    (state : MonitorState τ σ κ) : Prop :=
  (∃ thread, (state.places thread).waits = true) → need state.shared ≤ state.credit commits

/-- Only blocking calls wait. -/
def Place.Blocks (blocking : κ → Prop) : Place κ → Prop
  | .waiting call | .released call | .inside call true => blocking call
  | _ => True

variable {need : σ → ℕ∞} {blocking : κ → Prop}

/-- A thread moves, not on to the condition variable. -/
theorem MonitorState.Covers.put (covers : state.Covers need commits) {shared : σ} {thread : τ}
    {place : Place κ} (running : place.waits = false)
    (step : ∀ rest, need state.shared ≤ rest + (state.places thread).credit commits →
      need shared ≤ rest + place.credit commits) :
    ({ state with shared }.put thread place).Covers need commits := by
  rintro ⟨other, waits⟩
  have different : other ≠ thread := by
    rintro rfl
    rw [MonitorState.put_places_self, running] at waits
    cases waits
  rw [MonitorState.put_places_ne _ different] at waits
  have covered := covers ⟨other, waits⟩
  rw [MonitorState.credit_eq state thread] at covered
  rw [MonitorState.credit_put]
  exact step _ covered

theorem Monitor.Covered.blocks (rule : M.Covered need commits blocking) :
    M.PlaceInvariant fun _ place => place.Blocks blocking where
  idle := trivial
  enters _ := trivial
  locks _ := trivial
  relocks := id
  waits waits _ := (rule.waits waits).2
  continues {_ _ woken _ _ _} continues blocked := by
    refine ⟨?_, fun _ => id⟩
    cases woken with
    | false => trivial
    | true => exact (rule.continues continues).1 blocked
  leaves _ _ := ⟨trivial, fun _ => id⟩
  unlocks _ := trivial
  released := id

/-- A thread moves, nothing else changes, and it is worth no less than before. -/
theorem MonitorState.Covers.move (covers : state.Covers need commits) {thread : τ}
    {before place : Place κ} (here : state.places thread = before)
    (running : place.waits = false)
    (worth : before.credit commits ≤ place.credit commits) :
    (state.put thread place).Covers need commits := by
  refine covers.put running fun rest bound => bound.trans ?_
  rw [here]
  exact add_le_add le_rfl worth

/-- Nobody waits, so there is nothing to cover. -/
theorem MonitorState.Covers.of_nobody (nobody : ∀ other, (state.places other).waits = false)
    {thread : τ} {place : Place κ} (running : place.waits = false) :
    (state.put thread place).Covers need commits := by
  rintro ⟨other, waits⟩
  by_cases own : other = thread
  · subst own
    rw [MonitorState.put_places_self, running] at waits
    cases waits
  · rw [MonitorState.put_places_ne _ own, nobody other] at waits
    cases waits

/-- What a notification was worth, the waiter it releases is worth now. -/
theorem MonitorState.credit_notifyOne {thread other : τ} {call : κ}
    (notifying : state.places thread = .notifying .one)
    (waiting : state.places other = .waiting call) :
    ((state.put thread .idle).put other (.released call)).credit commits =
      state.credit commits := by
  have different : other ≠ thread := by
    rintro rfl
    rw [notifying] at waiting
    cases waiting
  rw [MonitorState.credit_put, Place.credit_released, ← add_assoc, ← Place.credit_waiting,
    ← waiting, ← MonitorState.put_places_ne state different .idle, ← MonitorState.credit_eq,
    MonitorState.credit_put, Place.credit_idle, add_zero, MonitorState.credit_eq state thread,
    notifying, Place.credit_notifying]
  rfl

/-- **The need is covered** in every state of every run. -/
theorem Monitor.Covered.covers (rule : M.Covered need commits blocking)
    (run : Run M.step (.start τ κ initial) trace state) : state.Covers need commits := by
  induction run with
  | nil => exact fun ⟨_, waits⟩ => Bool.noConfusion waits
  | @snoc trace state next event output previous taken covers =>
      cases Monitor.moves_of_step taken with
      | call idle _ => exact covers.move idle rfl (Place.credit_idle.trans_le zero_le)
      | lock free entering => exact covers.move entering rfl le_rfl
      | relock free released => exact covers.move released rfl le_rfl
      | waits inside waits =>
          intro _
          rw [MonitorState.put_shared, (rule.waits waits).1]
          exact zero_le
      | @continues thread call call' woken shared output inside continues =>
          refine covers.put rfl fun rest bound => ?_
          -- the mark of a woken thread goes with the others
          rw [inside, Place.credit_inside, ← add_assoc, add_right_comm] at bound
          rw [Place.credit_inside, ← add_assoc, add_right_comm]
          exact (rule.continues continues).2 _ bound
      | @leaves thread call woken shared owed output inside leaves =>
          refine covers.put rfl fun rest bound => ?_
          rw [inside, Place.credit_inside] at bound
          rw [Place.credit_leaving]
          cases woken with
          | false =>
              rw [if_neg Bool.false_ne_true, add_zero] at bound
              exact rule.leaves leaves rest bound
          | true =>
              have blocked := rule.blocks.of_run previous thread
              rw [inside] at blocked
              exact rule.woken blocked leaves rest bound
      | unlock leaving => exact covers.move leaving rfl le_rfl
      | unlockOwing leaving => exact covers.move leaving rfl le_rfl
      | @notifyOne thread other call notifying waiting =>
          intro _
          rw [MonitorState.credit_notifyOne notifying waiting]
          exact covers ⟨other, by rw [waiting]; rfl⟩
      | notifyNobody notifying nobody => exact .of_nobody nobody rfl
      | @notifyAll thread notifying =>
          let released : MonitorState τ σ κ :=
            { state with places := fun other => (state.places other).notified }
          have nobody (other : τ) : (released.places other).waits = false :=
            Place.notified_waits _
          exact .of_nobody nobody rfl
      | spurious waiting =>
          refine covers.move waiting rfl ?_
          rw [Place.credit_waiting, Place.credit_released]
          exact le_self_add

/-! ### Counting -/

/-- `notify_all` is owed only where there is work for everyone. -/
structure Monitor.Bounded (M : Monitor σ κ ο) (need : σ → ℕ∞) (commits : κ → Option Notify) :
    Prop where
  entry : ∀ {call}, M.entry call = true → commits call ≠ some .all
  continues : ∀ {shared call shared' call' output},
    M.body shared call = .continues shared' call' output →
      (commits call = some .all → need shared = ⊤) →
      (need shared = ⊤ → need shared' = ⊤) ∧ (commits call' = some .all → need shared' = ⊤)
  leaves : ∀ {shared call shared' owed output},
    M.body shared call = .leaves shared' owed output →
      (commits call = some .all → need shared = ⊤) →
      (need shared = ⊤ → need shared' = ⊤) ∧ (owed = some .all → need shared' = ⊤)

theorem Monitor.Bounded.broadcasts (rule : M.Bounded need commits) :
    M.PlaceInvariant fun shared place =>
      place.owed commits = some .all → need shared = ⊤ where
  idle := nofun
  enters entry all := absurd all (rule.entry entry)
  locks := id
  relocks := id
  waits _ := id
  continues continues all := by
    obtain ⟨kept, own⟩ := rule.continues continues all
    exact ⟨own, fun _ before owed => kept (before owed)⟩
  leaves leaves all := by
    obtain ⟨kept, own⟩ := rule.leaves leaves all
    exact ⟨own, fun _ before owed => kept (before owed)⟩
  unlocks := id
  released := id

/-- The threads that have been released and have not run. -/
def MonitorState.awake (state : MonitorState τ σ κ) : Finset τ :=
  Finset.univ.filter fun thread => (state.places thread).awake = true

/-- The threads that have a notification to make. -/
def MonitorState.owing (commits : κ → Option Notify) (state : MonitorState τ σ κ) : Finset τ :=
  Finset.univ.filter fun thread => ((state.places thread).owed commits).isSome = true

omit [DecidableEq τ] in
/-- Where nobody owes `notify_all`, what is on its way is counted in threads. -/
theorem MonitorState.credit_eq_card
    (single : ∀ thread, (state.places thread).owed commits ≠ some .all) :
    state.credit commits = ((state.owing commits).card + state.awake.card : ℕ) := by
  have each (thread : τ) : (state.places thread).credit commits =
      (if ((state.places thread).owed commits).isSome = true then 1 else 0) +
        if (state.places thread).awake = true then 1 else 0 := by
    rw [Place.credit]
    congr 1
    cases owes : (state.places thread).owed commits with
    | none => rfl
    | some owed =>
        cases owed with
        | one => rfl
        | all => exact absurd owes (single thread)
  rw [MonitorState.credit, Finset.sum_congr rfl fun thread _ => each thread,
    Finset.sum_add_distrib, Finset.sum_boole, Finset.sum_boole, Nat.cast_add]
  rfl

/-- **No lost wakeup**, counted: as long as a thread waits un-notified, at least as many are
released or have a notification to make as there is work for. -/
theorem Monitor.need_le (rule : M.Covered need commits blocking)
    (bounded : M.Bounded need commits) (run : Run M.step (.start τ κ initial) trace state)
    (waits : ∃ thread, (state.places thread).waits = true) (finite : need state.shared ≠ ⊤) :
    need state.shared ≤ ((state.owing commits).card + state.awake.card : ℕ) := by
  have single (thread : τ) : (state.places thread).owed commits ≠ some .all := fun all =>
    finite (bounded.broadcasts.of_run run thread all)
  rw [← MonitorState.credit_eq_card single]
  exact rule.covers run waits

/-- **No lost wakeup**: where there is work and a thread waits un-notified, another one is released
or has a notification to make. -/
theorem Monitor.exists_of_need (rule : M.Covered need commits blocking)
    (run : Run M.step (.start τ κ initial) trace state)
    (waits : ∃ thread, (state.places thread).waits = true) (work : need state.shared ≠ 0) :
    ∃ thread, (state.places thread).awake = true ∨
      (state.places thread).owed commits ≠ none := by
  by_contra nobody
  push Not at nobody
  have nothing : state.credit commits = 0 := by
    refine Finset.sum_eq_zero fun thread _ => ?_
    obtain ⟨asleep, none⟩ := nobody thread
    rw [Place.credit, none, if_neg asleep]
    exact add_zero _
  have covered := rule.covers run waits
  rw [nothing] at covered
  exact work (nonpos_iff_eq_zero.mp covered)

end Runs

end ExodusOps
