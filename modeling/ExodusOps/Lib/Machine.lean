/-
**Runs of a machine that answers.**

A machine is a partial step function: in a state, an event gives an output and the next state, or
is not possible. A run is recorded as the list of its transitions, oldest first, and grows at its
end (`Run.snoc`), so that an invariant over histories is proved by induction on the run. `exec`
runs a list of events and is how a concrete run is obtained (`exec_run`). `Run.project` is the rule
by which one machine refines another; where the states of the two are not a function of each other,
`Run.simulate` is, and `Run.foresee` where the other machine decides earlier. `Inevitably` says what
must happen, however the steps are chosen; it follows from a rank that every step lowers
(`Inevitably.of_decreasing`). `InevitablyBeside` says it where other steps come between.
-/

import Mathlib.Data.List.Basic

namespace ExodusOps

/-- One step taken: the state and event it started from, what was answered, the state it led to. -/
structure Transition (σ ε ο : Type) where
  before : σ
  event : ε
  output : ο
  after : σ

section Machine

variable {σ ε ο : Type}

/-- The runs from `start`, with their transitions in order. -/
inductive Run (step : σ → ε → Option (ο × σ)) (start : σ) :
    List (Transition σ ε ο) → σ → Prop where
  | nil : Run step start [] start
  | snoc {trace : List (Transition σ ε ο)} {state next : σ} {event : ε} {output : ο} :
      Run step start trace state → step state event = some (output, next) →
        Run step start (trace ++ [⟨state, event, output, next⟩]) next

/-- **An invariant of every step is an invariant of every run.** -/
theorem Run.invariant {step : σ → ε → Option (ο × σ)} {start finish : σ}
    {trace : List (Transition σ ε ο)} (holds : σ → Prop) (initial : holds start)
    (preserved : ∀ {state event output next}, step state event = some (output, next) →
      holds state → holds next)
    (run : Run step start trace finish) : holds finish := by
  induction run with
  | nil => exact initial
  | snoc _ taken ih => exact preserved taken ih

/-- A run cut at one of its transitions: the run before it, the step itself. -/
theorem Run.cut {step : σ → ε → Option (ο × σ)} {start finish : σ}
    {earlier later : List (Transition σ ε ο)} {transition : Transition σ ε ο}
    (run : Run step start (earlier ++ transition :: later) finish) :
    Run step start earlier transition.before ∧
      step transition.before transition.event = some (transition.output, transition.after) ∧
      Run step transition.after later finish := by
  generalize whole : earlier ++ transition :: later = trace at run
  induction run generalizing later with
  | nil => exact absurd whole (by simp)
  | snoc previous taken ih =>
      rcases List.eq_nil_or_concat later with rfl | ⟨front, last, rfl⟩
      · obtain ⟨rfl, single⟩ := List.append_inj' whole rfl
        cases single
        exact ⟨previous, taken, .nil⟩
      · rw [List.concat_eq_append, ← List.cons_append, ← List.append_assoc] at whole
        obtain ⟨rfl, single⟩ := List.append_inj' whole rfl
        cases single
        obtain ⟨before, here, after⟩ := ih rfl
        refine ⟨before, here, ?_⟩
        rw [List.concat_eq_append]
        exact .snoc after taken

/-- The run up to the second of two of its transitions. -/
theorem Run.upTo {step : σ → ε → Option (ο × σ)} {start finish : σ}
    {earlier middle later : List (Transition σ ε ο)} {turn other : Transition σ ε ο}
    (run : Run step start (earlier ++ turn :: (middle ++ other :: later)) finish) :
    Run step start (earlier ++ turn :: middle) other.before := by
  rw [← List.cons_append, ← List.append_assoc] at run
  exact run.cut.1

/-- The last step of a run. -/
theorem Run.last {step : σ → ε → Option (ο × σ)} {start finish : σ}
    {trace : List (Transition σ ε ο)} {transition : Transition σ ε ο}
    (run : Run step start (trace ++ [transition]) finish) :
    Run step start trace transition.before ∧
      step transition.before transition.event = some (transition.output, finish) ∧
      finish = transition.after := by
  generalize whole : trace ++ [transition] = recorded at run
  cases run with
  | nil => exact absurd whole (by simp)
  | snoc previous taken =>
      obtain ⟨rfl, single⟩ := List.append_inj' whole rfl
      cases single
      exact ⟨previous, taken, rfl⟩

/-- Every recorded transition was a step. -/
theorem Run.taken {step : σ → ε → Option (ο × σ)} {start finish : σ}
    {trace : List (Transition σ ε ο)} (run : Run step start trace finish)
    {transition : Transition σ ε ο} (member : transition ∈ trace) :
    step transition.before transition.event = some (transition.output, transition.after) := by
  obtain ⟨earlier, later, rfl⟩ := List.append_of_mem member
  exact run.cut.2.1

/-- **Refinement by projection.** Where every step is, seen through `view`, a step of another
machine or none at all, every run is a run of that machine. -/
theorem Run.project {σ' ε' ο' : Type} {step : σ → ε → Option (ο × σ)}
    {step' : σ' → ε' → Option (ο' × σ')} (view : σ → σ')
    (move : Transition σ ε ο → Option (Transition σ' ε' ο'))
    (stays : ∀ transition, step transition.before transition.event =
      some (transition.output, transition.after) → move transition = none →
        view transition.after = view transition.before)
    (moves : ∀ transition other, step transition.before transition.event =
      some (transition.output, transition.after) → move transition = some other →
        other.before = view transition.before ∧ other.after = view transition.after ∧
          step' other.before other.event = some (other.output, other.after))
    {start finish : σ} {trace : List (Transition σ ε ο)} (run : Run step start trace finish) :
    Run step' (view start) (trace.filterMap move) (view finish) := by
  induction run with
  | nil => exact .nil
  | @snoc trace state next event output previous taken ih =>
      cases moved : move ⟨state, event, output, next⟩ with
      | none =>
          rw [List.filterMap_append, List.filterMap_cons_none moved, List.filterMap_nil,
            List.append_nil, stays ⟨state, event, output, next⟩ taken moved]
          exact ih
      | some other =>
          obtain ⟨before, event', output', after⟩ := other
          obtain ⟨rfl, rfl, step⟩ := moves ⟨state, event, output, next⟩ _ taken moved
          rw [List.filterMap_append, List.filterMap_cons_some moved, List.filterMap_nil]
          exact ih.snoc step

/-- **Refinement by simulation.** Where every step that is allowed is matched by a step of another
machine, or by none, and the two stay related, every run has a run of that machine beside it, in
which the same is seen. -/
theorem Run.simulate {σ' ε' ο' α : Type} {step : σ → ε → Option (ο × σ)}
    {step' : σ' → ε' → Option (ο' × σ')} (related : σ → σ' → Prop)
    (allowed : Transition σ ε ο → Prop) (move : Transition σ ε ο → Option ε')
    (seen : Transition σ ε ο → Option α) (seen' : Transition σ' ε' ο' → Option α)
    (stays : ∀ {turn state'}, step turn.before turn.event = some (turn.output, turn.after) →
      allowed turn → related turn.before state' → move turn = none →
        seen turn = none ∧ related turn.after state')
    (moves : ∀ {turn state' event'}, step turn.before turn.event =
      some (turn.output, turn.after) → allowed turn → related turn.before state' →
        move turn = some event' → ∃ output' next', step' state' event' = some (output', next') ∧
          seen turn = seen' ⟨state', event', output', next'⟩ ∧ related turn.after next')
    {start finish : σ} {start' : σ'} {trace : List (Transition σ ε ο)}
    (initial : related start start') (run : Run step start trace finish)
    (every : ∀ turn ∈ trace, allowed turn) :
    ∃ trace' finish', Run step' start' trace' finish' ∧ related finish finish' ∧
      trace'.map Transition.event = trace.filterMap move ∧
      trace'.filterMap seen' = trace.filterMap seen := by
  induction run with
  | nil => exact ⟨[], start', .nil, initial, rfl, rfl⟩
  | @snoc trace state next event output previous taken ih =>
      obtain ⟨earlier, here⟩ := List.forall_mem_append.mp every
      have allowed := List.forall_mem_singleton.mp here
      obtain ⟨trace', middle, run', kept, events, sight⟩ := ih earlier
      rw [List.filterMap_append, List.filterMap_append]
      cases moved : move ⟨state, event, output, next⟩ with
      | none =>
          obtain ⟨nothing, still⟩ := stays taken allowed kept moved
          rw [List.filterMap_cons_none moved, List.filterMap_cons_none nothing]
          exact ⟨trace', middle, run', still, events.trans (List.append_nil _).symm,
            sight.trans (List.append_nil _).symm⟩
      | some event' =>
          obtain ⟨output', next', taken', same, still⟩ := moves taken allowed kept moved
          refine ⟨_, next', run'.snoc taken', still, ?_, ?_⟩
          · rw [List.map_append, events, List.filterMap_cons_some moved]
            rfl
          · rw [List.filterMap_append, sight, List.filterMap_cons, List.filterMap_cons, same]
            rfl

/-- **Refinement with foresight.** The other machine may decide at one step what this one decides
only later. So what is still to come is guessed: `fits` says which guesses a state leaves open. If
every guess open after a step goes back to one that was open before it, under which the step is
matched, then every run has, for every guess open at its end, a run of the other machine beside
it. -/
theorem Run.foresee {σ' ε' ο' π : Type} {step : σ → ε → Option (ο × σ)}
    {step' : σ' → ε' → Option (ο' × σ')} (fits : σ → π → Prop)
    (related : π → List (Transition σ ε ο) → σ → List (Transition σ' ε' ο') → σ' → Prop)
    {start : σ} {start' : σ'}
    (initial : ∀ ahead, fits start ahead → related ahead [] start [] start')
    (matched : ∀ {trace state event output next ahead},
      step state event = some (output, next) → fits next ahead →
        ∃ earlier, fits state earlier ∧ ∀ trace' state', Run step' start' trace' state' →
          related earlier trace state trace' state' →
          ∃ trace'' next', Run step' start' trace'' next' ∧
            related ahead (trace ++ [⟨state, event, output, next⟩]) next trace'' next')
    {finish : σ} {trace : List (Transition σ ε ο)} (run : Run step start trace finish) {ahead : π}
    (fit : fits finish ahead) :
    ∃ trace' finish', Run step' start' trace' finish' ∧
      related ahead trace finish trace' finish' := by
  induction run generalizing ahead with
  | nil => exact ⟨[], start', .nil, initial ahead fit⟩
  | snoc _ taken ih =>
      obtain ⟨earlier, before, follows⟩ := matched taken fit
      obtain ⟨trace', middle, run', kept⟩ := ih before
      exact follows trace' middle run' kept

/-- **Whichever of the allowed steps are taken, the goal is reached**: as long as it is not, one of
them is possible, and they do not go on for ever. -/
inductive Inevitably (step : σ → ε → Option (ο × σ)) (allowed : ε → Prop) (goal : σ → Prop) :
    σ → Prop where
  | reached {state : σ} : goal state → Inevitably step allowed goal state
  | forced {state : σ} : (∃ event, allowed event ∧ (step state event).isSome = true) →
      (∀ event output next, allowed event → step state event = some (output, next) →
        Inevitably step allowed goal next) →
      Inevitably step allowed goal state

/-- An invariant under which the goal is reached or a step is possible, and a well-founded rank
that the steps lower. -/
theorem Inevitably.of_decreasing {α : Type} {below : α → α → Prop} (founded : WellFounded below)
    (rank : σ → α) {step : σ → ε → Option (ο × σ)} {allowed : ε → Prop} {goal : σ → Prop}
    (holds : σ → Prop)
    (possible : ∀ state, holds state →
      goal state ∨ ∃ event, allowed event ∧ (step state event).isSome = true)
    (lowered : ∀ {state event output next}, allowed event →
      step state event = some (output, next) → holds state →
        holds next ∧ below (rank next) (rank state))
    {state : σ} (initial : holds state) : Inevitably step allowed goal state := by
  induction state using (InvImage.wf rank founded).induction with
  | h state ih =>
      rcases possible state initial with done | enabled
      · exact .reached done
      · refine .forced enabled fun event output next legal taken => ?_
        obtain ⟨kept, lower⟩ := lowered legal taken initial
        exact ih next lower kept

/-- None of these steps is helpful, and the goal is not reached before any of them. -/
def Aside (helpful : σ → ε → Prop) (goal : σ → Prop) (trace : List (Transition σ ε ο)) : Prop :=
  ∀ turn ∈ trace, ¬ goal turn.before ∧ ¬ helpful turn.before turn.event

/-- **The goal is reached whatever else happens**: beside the helpful steps others may be taken, in
any number. As long as the goal is not reached a helpful step is possible, and they do not go on
for ever. -/
inductive InevitablyBeside (step : σ → ε → Option (ο × σ)) (helpful : σ → ε → Prop)
    (goal : σ → Prop) : σ → Prop where
  | reached {state : σ} : goal state → InevitablyBeside step helpful goal state
  | forced {state : σ} :
      (∀ trace middle, Run step state trace middle → Aside helpful goal trace → ¬ goal middle →
        ∃ event, helpful middle event ∧ (step middle event).isSome = true) →
      (∀ trace middle, Run step state trace middle → Aside helpful goal trace → ¬ goal middle →
        ∀ event output next, helpful middle event → step middle event = some (output, next) →
          InevitablyBeside step helpful goal next) →
      InevitablyBeside step helpful goal state

/-- A rank that the helpful steps lower and the others do not raise. -/
theorem InevitablyBeside.of_decreasing {α : Type} {below : α → α → Prop} [IsTrans α below]
    (founded : WellFounded below) (rank : σ → α) {step : σ → ε → Option (ο × σ)}
    {helpful : σ → ε → Prop} {goal : σ → Prop} (holds : σ → Prop)
    (possible : ∀ state, holds state → ¬ goal state →
      ∃ event, helpful state event ∧ (step state event).isSome = true)
    (kept : ∀ {state event output next}, step state event = some (output, next) →
      holds state → ¬ goal state → holds next)
    (lowered : ∀ {state event output next}, helpful state event →
      step state event = some (output, next) → holds state → ¬ goal state →
        below (rank next) (rank state))
    (left : ∀ {state event output next}, ¬ helpful state event →
      step state event = some (output, next) → holds state → ¬ goal state →
        rank next = rank state ∨ below (rank next) (rank state))
    {state : σ} (initial : holds state) : InevitablyBeside step helpful goal state := by
  have along {start finish : σ} {trace : List (Transition σ ε ο)}
      (run : Run step start trace finish) (aside : Aside helpful goal trace)
      (begun : holds start) :
      holds finish ∧ (rank finish = rank start ∨ below (rank finish) (rank start)) := by
    induction run with
    | nil => exact ⟨begun, .inl rfl⟩
    | snoc _ taken ih =>
        obtain ⟨before, place⟩ := ih fun turn member => aside turn (List.mem_append_left _ member)
        obtain ⟨unmet, other⟩ := aside _ (List.mem_append_right _ (List.mem_singleton_self _))
        refine ⟨kept taken before unmet, ?_⟩
        rcases left other taken before unmet with same | lower
        · rw [same]
          exact place
        · rcases place with start | lower'
          · exact .inr (start ▸ lower)
          · exact .inr (IsTrans.trans _ _ _ lower lower')
  induction state using (InvImage.wf rank founded).induction with
  | h state ih =>
      refine .forced (fun trace middle run aside unmet => ?_)
        fun trace middle run aside unmet event output next help taken => ?_
      · exact possible middle (along run aside initial).1 unmet
      · obtain ⟨before, place⟩ := along run aside initial
        have lower := lowered help taken before unmet
        have below : InvImage below rank next state := by
          rcases place with same | lower'
          · rw [same] at lower
            exact lower
          · exact IsTrans.trans _ _ _ lower lower'
        exact ih next below (kept taken before unmet)

/-- A condition on every step of a run, given the history before it. -/
def EveryStep (condition : List (Transition σ ε ο) → Transition σ ε ο → Prop) :
    List (Transition σ ε ο) → List (Transition σ ε ο) → Prop
  | _, [] => True
  | earlier, transition :: later =>
      condition earlier transition ∧ EveryStep condition (earlier ++ [transition]) later

instance decidableEveryStep {condition : List (Transition σ ε ο) → Transition σ ε ο → Prop}
    [∀ earlier transition, Decidable (condition earlier transition)] :
    (earlier trace : List (Transition σ ε ο)) → Decidable (EveryStep condition earlier trace)
  | _, [] => .isTrue trivial
  | earlier, transition :: later =>
      @instDecidableAnd _ _ inferInstance (decidableEveryStep (earlier ++ [transition]) later)

theorem everyStep_concat {condition : List (Transition σ ε ο) → Transition σ ε ο → Prop}
    {earlier trace : List (Transition σ ε ο)} {transition : Transition σ ε ο} :
    EveryStep condition earlier (trace ++ [transition]) ↔
      EveryStep condition earlier trace ∧ condition (earlier ++ trace) transition := by
  induction trace generalizing earlier with
  | nil => simp [EveryStep]
  | cons first rest ih =>
      simp only [List.cons_append, EveryStep, ih, and_assoc, List.append_assoc, List.nil_append]

/-- The condition on a step in the middle. -/
theorem everyStep_cut {condition : List (Transition σ ε ο) → Transition σ ε ο → Prop}
    {before earlier later : List (Transition σ ε ο)} {transition : Transition σ ε ο}
    (every : EveryStep condition before (earlier ++ transition :: later)) :
    condition (before ++ earlier) transition := by
  induction earlier generalizing before with
  | nil =>
      rw [List.append_nil]
      exact every.1
  | cons first rest ih =>
      have here := ih every.2
      rwa [List.append_assoc] at here

/-- Run a list of events. -/
def exec (step : σ → ε → Option (ο × σ)) : σ → List ε → Option (List (Transition σ ε ο) × σ)
  | state, [] => some ([], state)
  | state, event :: events =>
      match step state event with
      | none => none
      | some (output, next) =>
          (exec step next events).map fun rest => (⟨state, event, output, next⟩ :: rest.1, rest.2)

/-- The first of a list of events that is possible. -/
theorem exec_cons {step : σ → ε → Option (ο × σ)} {state finish : σ} {event : ε}
    {events : List ε} {trace : List (Transition σ ε ο)}
    (executed : exec step state (event :: events) = some (trace, finish)) :
    ∃ output next tail, step state event = some (output, next) ∧
      exec step next events = some (tail, finish) ∧
      trace = ⟨state, event, output, next⟩ :: tail := by
  cases taken : step state event with
  | none => simp [exec, taken] at executed
  | some answer =>
      obtain ⟨output, next⟩ := answer
      simp only [exec, taken, Option.map_eq_some_iff] at executed
      obtain ⟨⟨tail, last⟩, rest, same⟩ := executed
      cases same
      exact ⟨output, next, tail, rfl, rest, rfl⟩

/-- Running a list of events from the end of a run prolongs it. -/
theorem exec_prolongs {step : σ → ε → Option (ο × σ)} {start state finish : σ} {events : List ε}
    {before trace : List (Transition σ ε ο)} (run : Run step start before state)
    (executed : exec step state events = some (trace, finish)) :
    Run step start (before ++ trace) finish := by
  induction events generalizing state before trace with
  | nil =>
      cases executed
      rwa [List.append_nil]
  | cons event events ih =>
      obtain ⟨output, next, tail, taken, rest, rfl⟩ := exec_cons executed
      have prolonged := ih (run.snoc taken) rest
      rwa [List.append_assoc] at prolonged

theorem exec_run {step : σ → ε → Option (ο × σ)} {start finish : σ} {events : List ε}
    {trace : List (Transition σ ε ο)} (executed : exec step start events = some (trace, finish)) :
    Run step start trace finish :=
  exec_prolongs .nil executed

theorem exec_append {step : σ → ε → Option (ο × σ)} {start middle : σ} {events more : List ε}
    {trace : List (Transition σ ε ο)} (executed : exec step start events = some (trace, middle)) :
    exec step start (events ++ more) =
      (exec step middle more).map fun rest => (trace ++ rest.1, rest.2) := by
  induction events generalizing start trace with
  | nil =>
      cases executed
      simp
  | cons event events ih =>
      obtain ⟨output, next, tail, taken, rest, rfl⟩ := exec_cons executed
      simp only [List.cons_append, exec, taken, ih rest, Option.map_map]
      rfl

/-- A run is what running its events gives. -/
theorem Run.exec {step : σ → ε → Option (ο × σ)} {start finish : σ}
    {trace : List (Transition σ ε ο)} (run : Run step start trace finish) :
    ExodusOps.exec step start (trace.map Transition.event) = some (trace, finish) := by
  induction run with
  | nil => rfl
  | snoc _ taken ih =>
      rw [List.map_append, exec_append ih]
      simp [ExodusOps.exec, taken]

/-- Running a list of events takes a step for each of them. -/
theorem exec_events {step : σ → ε → Option (ο × σ)} {start finish : σ} {events : List ε}
    {trace : List (Transition σ ε ο)}
    (executed : ExodusOps.exec step start events = some (trace, finish)) :
    trace.map Transition.event = events := by
  induction events generalizing start trace with
  | nil =>
      cases executed
      rfl
  | cons event events ih =>
      obtain ⟨output, next, tail, _, rest, rfl⟩ := exec_cons executed
      rw [List.map_cons, ih rest]

/-- The transitions of a list of events that is possible. -/
def execTrace (step : σ → ε → Option (ο × σ)) (start : σ) (events : List ε) :
    List (Transition σ ε ο) :=
  ((exec step start events).map Prod.fst).getD []

/-- The state a list of events leads to, if it is possible. -/
def execFinal (step : σ → ε → Option (ο × σ)) (start : σ) (events : List ε) : σ :=
  ((exec step start events).map Prod.snd).getD start

theorem run_of_possible {step : σ → ε → Option (ο × σ)} {start : σ} {events : List ε}
    (possible : (exec step start events).isSome = true) :
    Run step start (execTrace step start events) (execFinal step start events) := by
  obtain ⟨⟨trace, finish⟩, executed⟩ := Option.isSome_iff_exists.mp possible
  rw [execTrace, execFinal, executed]
  exact exec_run executed

theorem execTrace_events {step : σ → ε → Option (ο × σ)} {start : σ} {events : List ε}
    (possible : (exec step start events).isSome = true) :
    (execTrace step start events).map Transition.event = events := by
  obtain ⟨⟨trace, finish⟩, executed⟩ := Option.isSome_iff_exists.mp possible
  rw [execTrace, executed]
  exact exec_events executed

/-- A run over given events, cut at one of them. -/
theorem execTrace_cut {step : σ → ε → Option (ο × σ)} {start : σ} (before : List ε) (event : ε)
    (after : List ε) (possible : (exec step start (before ++ event :: after)).isSome = true) :
    ∃ earlier transition later, execTrace step start (before ++ event :: after) =
      earlier ++ transition :: later ∧ earlier.map Transition.event = before ∧
      transition.event = event ∧ later.map Transition.event = after := by
  obtain ⟨earlier, rest, split, first, second⟩ :=
    List.map_eq_append_iff.mp (execTrace_events possible)
  obtain ⟨transition, later, rfl, same, others⟩ := List.map_eq_cons_iff.mp second
  exact ⟨earlier, transition, later, split, first, same, others⟩

end Machine

end ExodusOps
