/-
**A readers-writer mutex.**

Any number of threads call operations whose critical sections run under one mutex, which a call
takes shared or exclusively. A section is a sequence of single accesses to what is shared, each of
them one step, so that between two of them any other thread may move. A call may also return before
it takes the mutex.

* `Sections.Moves` — what each step does; `Sections.moves_of_step` is the inversion of the step.
* `Sections.disciplined` — a thread that has the mutex exclusively is alone with it.
* `Sections.Atomic` — **the rule.** `progress` says how far a section has come, against the state in
  which it began. It is enough that a section under the shared mutex writes nothing and that the
  access that ends a section leaves what the call, made in one step, would have left.
* `Sections.linearizable` — then the accesses that end sections, in their order, are a run of the
  machine in which every call is one step, with the same answers.
* `Sections.returned_commit` — an answer that is returned was fixed by exactly one such access
  between the call and its return, so that order is one of real time.
-/

import ExodusOps.Lib.History
import ExodusOps.Lib.Machine
import Mathlib.Data.Fintype.Basic

namespace ExodusOps

inductive LockMode where
  | shared
  | exclusive
  deriving DecidableEq, Repr

/-- Two threads can have the mutex at once. -/
def LockMode.beside : LockMode → LockMode → Bool
  | .shared, .shared => true
  | _, _ => false

/-- The calls a thread can make, and their critical sections. -/
structure Sections (σ κ χ ι α : Type) where
  /-- What a call returns without the mutex. -/
  early : κ → Option α
  mode : κ → LockMode
  /-- The local variables at the beginning of the section. -/
  enter : κ → χ
  /-- One access, with what it takes from outside: what is shared after it, and the local variables
  or, at the end of the section, the answer. -/
  access : σ → κ → χ → ι → Option (σ × (χ ⊕ α))

/-- How far a thread is with a call. -/
inductive SectionStage (κ χ α : Type) where
  | outside
  /-- Before the mutex. -/
  | entering (call : κ)
  | inside (call : κ) (locals : χ)
  /-- Through with its section, the mutex still taken. -/
  | leaving (call : κ) (answer : α)
  deriving DecidableEq, Repr

structure SectionState (τ σ κ χ α : Type) where
  shared : σ
  stages : τ → SectionStage κ χ α

inductive SectionEvent (τ κ ι : Type) where
  | call (thread : τ) (call : κ)
  /-- It returns without the mutex. -/
  | decline (thread : τ)
  | lock (thread : τ)
  | access (thread : τ) (input : ι)
  /-- It gives the mutex back and returns. -/
  | unlock (thread : τ)
  deriving DecidableEq, Repr

/-- Every thread outside. -/
def SectionState.start (τ : Type) {σ : Type} (κ χ α : Type) (shared : σ) :
    SectionState τ σ κ χ α :=
  ⟨shared, fun _ => .outside⟩

section Step

variable {τ σ κ χ ι α : Type} [DecidableEq τ]

/-- A thread moves. -/
def SectionState.put (state : SectionState τ σ κ χ α) (thread : τ) (stage : SectionStage κ χ α) :
    SectionState τ σ κ χ α :=
  { state with stages := Function.update state.stages thread stage }

@[simp] theorem SectionState.put_shared (state : SectionState τ σ κ χ α) (thread : τ)
    (stage : SectionStage κ χ α) : (state.put thread stage).shared = state.shared := rfl

@[simp] theorem SectionState.put_stages_self (state : SectionState τ σ κ χ α) (thread : τ)
    (stage : SectionStage κ χ α) : (state.put thread stage).stages thread = stage :=
  Function.update_self _ _ _

theorem SectionState.put_stages_ne (state : SectionState τ σ κ χ α) {thread other : τ}
    (different : other ≠ thread) (stage : SectionStage κ χ α) :
    (state.put thread stage).stages other = state.stages other :=
  Function.update_of_ne different _ _

variable (S : Sections σ κ χ ι α)

/-- How a thread has the mutex. -/
def Sections.held : SectionStage κ χ α → Option LockMode
  | .inside call _ | .leaving call _ => some (S.mode call)
  | _ => none

/-- The mutex can be had. -/
def Sections.Free (state : SectionState τ σ κ χ α) (mode : LockMode) : Prop :=
  ∀ other, ∀ held ∈ S.held (state.stages other), mode.beside held = true

instance [Fintype τ] (state : SectionState τ σ κ χ α) (mode : LockMode) :
    Decidable (S.Free state mode) :=
  inferInstanceAs (Decidable (∀ _, _))

variable [Fintype τ]

/-- A step of a thread; what it returns is the output. -/
def Sections.step (state : SectionState τ σ κ χ α) :
    SectionEvent τ κ ι → Option (Option α × SectionState τ σ κ χ α)
  | .call thread call =>
      match state.stages thread with
      | .outside => some (none, state.put thread (.entering call))
      | _ => none
  | .decline thread =>
      match state.stages thread with
      | .entering call =>
          (S.early call).map fun answer => (some answer, state.put thread .outside)
      | _ => none
  | .lock thread =>
      match state.stages thread with
      | .entering call =>
          if (S.early call).isNone ∧ S.Free state (S.mode call) then
            some (none, state.put thread (.inside call (S.enter call)))
          else none
      | _ => none
  | .access thread input =>
      match state.stages thread with
      | .inside call locals =>
          match S.access state.shared call locals input with
          | none => none
          | some (shared, .inl locals) =>
              some (none, { state with shared }.put thread (.inside call locals))
          | some (shared, .inr answer) =>
              some (none, { state with shared }.put thread (.leaving call answer))
      | _ => none
  | .unlock thread =>
      match state.stages thread with
      | .leaving _ answer => some (some answer, state.put thread .outside)
      | _ => none

/-- What a step can do. -/
inductive Sections.Moves (state : SectionState τ σ κ χ α) :
    SectionEvent τ κ ι → Option α → SectionState τ σ κ χ α → Prop where
  | call {thread : τ} {call : κ} : state.stages thread = .outside →
      Moves state (.call thread call) none (state.put thread (.entering call))
  | decline {thread : τ} {call : κ} {answer : α} : state.stages thread = .entering call →
      S.early call = some answer →
      Moves state (.decline thread) (some answer) (state.put thread .outside)
  | lock {thread : τ} {call : κ} : state.stages thread = .entering call →
      S.early call = none → S.Free state (S.mode call) →
      Moves state (.lock thread) none (state.put thread (.inside call (S.enter call)))
  | goesOn {thread : τ} {call : κ} {locals locals' : χ} {input : ι} {shared : σ} :
      state.stages thread = .inside call locals →
      S.access state.shared call locals input = some (shared, .inl locals') →
      Moves state (.access thread input) none
        ({ state with shared }.put thread (.inside call locals'))
  | ends {thread : τ} {call : κ} {locals : χ} {input : ι} {shared : σ} {answer : α} :
      state.stages thread = .inside call locals →
      S.access state.shared call locals input = some (shared, .inr answer) →
      Moves state (.access thread input) none
        ({ state with shared }.put thread (.leaving call answer))
  | unlock {thread : τ} {call : κ} {answer : α} : state.stages thread = .leaving call answer →
      Moves state (.unlock thread) (some answer) (state.put thread .outside)

variable {S}

theorem Sections.moves_of_step {state next : SectionState τ σ κ χ α} {event : SectionEvent τ κ ι}
    {output : Option α} (taken : S.step state event = some (output, next)) :
    S.Moves state event output next := by
  cases event with
  | call thread call =>
      simp only [Sections.step] at taken
      split at taken
      next outside =>
        cases taken
        exact .call outside
      next => cases taken
  | decline thread =>
      simp only [Sections.step] at taken
      split at taken
      next call entering =>
        obtain ⟨answer, early, same⟩ := Option.map_eq_some_iff.mp taken
        cases same
        exact .decline entering early
      next => cases taken
  | lock thread =>
      simp only [Sections.step] at taken
      split at taken
      next call entering =>
        split_ifs at taken with free
        cases taken
        exact .lock entering (Option.isNone_iff_eq_none.mp free.1) free.2
      next => cases taken
  | access thread input =>
      simp only [Sections.step] at taken
      split at taken
      next call locals inside =>
        split at taken
        next => cases taken
        next shared locals' access =>
          cases taken
          exact .goesOn inside access
        next shared answer access =>
          cases taken
          exact .ends inside access
      next => cases taken
  | unlock thread =>
      simp only [Sections.step] at taken
      split at taken
      next call answer leaving =>
        cases taken
        exact .unlock leaving
      next => cases taken

end Step

section Runs

variable {τ σ κ χ ι α ω : Type} [DecidableEq τ] [Fintype τ] {S : Sections σ κ χ ι α}
  {state next : SectionState τ σ κ χ α} {event : SectionEvent τ κ ι} {output : Option α}
  {initial : σ}

/-! ### Who has the mutex -/

/-- Two threads have the mutex only if both have it shared. -/
def Sections.Disciplined (S : Sections σ κ χ ι α) (state : SectionState τ σ κ χ α) : Prop :=
  ∀ thread other, thread ≠ other → ∀ mine ∈ S.held (state.stages thread),
    ∀ theirs ∈ S.held (state.stages other), LockMode.beside mine theirs = true

theorem LockMode.beside_comm (mine theirs : LockMode) :
    mine.beside theirs = theirs.beside mine := by
  cases mine <;> cases theirs <;> rfl

theorem LockMode.beside_iff {mine theirs : LockMode} :
    mine.beside theirs = true ↔ mine = .shared ∧ theirs = .shared := by
  cases mine <;> cases theirs <;> decide

omit [Fintype τ] in
/-- A thread that moves, and has the mutex as it had it or comes to have it while it is free. -/
theorem Sections.Disciplined.put (disciplined : S.Disciplined state) {shared : σ} {thread : τ}
    {stage : SectionStage κ χ α}
    (kept : ∀ mode ∈ S.held stage, mode ∈ S.held (state.stages thread) ∨ S.Free state mode) :
    S.Disciplined ({ state with shared }.put thread stage) := by
  have besides (other : τ) (different : other ≠ thread) (mine : LockMode)
      (have' : mine ∈ S.held stage) (theirs : LockMode)
      (had : theirs ∈ S.held (state.stages other)) : mine.beside theirs = true := by
    rcases kept mine have' with before | free
    · exact disciplined thread other (Ne.symm different) mine before theirs had
    · exact free other theirs had
  intro first second different mine one theirs two
  by_cases own : first = thread
  · subst own
    rw [SectionState.put_stages_self] at one
    rw [SectionState.put_stages_ne _ (Ne.symm different)] at two
    exact besides second (Ne.symm different) mine one theirs two
  · rw [SectionState.put_stages_ne _ own] at one
    by_cases other : second = thread
    · subst other
      rw [SectionState.put_stages_self] at two
      rw [LockMode.beside_comm]
      exact besides first own theirs two mine one
    · rw [SectionState.put_stages_ne _ other] at two
      exact disciplined first second different mine one theirs two

theorem Sections.disciplined_step (taken : S.step state event = some (output, next))
    (disciplined : S.Disciplined state) : S.Disciplined next := by
  cases Sections.moves_of_step taken with
  | call _ => exact disciplined.put nofun
  | decline _ _ => exact disciplined.put nofun
  | lock _ _ free => exact disciplined.put fun mode held => .inr (Option.some.inj held ▸ free)
  | goesOn inside _ => exact disciplined.put fun mode held => .inl (by rw [inside]; exact held)
  | ends inside _ => exact disciplined.put fun mode held => .inl (by rw [inside]; exact held)
  | unlock _ => exact disciplined.put nofun

/-- **Exclusion**, along every run. -/
theorem Sections.disciplined
    {trace : List (Transition (SectionState τ σ κ χ α) (SectionEvent τ κ ι) (Option α))}
    (run : Run S.step (.start τ κ χ α initial) trace state) : S.Disciplined state :=
  run.invariant S.Disciplined (fun _ _ _ _ held => by cases held) Sections.disciplined_step

/-! ### Atomicity -/

abbrev SectionTurn (τ σ κ χ ι α : Type) :=
  Transition (SectionState τ σ κ χ α) (SectionEvent τ κ ι) (Option α)

/-- The operation a call turns out to be, once its section has taken all it takes from outside, and
the one it is when it returns without the mutex. -/
structure Labels (κ χ ι ω : Type) where
  ends : κ → χ → ι → ω
  early : κ → ω

/-- An operation that a call can turn out to be. -/
def Labels.Names (labels : Labels κ χ ι ω) (call : κ) (operation : ω) : Prop :=
  operation = labels.early call ∨ ∃ locals input, operation = labels.ends call locals input

/-- The thread, the operation and the answer, at the access that ends a section. -/
def Sections.commit (S : Sections σ κ χ ι α) (labels : Labels κ χ ι ω)
    (turn : SectionTurn τ σ κ χ ι α) : Option (τ × ω × α) :=
  match turn.event with
  | .access thread input =>
      match turn.before.stages thread with
      | .inside call locals =>
          match S.access turn.before.shared call locals input with
          | some (_, .inr answer) => some (thread, labels.ends call locals input, answer)
          | _ => none
      | _ => none
  | .decline thread =>
      match turn.before.stages thread with
      | .entering call => (S.early call).map fun answer => (thread, labels.early call, answer)
      | _ => none
  | _ => none

section Commit

variable {labels : Labels κ χ ι ω} {turn : SectionTurn τ σ κ χ ι α} {thread : τ} {call : κ}
  {locals locals' : χ} {input : ι} {shared : σ} {answer : α}

omit [DecidableEq τ] [Fintype τ]

theorem Sections.commit_goesOn (event : turn.event = .access thread input)
    (inside : turn.before.stages thread = .inside call locals)
    (access : S.access turn.before.shared call locals input = some (shared, .inl locals')) :
    S.commit labels turn = none := by
  simp only [Sections.commit, event, inside, access]

theorem Sections.commit_ends (event : turn.event = .access thread input)
    (inside : turn.before.stages thread = .inside call locals)
    (access : S.access turn.before.shared call locals input = some (shared, .inr answer)) :
    S.commit labels turn = some (thread, labels.ends call locals input, answer) := by
  simp only [Sections.commit, event, inside, access]

theorem Sections.commit_decline (event : turn.event = .decline thread)
    (entering : turn.before.stages thread = .entering call) (early : S.early call = some answer) :
    S.commit labels turn = some (thread, labels.early call, answer) := by
  simp only [Sections.commit, event, entering, early, Option.map_some]

end Commit

/-- **What makes sections atomic**, against a machine that makes a call in one step. -/
structure Sections.Atomic (S : Sections σ κ χ ι α) (labels : Labels κ χ ι ω)
    (atomic : σ → ω → Option (α × σ)) (progress : κ → σ → σ → χ → Prop) : Prop where
  early : ∀ {call answer}, S.early call = some answer →
    ∀ shared, atomic shared (labels.early call) = some (answer, shared)
  enters : ∀ {call}, S.early call = none → ∀ shared, progress call shared shared (S.enter call)
  reads : ∀ {call locals input shared next result}, S.mode call = .shared →
    S.access shared call locals input = some (next, result) → next = shared
  goesOn : ∀ {call start shared locals input next locals'}, progress call start shared locals →
    S.access shared call locals input = some (next, .inl locals') →
      progress call start next locals'
  ends : ∀ {call start shared locals input next answer}, progress call start shared locals →
    S.access shared call locals input = some (next, .inr answer) →
      atomic start (labels.ends call locals input) = some (answer, next)

/-- A state of the machine that makes calls in one step, beside the threads: it is what is shared,
but for what the one thread that may write has written so far. -/
structure Sections.Beside (S : Sections σ κ χ ι α) (progress : κ → σ → σ → χ → Prop)
    (state : SectionState τ σ κ χ α) (committed : σ) : Prop where
  inside : ∀ thread call locals, state.stages thread = .inside call locals →
    progress call committed state.shared locals
  settled : (∀ thread call locals, state.stages thread = .inside call locals →
    S.mode call = .shared) → state.shared = committed

section Beside

variable {progress : κ → σ → σ → χ → Prop} {committed : σ} {thread : τ}

omit [Fintype τ] in
/-- A thread moves, and is not in a section after it. -/
theorem Sections.Beside.put_outside (beside : S.Beside progress state committed)
    {stage : SectionStage κ χ α} (before : ∀ call locals, state.stages thread ≠ .inside call locals)
    (after : ∀ call locals, stage ≠ .inside call locals) :
    S.Beside progress (state.put thread stage) committed where
  inside other call locals there := by
    by_cases own : other = thread
    · subst own
      rw [SectionState.put_stages_self] at there
      exact absurd there (after call locals)
    · rw [SectionState.put_stages_ne _ own] at there
      exact beside.inside other call locals there
  settled readers := by
    refine beside.settled fun other call locals there => readers other call locals ?_
    have own : other ≠ thread := fun same => before call locals (same ▸ there)
    rwa [SectionState.put_stages_ne _ own]

omit [DecidableEq τ] [Fintype τ] in
/-- Where the mutex can be had, nothing is half written. -/
theorem Sections.Beside.settled_of_free (beside : S.Beside progress state committed)
    {mode : LockMode} (free : S.Free state mode) : state.shared = committed := by
  refine beside.settled fun other call locals there => ?_
  exact (LockMode.beside_iff.mp (free other (S.mode call) (by rw [there]; rfl))).2

omit [Fintype τ] in
/-- In a section under the shared mutex nothing is half written either. -/
theorem Sections.Beside.settled_of_shared (beside : S.Beside progress state committed)
    (disciplined : S.Disciplined state) {call : κ} {locals : χ}
    (inside : state.stages thread = .inside call locals) (mode : S.mode call = .shared) :
    state.shared = committed := by
  refine beside.settled fun other called locals' there => ?_
  by_cases own : other = thread
  · subst own
    cases inside.symm.trans there
    exact mode
  · have both := disciplined thread other (Ne.symm own) (S.mode call) (by rw [inside]; rfl)
      (S.mode called) (by rw [there]; rfl)
    exact (LockMode.beside_iff.mp both).2

omit [DecidableEq τ] [Fintype τ] in
/-- A thread in a section under the exclusive mutex is in it alone. -/
theorem Sections.Disciplined.alone (disciplined : S.Disciplined state) {call called : κ}
    {locals locals' : χ} {other : τ} (inside : state.stages thread = .inside call locals)
    (mode : S.mode call = .exclusive) (there : state.stages other = .inside called locals') :
    other = thread := by
  by_contra different
  have both := disciplined thread other (Ne.symm different) (S.mode call) (by rw [inside]; rfl)
    (S.mode called) (by rw [there]; rfl)
  rw [(LockMode.beside_iff.mp both).1] at mode
  cases mode

end Beside

section Linearizable

variable {labels : Labels κ χ ι ω} {atomic : σ → ω → Option (α × σ)}
  {progress : κ → σ → σ → χ → Prop} {committed : σ}

omit [Fintype τ] in
theorem Sections.Beside.lock (rule : S.Atomic labels atomic progress)
    (beside : S.Beside progress state committed) {thread : τ} {call : κ}
    (entering : state.stages thread = .entering call) (early : S.early call = none)
    (free : S.Free state (S.mode call)) :
    S.Beside progress (state.put thread (.inside call (S.enter call))) committed where
  inside other called locals there := by
    by_cases own : other = thread
    · subst own
      rw [SectionState.put_stages_self] at there
      cases there
      rw [SectionState.put_shared, beside.settled_of_free free]
      exact rule.enters early committed
    · rw [SectionState.put_stages_ne _ own] at there
      exact beside.inside other called locals there
  settled _ := beside.settled_of_free free

omit [Fintype τ] in
/-- **An access in the middle of a section.** -/
theorem Sections.Beside.goesOn (rule : S.Atomic labels atomic progress)
    (disciplined : S.Disciplined state) (beside : S.Beside progress state committed) {thread : τ}
    {call : κ} {locals locals' : χ} {input : ι} {shared : σ}
    (inside : state.stages thread = .inside call locals)
    (access : S.access state.shared call locals input = some (shared, .inl locals')) :
    S.Beside progress ({ state with shared }.put thread (.inside call locals')) committed where
  inside other called others there := by
    by_cases own : other = thread
    · subst own
      rw [SectionState.put_stages_self] at there
      cases there
      exact rule.goesOn (beside.inside other call locals inside) access
    · rw [SectionState.put_stages_ne _ own] at there
      cases mode : S.mode call with
      | shared =>
          rw [SectionState.put_shared, rule.reads mode access]
          exact beside.inside other called others there
      | exclusive => exact absurd (disciplined.alone inside mode there) own
  settled readers := by
    have mode : S.mode call = .shared :=
      readers thread call locals' (SectionState.put_stages_self _ _ _)
    rw [SectionState.put_shared, rule.reads mode access]
    exact beside.settled_of_shared disciplined inside mode

omit [Fintype τ] in
/-- **The access that ends a section**: the call is made, in one step, in the state beside. -/
theorem Sections.Beside.ends (rule : S.Atomic labels atomic progress)
    (disciplined : S.Disciplined state) (beside : S.Beside progress state committed) {thread : τ}
    {call : κ} {locals : χ} {input : ι} {shared : σ} {answer : α}
    (inside : state.stages thread = .inside call locals)
    (access : S.access state.shared call locals input = some (shared, .inr answer)) :
    atomic committed (labels.ends call locals input) = some (answer, shared) ∧
      S.Beside progress ({ state with shared }.put thread (.leaving call answer)) shared := by
  refine ⟨rule.ends (beside.inside thread call locals inside) access, ?_, fun _ => rfl⟩
  intro other called others there
  have own : other ≠ thread := by
    rintro rfl
    rw [SectionState.put_stages_self] at there
    cases there
  rw [SectionState.put_stages_ne _ own] at there
  cases mode : S.mode call with
  | shared =>
      have same := rule.reads mode access
      have kept := beside.inside other called others there
      rw [← beside.settled_of_shared disciplined inside mode, ← same] at kept
      exact kept
  | exclusive => exact absurd (disciplined.alone inside mode there) own

/-- **A step of a thread is a call made in one step, or none.** -/
theorem Sections.Beside.step (rule : S.Atomic labels atomic progress)
    (disciplined : S.Disciplined state) (beside : S.Beside progress state committed)
    (taken : S.step state event = some (output, next)) :
    (S.commit labels ⟨state, event, output, next⟩ = none ∧ S.Beside progress next committed) ∨
    ∃ thread operation answer after,
      S.commit labels ⟨state, event, output, next⟩ = some (thread, operation, answer) ∧
      atomic committed operation = some (answer, after) ∧ S.Beside progress next after := by
  cases Sections.moves_of_step taken with
  | call outside => exact .inl ⟨rfl, beside.put_outside (by simp [outside]) nofun⟩
  | @decline thread call answer entering early =>
      exact .inr ⟨thread, _, answer, committed, Sections.commit_decline rfl entering early,
        rule.early early committed, beside.put_outside (by simp [entering]) nofun⟩
  | lock entering early free => exact .inl ⟨rfl, beside.lock rule entering early free⟩
  | goesOn inside access =>
      exact .inl ⟨Sections.commit_goesOn rfl inside access,
        beside.goesOn rule disciplined inside access⟩
  | @ends thread call locals input shared answer inside access =>
      obtain ⟨made, after⟩ := beside.ends rule disciplined inside access
      exact .inr ⟨thread, _, answer, shared, Sections.commit_ends rfl inside access, made, after⟩
  | unlock leaving => exact .inl ⟨rfl, beside.put_outside (by simp [leaving]) nofun⟩

/-- **Linearizability.** The calls, in the order of the accesses that end their sections, are a run
of the machine that makes each in one step, with the answers they had. -/
theorem Sections.linearizable (rule : S.Atomic labels atomic progress)
    {trace : List (SectionTurn τ σ κ χ ι α)}
    (run : Run S.step (.start τ κ χ α initial) trace state) :
    ∃ calls committed, Run atomic initial calls committed ∧ S.Beside progress state committed ∧
      calls.map (fun call => (call.event, call.output)) =
        (trace.filterMap (S.commit labels)).map Prod.snd := by
  have every : ∀ turn ∈ trace, S.Disciplined turn.before := fun turn member => by
    obtain ⟨earlier, later, rfl⟩ := List.append_of_mem member
    exact Sections.disciplined run.cut.1
  have start : S.Beside progress (.start τ κ χ α initial) initial := ⟨nofun, fun _ => rfl⟩
  obtain ⟨calls, finish, ran, beside, -, answers⟩ : ∃ calls finish,
      Run atomic initial calls finish ∧ S.Beside progress state finish ∧
        calls.map Transition.event =
          trace.filterMap (fun turn => (S.commit labels turn).map fun done => done.2.1) ∧
        calls.filterMap (fun call => some (call.event, call.output)) =
          trace.filterMap (fun turn => (S.commit labels turn).map Prod.snd) := by
    refine Run.simulate (S.Beside progress) (fun turn => S.Disciplined turn.before)
      (fun turn => (S.commit labels turn).map fun done => done.2.1)
      (fun turn => (S.commit labels turn).map Prod.snd)
      (fun call => some (call.event, call.output)) ?_ ?_ start run every
    · intro turn committed taken disciplined beside still
      rcases beside.step rule disciplined taken with ⟨silent, kept⟩ | ⟨_, _, _, _, moved, -⟩
      · exact ⟨by rw [silent]; rfl, kept⟩
      · rw [moved] at still
        cases still
    · intro turn committed operation taken disciplined beside moved
      rcases beside.step rule disciplined taken with ⟨silent, -⟩ |
        ⟨thread, made, answer, after, commit, done, kept⟩
      · rw [silent] at moved
        cases moved
      · rw [commit] at moved
        cases moved
        exact ⟨answer, after, done, by rw [commit]; rfl, kept⟩
  refine ⟨calls, finish, ran, beside, ?_⟩
  rw [List.map_filterMap, ← answers, List.filterMap_eq_map']

/-! ### The order is one of real time -/

/-- The call a thread begins. -/
def SectionTurn.callOf (thread : τ) (turn : SectionTurn τ σ κ χ ι α) : Option κ :=
  match turn.event with
  | .call other call => if other = thread then some call else none
  | _ => none

/-- The answer a step fixes for a thread. -/
def Sections.answerOf (S : Sections σ κ χ ι α) (labels : Labels κ χ ι ω) (thread : τ)
    (turn : SectionTurn τ σ κ χ ι α) : Option (ω × α) :=
  (S.commit labels turn).bind fun done => if done.1 = thread then some done.2 else none

/-- What a thread has done since it called: nothing is fixed before the access that ends its
section, and from then on the answer is. -/
def Sections.Since (S : Sections σ κ χ ι α) (labels : Labels κ χ ι ω)
    (trace : List (SectionTurn τ σ κ χ ι α)) (thread : τ) : SectionStage κ χ α → Prop
  | .outside => True
  | .entering call | .inside call _ => ∃ since,
      lastHit (SectionTurn.callOf thread) trace = some (call, since) ∧
        since.filterMap (S.answerOf labels thread) = []
  | .leaving call answer => ∃ since operation,
      lastHit (SectionTurn.callOf thread) trace = some (call, since) ∧
        labels.Names call operation ∧
        since.filterMap (S.answerOf labels thread) = [(operation, answer)]

omit [Fintype τ] in
/-- A step that neither begins a call of a thread nor fixes an answer for it. -/
theorem Sections.Since.snoc {trace : List (SectionTurn τ σ κ χ ι α)} {thread : τ}
    {stage : SectionStage κ χ α} {turn : SectionTurn τ σ κ χ ι α}
    (since : S.Since labels trace thread stage)
    (silent : turn.callOf thread = none) (unfixed : S.answerOf labels thread turn = none) :
    S.Since labels (trace ++ [turn]) thread stage := by
  have same (rest : List (SectionTurn τ σ κ χ ι α)) :
      (rest ++ [turn]).filterMap (S.answerOf labels thread) =
        rest.filterMap (S.answerOf labels thread) := by
    rw [filterMap_concat, unfixed, Option.toList_none, List.append_nil]
  cases stage with
  | outside => trivial
  | entering call =>
      obtain ⟨rest, last, none⟩ := since
      exact ⟨rest ++ [turn], lastHit_grows last silent, (same rest).trans none⟩
  | inside call locals =>
      obtain ⟨rest, last, none⟩ := since
      exact ⟨rest ++ [turn], lastHit_grows last silent, (same rest).trans none⟩
  | leaving call answer =>
      obtain ⟨rest, operation, last, named, one⟩ := since
      exact ⟨rest ++ [turn], operation, lastHit_grows last silent, named, (same rest).trans one⟩

omit [DecidableEq τ] [Fintype τ] in
/-- The thread a step fixes an answer for is the one that takes it. -/
theorem Sections.commit_thread {turn : SectionTurn τ σ κ χ ι α} {done : τ × ω × α}
    (commit : S.commit labels turn = some done) :
    (∃ input, turn.event = .access done.1 input) ∨ turn.event = .decline done.1 := by
  unfold Sections.commit at commit
  split at commit
  next thread input event =>
    split at commit
    next call locals inside =>
      split at commit
      next answer access =>
        cases commit
        exact .inl ⟨input, event⟩
      next => cases commit
    next => cases commit
  next thread event =>
    split at commit
    next call entering =>
      obtain ⟨answer, -, rfl⟩ := Option.map_eq_some_iff.mp commit
      exact .inr event
    next => cases commit
  next => cases commit

/-- The thread that takes a step. -/
def SectionEvent.thread : SectionEvent τ κ ι → τ
  | .call thread _ | .decline thread | .lock thread | .access thread _ | .unlock thread => thread

omit [Fintype τ] in
theorem Sections.answerOf_other {turn : SectionTurn τ σ κ χ ι α} {thread : τ}
    (other : turn.event.thread ≠ thread) : S.answerOf labels thread turn = none := by
  unfold Sections.answerOf
  cases commit : S.commit labels turn with
  | none => rfl
  | some done =>
      have same : turn.event.thread = done.1 := by
        rcases Sections.commit_thread commit with ⟨input, event⟩ | event <;> rw [event] <;> rfl
      exact if_neg (same ▸ other)

omit [Fintype τ] in
theorem SectionTurn.callOf_other {turn : SectionTurn τ σ κ χ ι α} {thread : τ}
    (other : turn.event.thread ≠ thread) : turn.callOf thread = none := by
  obtain ⟨before, event, output, after⟩ := turn
  cases event with
  | call caller call => exact if_neg other
  | _ => rfl

/-- The step of another thread leaves a thread where it is. -/
theorem Sections.stages_other (taken : S.step state event = some (output, next)) {thread : τ}
    (other : event.thread ≠ thread) : next.stages thread = state.stages thread := by
  cases Sections.moves_of_step taken <;> exact SectionState.put_stages_ne _ (Ne.symm other) _

/-- **A step of the thread itself**: each begins, fixes or ends something. -/
theorem Sections.Since.own {trace : List (SectionTurn τ σ κ χ ι α)} {thread : τ}
    (since : S.Since labels trace thread (state.stages thread))
    (taken : S.step state event = some (output, next)) (own : event.thread = thread) :
    S.Since labels (trace ++ [⟨state, event, output, next⟩]) thread (next.stages thread) := by
  cases Sections.moves_of_step taken with
  | @call caller call outside =>
      obtain rfl : caller = thread := own
      rw [SectionState.put_stages_self]
      refine ⟨[], ?_, rfl⟩
      simp only [lastHit_concat, SectionTurn.callOf, if_true]
  | @decline caller call answer entering early =>
      obtain rfl : caller = thread := own
      rw [SectionState.put_stages_self]
      trivial
  | @lock caller call entering early free =>
      obtain rfl : caller = thread := own
      rw [entering] at since
      rw [SectionState.put_stages_self]
      have inside : S.Since labels trace caller (.inside call (S.enter call)) := since
      exact inside.snoc rfl rfl
  | @goesOn caller call locals locals' input shared inside access =>
      obtain rfl : caller = thread := own
      rw [inside] at since
      rw [SectionState.put_stages_self]
      have still : S.Since labels trace caller (.inside call locals') := since
      refine still.snoc rfl ?_
      rw [Sections.answerOf, Sections.commit_goesOn rfl inside access]
      rfl
  | @ends caller call locals input shared answer inside access =>
      obtain rfl : caller = thread := own
      rw [inside] at since
      rw [SectionState.put_stages_self]
      obtain ⟨rest, last, unfixed⟩ := since
      refine ⟨_, labels.ends call locals input, lastHit_grows last rfl, .inr ⟨_, _, rfl⟩, ?_⟩
      rw [filterMap_concat, unfixed, Sections.answerOf, Sections.commit_ends rfl inside access]
      exact congrArg Option.toList (if_pos rfl)
  | @unlock caller call answer leaving =>
      obtain rfl : caller = thread := own
      rw [SectionState.put_stages_self]
      trivial

/-- **What has happened since a thread called**, along every run. -/
theorem Sections.since_of_run {trace : List (SectionTurn τ σ κ χ ι α)}
    (run : Run S.step (.start τ κ χ α initial) trace state) (thread : τ) :
    S.Since labels trace thread (state.stages thread) := by
  induction run with
  | nil => trivial
  | @snoc trace state next event output _ taken ih =>
      by_cases own : event.thread = thread
      · exact ih.own taken own
      · rw [Sections.stages_other taken own]
        exact ih.snoc (SectionTurn.callOf_other own) (Sections.answerOf_other own)

/-- **An answer is fixed between the call and the return.** Whenever a thread returns, exactly one
step since it called fixed an answer for it, to an operation that the call can be, and it is the one
that is returned; without the mutex it is the step of the return itself. -/
theorem Sections.returned_commit (labels : Labels κ χ ι ω)
    {trace : List (SectionTurn τ σ κ χ ι α)}
    (before : Run S.step (.start τ κ χ α initial) trace state)
    (taken : S.step state event = some (output, next)) {answer : α}
    (returned : output = some answer) :
    ∃ call since operation,
      lastHit (SectionTurn.callOf event.thread) trace = some (call, since) ∧
      labels.Names call operation ∧
      List.filterMap (S.answerOf labels event.thread) (since ++ [⟨state, event, output, next⟩]) =
        [(operation, answer)] := by
  generalize own : event.thread = thread
  have since : S.Since labels trace thread (state.stages thread) :=
    Sections.since_of_run before thread
  cases Sections.moves_of_step taken with
  | @decline caller call answer entering early =>
      obtain rfl : caller = thread := own
      cases returned
      rw [entering] at since
      obtain ⟨rest, last, none⟩ := since
      refine ⟨call, rest, labels.early call, last, .inl rfl, ?_⟩
      rw [filterMap_concat, none, Sections.answerOf, Sections.commit_decline rfl entering early]
      exact congrArg Option.toList (if_pos rfl)
  | @unlock caller call answer leaving =>
      obtain rfl : caller = thread := own
      cases returned
      rw [leaving] at since
      obtain ⟨rest, operation, last, named, one⟩ := since
      refine ⟨call, rest, operation, last, named, ?_⟩
      rw [filterMap_concat, one]
      rfl
  | _ => cases returned

end Linearizable

end Runs

end ExodusOps
