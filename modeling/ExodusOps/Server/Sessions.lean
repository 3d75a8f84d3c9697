/-
**Session ids.**

`SessionManager::nextSessionId` draws a number with `fetch_add` and writes it with sixteen
hexadecimal digits. Any number of threads are in it at once: between its `fetch_add` and its return
a thread holds the number it has drawn, and others draw and return in any order. `fetch_add` is the
only access to the counter, so that, relaxed as it is, the draws take effect one after the other.

* `sessionIdText_eq_setw` — the text is what `std::hex`, `std::setfill` and `std::setw` write.
* `sessionIdText_lt_iff` — **the texts are in the order of the numbers**, over all 64 bits.
* `SessionCall.sessionId_eq` — **one call**: it returns the number of the draws up to its own.
* `sessionIds_unique_ordered` — **all calls**: no two return the same text, and the texts are in the
  order of the draws, whatever the order of the returns.
* `World.sessionIds_eq` — the connections of the server have the numbers 1, 2, 3, …
-/

import ExodusOps.Lib.Radix
import ExodusOps.Server.World

namespace ExodusOps

/-! ### The text -/

/-- A number of 64 bits has sixteen digits. -/
theorem toNat_lt_hex (id : UInt64) : id.toNat < 16 ^ 16 := id.toNat_lt

theorem sessionIdText_eq (id : UInt64) :
    sessionIdText id = (fixedDigits 16 16 id.toNat).map hexByte := by
  rw [← encode_digits (fixedDigits_lt (by decide)), fixedDigits_eq_map, List.map_map]
  rfl

/-- **The stream's manipulators**: the digits of the number, filled up with `0` to sixteen. -/
theorem sessionIdText_eq_setw (id : UInt64) :
    sessionIdText id =
      ((Nat.toDigits 16 id.toNat).leftpad 16 '0').flatMap String.utf8EncodeChar := by
  rw [leftpad_toDigits (by decide) (by decide) (toNat_lt_hex id),
    encode_digits (fixedDigits_lt (by decide)), sessionIdText_eq]

@[simp] theorem sessionIdText_length (id : UInt64) : (sessionIdText id).length = 16 := by
  rw [sessionIdText_eq, List.length_map, fixedDigits_length]

theorem sessionIdText_digits (id : UInt64) :
    ∀ byte ∈ sessionIdText id, isHexDigit byte = true := by
  rw [sessionIdText_eq]
  exact isHexDigit_of_mem_map (fixedDigits_lt (by decide))

/-- **Texts and numbers are in the same order.** -/
theorem sessionIdText_lt_iff {id other : UInt64} :
    sessionIdText id < sessionIdText other ↔ id < other := by
  rw [sessionIdText_eq, sessionIdText_eq,
    map_fixedDigits_lt_iff (by decide) hexByte_glyphs (toNat_lt_hex id) (toNat_lt_hex other),
    UInt64.lt_iff_toNat_lt]

/-! ### The counter -/

/-- `SessionManager`, with what the threads in `nextSessionId` have drawn. -/
structure Sessions (τ : Type) where
  sessionCounter : UInt64
  drawn : τ → Option UInt64

def Sessions.start (τ : Type) : Sessions τ := ⟨0, fun _ => none⟩

inductive SessionEvent (τ : Type) where
  /-- A thread calls `nextSessionId`, and its `fetch_add` takes effect. -/
  | fetchAdd (thread : τ)
  /-- It returns the text. -/
  | returns (thread : τ)

def SessionEvent.thread {τ : Type} : SessionEvent τ → τ
  | .fetchAdd thread => thread
  | .returns thread => thread

def SessionEvent.draws {τ : Type} : SessionEvent τ → Bool
  | .fetchAdd _ => true
  | .returns _ => false

section Steps

variable {τ : Type} [DecidableEq τ]

/-- A step of `nextSessionId`. -/
def nextSessionId (state : Sessions τ) : SessionEvent τ → Option (Option Bytes × Sessions τ)
  | .fetchAdd thread =>
      match state.drawn thread with
      | some _ => none
      | none =>
          let id := state.sessionCounter + 1
          some (none, ⟨id, Function.update state.drawn thread (some id)⟩)
  | .returns thread =>
      match state.drawn thread with
      | none => none
      | some id =>
          some (some (sessionIdText id),
            { state with drawn := Function.update state.drawn thread none })

variable {state next : Sessions τ} {thread : τ} {output : Option Bytes}

theorem nextSessionId_fetchAdd_iff :
    nextSessionId state (.fetchAdd thread) = some (output, next) ↔
      state.drawn thread = none ∧ output = none ∧ next = ⟨state.sessionCounter + 1,
        Function.update state.drawn thread (some (state.sessionCounter + 1))⟩ := by
  cases held : state.drawn thread <;> simp [nextSessionId, held, eq_comm]

theorem nextSessionId_returns_iff :
    nextSessionId state (.returns thread) = some (output, next) ↔
      ∃ id, state.drawn thread = some id ∧ output = some (sessionIdText id) ∧
        next = { state with drawn := Function.update state.drawn thread none } := by
  cases held : state.drawn thread <;> simp [nextSessionId, held, eq_comm]

/-- What a thread has drawn is not touched by the others. -/
theorem drawn_frame {event : SessionEvent τ}
    (taken : nextSessionId state event = some (output, next)) (other : event.thread ≠ thread) :
    next.drawn thread = state.drawn thread := by
  cases event with
  | fetchAdd own =>
      obtain ⟨-, -, rfl⟩ := nextSessionId_fetchAdd_iff.mp taken
      exact Function.update_of_ne (Ne.symm other) _ _
  | returns own =>
      obtain ⟨_, -, -, rfl⟩ := nextSessionId_returns_iff.mp taken
      exact Function.update_of_ne (Ne.symm other) _ _

end Steps

/-! ### Calls -/

abbrev SessionTurn (τ : Type) := Transition (Sessions τ) (SessionEvent τ) (Option Bytes)

section Calls

variable {τ : Type} {trace : List (SessionTurn τ)}

/-- How many draws there have been. -/
def drawCount (trace : List (SessionTurn τ)) : Nat := trace.countP fun turn => turn.event.draws

/-- **A call** of `nextSessionId` in a run: a thread draws, does nothing else until it returns, and
returns a text. -/
structure SessionCall (trace : List (SessionTurn τ)) where
  thread : τ
  before : List (SessionTurn τ)
  fetch : SessionTurn τ
  between : List (SessionTurn τ)
  back : SessionTurn τ
  after : List (SessionTurn τ)
  sessionId : Bytes
  split : trace = before ++ fetch :: (between ++ back :: after)
  draws : fetch.event = .fetchAdd thread
  others : ∀ turn ∈ between, turn.event.thread ≠ thread
  returns : back.event = .returns thread
  output : back.output = some sessionId

namespace SessionCall

/-- When its `fetch_add` took effect. -/
def drawnAt (call : SessionCall trace) : Nat := call.before.length

/-- When it returned. -/
def returnedAt (call : SessionCall trace) : Nat := call.before.length + 1 + call.between.length

theorem drew (call : SessionCall trace) : call.before ++ [call.fetch] <+: trace :=
  ⟨call.between ++ call.back :: call.after, by simp [← call.split]⟩

theorem drawCount_fetch (call : SessionCall trace) :
    drawCount (call.before ++ [call.fetch]) = drawCount call.before + 1 := by
  rw [drawCount, List.countP_append, List.countP_singleton, call.draws]
  rfl

/-- A call that draws later has more draws before it. -/
theorem drawCount_lt {first second : SessionCall trace} (earlier : first.drawnAt < second.drawnAt) :
    drawCount first.before < drawCount second.before := by
  have one := first.drew
  have two : second.before <+: trace := ⟨_, second.split.symm⟩
  have longer : (first.before ++ [first.fetch]).length ≤ second.before.length := by
    rw [List.length_append, List.length_singleton]
    exact earlier
  rw [Nat.lt_iff_add_one_le, ← first.drawCount_fetch]
  exact (List.prefix_of_prefix_length_le one two longer).sublist.countP_le

theorem before_eq {first second : SessionCall trace} (same : first.drawnAt = second.drawnAt) :
    first.before = second.before ∧
      first.fetch :: (first.between ++ first.back :: first.after) =
        second.fetch :: (second.between ++ second.back :: second.after) :=
  List.append_inj (first.split.symm.trans second.split) same

theorem drawCount_lt_iff {first second : SessionCall trace} :
    drawCount first.before < drawCount second.before ↔ first.drawnAt < second.drawnAt := by
  refine ⟨fun fewer => ?_, drawCount_lt⟩
  rcases Nat.lt_trichotomy first.drawnAt second.drawnAt with less | same | greater
  · exact less
  · rw [(before_eq same).1] at fewer
    exact absurd fewer (Nat.lt_irrefl _)
  · exact absurd fewer (Nat.lt_asymm (drawCount_lt greater))

theorem drawCount_before (call : SessionCall trace) :
    drawCount call.before + 1 ≤ drawCount trace := by
  rw [← call.drawCount_fetch]
  exact call.drew.sublist.countP_le

/-- A thread that draws is not seen again before it returns. -/
theorem between_le {first second : SessionCall trace} (same : first.drawnAt = second.drawnAt) :
    second.between.length ≤ first.between.length := by
  obtain ⟨fetch, tails⟩ := List.cons.inj (before_eq same).2
  have thread : first.thread = second.thread := by
    have draws := first.draws
    rw [fetch, second.draws] at draws
    exact (SessionEvent.fetchAdd.inj draws).symm
  by_contra longer
  have inside : second.between[first.between.length]? = some first.back := by
    rw [← List.getElem?_append_left (Nat.lt_of_not_le longer), ← tails]
    simp
  refine second.others first.back (List.mem_of_getElem? inside) ?_
  rw [first.returns, ← thread]
  rfl

/-- Calls that draw at the same time are one call. -/
theorem returnedAt_eq {first second : SessionCall trace} (same : first.drawnAt = second.drawnAt) :
    first.returnedAt = second.returnedAt := by
  have between := Nat.le_antisymm (between_le same.symm) (between_le same)
  rw [returnedAt, returnedAt, between, (before_eq same).1]

end SessionCall

end Calls

/-! ### Runs -/

section Runs

variable {τ : Type} [DecidableEq τ] {trace : List (SessionTurn τ)} {start state : Sessions τ}

/-- **The counter** counts the draws. -/
theorem sessionCounter_eq (run : Run nextSessionId (.start τ) trace state) :
    state.sessionCounter = UInt64.ofNat (drawCount trace) := by
  induction run with
  | nil => rfl
  | @snoc trace state next event output _ taken ih =>
      rw [drawCount, List.countP_append, ← drawCount]
      cases event with
      | fetchAdd thread =>
          obtain ⟨-, -, rfl⟩ := nextSessionId_fetchAdd_iff.mp taken
          show state.sessionCounter + 1 = _
          rw [ih]
          exact (UInt64.ofNat_add _ _).symm
      | returns thread =>
          obtain ⟨_, -, -, rfl⟩ := nextSessionId_returns_iff.mp taken
          exact ih

theorem drawn_kept (run : Run nextSessionId start trace state) {thread : τ}
    (others : ∀ turn ∈ trace, turn.event.thread ≠ thread) :
    state.drawn thread = start.drawn thread := by
  induction run with
  | nil => rfl
  | snoc _ taken ih =>
      obtain ⟨earlier, last⟩ := List.forall_mem_append.mp others
      rw [drawn_frame taken (last _ (List.mem_singleton_self _)), ih earlier]

/-- **What a call returns**: the number of its draw. -/
theorem SessionCall.sessionId_eq (run : Run nextSessionId (.start τ) trace state)
    (call : SessionCall trace) :
    call.sessionId = sessionIdText (UInt64.ofNat (drawCount call.before + 1)) := by
  obtain ⟨thread, before, fetch, between, back, after, sessionId, rfl, draws, others, returns,
    output⟩ := call
  obtain ⟨previous, drew, rest⟩ := run.cut
  obtain ⟨waiting, came, -⟩ := rest.cut
  have kept := drawn_kept waiting others
  rw [draws] at drew
  rw [returns, output] at came
  obtain ⟨-, -, drawn⟩ := nextSessionId_fetchAdd_iff.mp drew
  obtain ⟨id, held, text, -⟩ := nextSessionId_returns_iff.mp came
  -- what it returns is what it has drawn
  have number : some (fetch.before.sessionCounter + 1) = some id := by
    rw [← held, kept, drawn]
    simp
  show sessionId = sessionIdText (UInt64.ofNat (drawCount before + 1))
  rw [Option.some.inj text, ← Option.some.inj number, sessionCounter_eq previous,
    UInt64.ofNat_add]
  rfl

/-- A thread that holds a number has drawn it and done nothing since. -/
theorem drew_of_drawn (run : Run nextSessionId (.start τ) trace state) {thread : τ} {id : UInt64}
    (holds : state.drawn thread = some id) :
    ∃ before fetch between, trace = before ++ fetch :: between ∧
      fetch.event = .fetchAdd thread ∧ ∀ turn ∈ between, turn.event.thread ≠ thread := by
  induction run with
  | nil => cases holds
  | @snoc trace state next event output previous taken ih =>
      by_cases own : event.thread = thread
      · cases event with
        | fetchAdd own' =>
            cases own
            exact ⟨trace, _, [], rfl, rfl, List.forall_mem_nil _⟩
        | returns own' =>
            obtain ⟨_, -, -, rfl⟩ := nextSessionId_returns_iff.mp taken
            cases own
            exact absurd (holds.symm.trans (Function.update_self _ _ _)) nofun
      · rw [drawn_frame taken own] at holds
        obtain ⟨before, fetch, between, rfl, draws, others⟩ := ih holds
        refine ⟨before, fetch, between ++ [_], by rw [List.append_assoc, List.cons_append], draws,
          List.forall_mem_append.mpr ⟨others, ?_⟩⟩
        rintro turn (_ | ⟨_, ⟨⟩⟩)
        exact own

/-- **Every text returned belongs to a call.** -/
theorem exists_call (run : Run nextSessionId (.start τ) trace state)
    {earlier later : List (SessionTurn τ)} {turn : SessionTurn τ} {sessionId : Bytes}
    (split : trace = earlier ++ turn :: later) (output : turn.output = some sessionId) :
    ∃ call : SessionCall trace, call.returnedAt = earlier.length ∧
      call.sessionId = sessionId := by
  subst split
  obtain ⟨previous, taken, -⟩ := run.cut
  cases returns : turn.event with
  | fetchAdd thread =>
      rw [returns, output] at taken
      obtain ⟨-, absent, -⟩ := nextSessionId_fetchAdd_iff.mp taken
      cases absent
  | returns thread =>
      rw [returns] at taken
      obtain ⟨id, holds, -⟩ := nextSessionId_returns_iff.mp taken
      obtain ⟨before, fetch, between, rfl, draws, others⟩ := drew_of_drawn previous holds
      refine ⟨⟨thread, before, fetch, between, turn, later, sessionId, ?_, draws, others, returns,
        output⟩, ?_, rfl⟩
      · rw [List.append_assoc, List.cons_append]
      · show before.length + 1 + between.length = _
        rw [List.length_append, List.length_cons]
        omega

/-- **Session ids are unique and ordered.** For any threads, in any interleaving with fewer than
2⁶⁴ calls: every text returned has sixteen hexadecimal digits, no two are the same, and they are in
the order in which the calls drew their numbers. -/
theorem sessionIds_unique_ordered (run : Run nextSessionId (.start τ) trace state)
    (few : drawCount trace < 2 ^ 64) :
    (∀ earlier turn later sessionId, trace = earlier ++ turn :: later →
      turn.output = some sessionId →
      sessionId.length = 16 ∧ (∀ byte ∈ sessionId, isHexDigit byte = true) ∧
        ∃ call : SessionCall trace, call.returnedAt = earlier.length ∧
          call.sessionId = sessionId) ∧
    (trace.filterMap Transition.output).Nodup ∧
    ∀ first second : SessionCall trace,
      first.sessionId < second.sessionId ↔ first.drawnAt < second.drawnAt := by
  have ordered (first second : SessionCall trace) :
      first.sessionId < second.sessionId ↔ first.drawnAt < second.drawnAt := by
    have one := first.drawCount_before
    have two := second.drawCount_before
    rw [first.sessionId_eq run, second.sessionId_eq run, sessionIdText_lt_iff,
      UInt64.lt_iff_toNat_lt, UInt64.toNat_ofNat_of_lt' (Nat.lt_of_le_of_lt one few),
      UInt64.toNat_ofNat_of_lt' (Nat.lt_of_le_of_lt two few), Nat.add_lt_add_iff_right,
      SessionCall.drawCount_lt_iff]
  refine ⟨fun earlier turn later sessionId split output => ?_, ?_, ordered⟩
  · obtain ⟨call, returned, rfl⟩ := exists_call run split output
    have text := call.sessionId_eq run
    refine ⟨?_, ?_, call, returned, rfl⟩
    · rw [text, sessionIdText_length]
    · rw [text]
      exact sessionIdText_digits _
  · rw [List.Nodup, List.pairwise_filterMap, List.pairwise_iff_getElem]
    intro i j below below' less text output text' output' same
    have split (k : Nat) (inside : k < trace.length) :
        trace = trace.take k ++ (trace)[k] :: trace.drop (k + 1) := by
      rw [← List.drop_eq_getElem_cons inside, List.take_append_drop]
    obtain ⟨first, here, rfl⟩ := exists_call run (split i below) output
    obtain ⟨second, here', rfl⟩ := exists_call run (split j below') output'
    rw [List.length_take_of_le (Nat.le_of_lt below)] at here
    rw [List.length_take_of_le (Nat.le_of_lt below')] at here'
    -- equal texts were drawn at the same time, and so returned at the same time
    have not_less (one two : SessionCall trace) (same : one.sessionId = two.sessionId) :
        ¬one.drawnAt < two.drawnAt := fun earlier => by
      have less := (ordered one two).mpr earlier
      rw [same] at less
      exact Nat.lt_irrefl _ ((ordered two two).mp less)
    have drawn : first.drawnAt = second.drawnAt :=
      Nat.le_antisymm (Nat.le_of_not_lt (not_less second first same.symm))
        (Nat.le_of_not_lt (not_less first second same))
    have returned := SessionCall.returnedAt_eq drawn
    omega

/-- Two threads, the second of which returns first. -/
theorem sessionIds_unique_ordered_overtaken :
    let events : List (SessionEvent Bool) :=
      [.fetchAdd false, .fetchAdd true, .returns true, .returns false]
    let trace := execTrace nextSessionId (.start Bool) events
    trace.filterMap Transition.output = [text "0000000000000002", text "0000000000000001"] ∧
      (trace.filterMap Transition.output).Nodup :=
  ⟨by decide +kernel,
    (sessionIds_unique_ordered (run_of_possible (by decide)) (by decide)).2.1⟩

end Runs

/-! ### The connections of the server -/

section Server

variable {codec : JsonCodec} {config : ServerConfig} {world : World}
  {trace : List (Transition World Event (Option (Nat × Reply)))}

/-- A connection that is replaced keeps its session id. -/
theorem sessions_replaced {connections : List Connection} {conn : Nat} {old new : Connection}
    (found : connections[conn]? = some old) (same : new.sessionId = old.sessionId) :
    (connections.set conn new).map Connection.sessionId =
      connections.map Connection.sessionId := by
  refine List.ext_getElem? fun other => ?_
  by_cases here : conn = other
  · subst here
    obtain ⟨inside, -⟩ := List.getElem?_eq_some_iff.mp found
    rw [List.getElem?_map, List.getElem?_map, List.getElem?_set_self inside, found,
      Option.map_some, Option.map_some, same]
  · rw [List.getElem?_map, List.getElem?_map, List.getElem?_set_ne here]

/-- **The connections are numbered as they are accepted**, from 1 on. -/
theorem World.sessionIds_eq {registry : NodeRegistry}
    (run : Run (step codec config) (.boot registry) trace world) :
    world.sessionCounter = UInt64.ofNat world.connections.length ∧
      world.connections.map Connection.sessionId =
        (List.range world.connections.length).map fun conn =>
          sessionIdText (UInt64.ofNat (conn + 1)) := by
  refine run.invariant (fun world : World =>
    world.sessionCounter = UInt64.ofNat world.connections.length ∧
      world.connections.map Connection.sessionId =
        (List.range world.connections.length).map fun conn =>
          sessionIdText (UInt64.ofNat (conn + 1))) ⟨rfl, rfl⟩ ?_
  intro world event output next taken ⟨counter, numbered⟩
  -- a connection that is put back is counted and named as before
  have replaced {conn : Nat} {old new : Connection} (found : world.connections[conn]? = some old)
      (same : new.sessionId = old.sessionId) :
      world.sessionCounter = UInt64.ofNat (world.connections.set conn new).length ∧
        (world.connections.set conn new).map Connection.sessionId =
          (List.range (world.connections.set conn new).length).map fun conn =>
            sessionIdText (UInt64.ofNat (conn + 1)) := by
    rw [List.length_set, sessions_replaced found same]
    exact ⟨counter, numbered⟩
  obtain ⟨now, action⟩ := event
  cases action with
  | accept =>
      cases taken
      have drawn : world.sessionCounter + 1 = UInt64.ofNat (world.connections.length + 1) := by
        rw [counter, UInt64.ofNat_add]
        rfl
      simp only [List.length_append, List.length_singleton, List.map_append, List.map_singleton,
        List.range_succ, numbered, drawn, and_self]
  | welcome conn sent =>
      obtain ⟨_, found, _, _, _, rfl⟩ := step_welcome_iff.mp taken
      exact replaced found rfl
  | configure conn applied =>
      obtain ⟨_, found, _, _, rfl⟩ := step_configure_iff.mp taken
      cases applied <;> exact replaced found rfl
  | frame conn frame listing =>
      obtain ⟨_, _, found, _, _, _, _, _, rfl⟩ := step_frame_iff.mp taken
      exact replaced found rfl
  | teardown conn status =>
      obtain ⟨_, found, _, _, rfl⟩ := step_teardown_iff.mp taken
      exact replaced found rfl
  | tickStart snapshot =>
      obtain ⟨_, _, _, rfl⟩ := step_tickStart_iff.mp taken
      exact ⟨counter, numbered⟩
  | tickOffline =>
      obtain ⟨_, _, _, _, rfl⟩ := step_tickOffline_iff.mp taken
      exact ⟨counter, numbered⟩

end Server

end ExodusOps
