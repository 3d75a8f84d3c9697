/-
**What the server writes to a connection.**

One welcome, and then one answer for each request other than a HEARTBEAT, in the order of the
requests, each naming its request (`response_discipline`). The run is followed from any registry and
through any interleaving; seen from one connection a step is silent, the welcome, or one request and
its answer (`step_conversation`).
-/

import ExodusOps.Lib.JsonFlat
import ExodusOps.Server.History

namespace ExodusOps

variable {codec : JsonCodec} {config : ServerConfig}

/-- What a step writes to `conn`. -/
def writtenTo (conn : Nat) (taken : Step) : Option Reply :=
  match taken.output with
  | some (target, reply) => if target = conn then some reply else none
  | none => none

/-- The request other than a HEARTBEAT that a step serves on `conn`. -/
def requestOn (conn : Nat) (taken : Step) : Option Frame :=
  match taken.event.action with
  | .frame sender frame _ =>
      if sender = conn ∧ frame.messageType ≠ .heartbeat then some frame else none
  | _ => none

/-- The welcome is behind the connection. -/
def Opened (phase : Option Phase) : Prop := phase ≠ none ∧ phase ≠ some .dequeued

/-- The welcome ACK of `workerLoop`. -/
def IsWelcome (reply : Reply) : Prop :=
  ∃ messageId now sessionId, reply = welcomeReply messageId now sessionId

/-- **Only a HEARTBEAT is not answered.** -/
theorem dispatch_reply (codec : JsonCodec) (registry : NodeRegistry) (activeNodeId : Bytes)
    (frame : Frame) (now : Time) (listing : List NodeEntry) :
    (frame.messageType = .heartbeat ∧
      (dispatch codec registry activeNodeId frame now listing).reply = none) ∨
    (frame.messageType ≠ .heartbeat ∧ ∃ reply,
      (dispatch codec registry activeNodeId frame now listing).reply = some reply ∧
        Answers frame.messageId reply) := by
  unfold dispatch
  split_ifs with register query heartbeat
  · rw [register]
    exact .inr ⟨by decide, _, rfl, RegisterHandler.handle_answers codec _ _ _⟩
  · refine .inr ⟨?_, _, rfl, QueryHandler.handle_answers codec _ _ _ _ _⟩
    rcases query with type | type <;> rw [type] <;> decide
  · exact .inl ⟨heartbeat, rfl⟩
  · exact .inr ⟨heartbeat, _, rfl, errorReply_answers _ _ _⟩

/-- **A step, seen from one connection**: silent, its welcome, or one request and its answer. -/
theorem step_conversation (taken : Step)
    (step : step codec config taken.before taken.event = some (taken.output, taken.after))
    (conn : Nat) (delivered : taken.event.action ≠ .welcome conn false) :
    (writtenTo conn taken = none ∧ requestOn conn taken = none ∧
      (Opened (taken.after.phase conn) ↔ Opened (taken.before.phase conn))) ∨
    (¬ Opened (taken.before.phase conn) ∧ Opened (taken.after.phase conn) ∧
      requestOn conn taken = none ∧ ∃ welcome, writtenTo conn taken = some welcome ∧
        IsWelcome welcome) ∨
    (Opened (taken.before.phase conn) ∧ Opened (taken.after.phase conn) ∧
      ∃ request answer, requestOn conn taken = some request ∧
        writtenTo conn taken = some answer ∧ Answers request.messageId answer) := by
  obtain ⟨world, ⟨now, action⟩, output, next⟩ := taken
  have phase := step_phase step conn
  dsimp only at step phase delivered ⊢
  cases action with
  | accept =>
      cases step
      refine .inl ⟨rfl, rfl, ?_⟩
      simp only at phase
      rw [phase]
      split
      · rename_i fresh
        rw [World.phase, List.getElem?_eq_none fresh.ge]
        simp [Opened]
      · rfl
  | welcome target sent =>
      obtain ⟨connection, found, dequeued, _, rfl, _⟩ := step_welcome_iff.mp step
      simp only at phase
      by_cases same : conn = target
      · subst same
        cases sent with
        | false => exact absurd rfl delivered
        | true =>
            rw [phase, World.phase_eq found, dequeued]
            exact .inr (.inl ⟨by simp [Opened], by simp [Opened], rfl, _, if_pos rfl, _, _, _, rfl⟩)
      · rw [phase, if_neg same]
        refine .inl ⟨?_, rfl, Iff.rfl⟩
        cases sent <;> simp [writtenTo, Ne.symm same]
  | configure target applied =>
      obtain ⟨connection, found, welcomed, rfl, _⟩ := step_configure_iff.mp step
      refine .inl ⟨rfl, rfl, ?_⟩
      simp only at phase
      rw [phase]
      split
      · rename_i same
        rw [same, World.phase_eq found, welcomed]
        cases applied <;> simp [Opened]
      · rfl
  | frame target frame listing =>
      obtain ⟨connection, served, found, serving, _, rfl, _, rfl, _⟩ := step_frame_iff.mp step
      simp only at phase
      by_cases same : conn = target
      · subst same
        have opened : Opened (world.phase conn) := by
          rw [World.phase_eq found, serving]
          simp [Opened]
        rcases dispatch_reply codec world.registry connection.activeNodeId frame now listing with
          ⟨heartbeat, silent⟩ | ⟨other, reply, answered, answers⟩
        · refine .inl ⟨by simp [writtenTo, silent], by simp [requestOn, heartbeat], ?_⟩
          rw [phase]
        · rw [phase]
          exact .inr (.inr ⟨opened, opened, frame, reply, by simp [requestOn, other],
            by simp [writtenTo, answered], answers⟩)
      · refine .inl ⟨?_, by simp [requestOn, Ne.symm same], by rw [phase]⟩
        cases (dispatch codec world.registry connection.activeNodeId frame now listing).reply <;>
          simp [writtenTo, Ne.symm same]
  | teardown target status =>
      obtain ⟨connection, found, serving, rfl, _⟩ := step_teardown_iff.mp step
      refine .inl ⟨rfl, rfl, ?_⟩
      simp only at phase
      rw [phase]
      split
      · rename_i same
        rw [same, World.phase_eq found, serving]
        simp [Opened]
      · rfl
  | tickStart snapshot =>
      obtain ⟨_, _, rfl, _⟩ := step_tickStart_iff.mp step
      exact .inl ⟨rfl, rfl, by rw [phase]⟩
  | tickOffline =>
      obtain ⟨_, _, _, rfl, _⟩ := step_tickOffline_iff.mp step
      exact .inl ⟨rfl, rfl, by rw [phase]⟩

/-- Welcome and answers, given the requests; nothing before the welcome. -/
def Disciplined (conn : Nat) (trace : List Step) (phase : Option Phase) : Prop :=
  (¬ Opened phase ∧ trace.filterMap (writtenTo conn) = [] ∧
    trace.filterMap (requestOn conn) = []) ∨
  (Opened phase ∧ ∃ welcome answers, trace.filterMap (writtenTo conn) = welcome :: answers ∧
    IsWelcome welcome ∧ List.Forall₂ (fun request answer => Answers request.messageId answer)
      (trace.filterMap (requestOn conn)) answers)

theorem disciplined_of_run {registry : NodeRegistry} {trace : List Step} {world : World}
    (run : Run (step codec config) (.boot registry) trace world) (conn : Nat)
    (delivered : ∀ taken ∈ trace, taken.event.action ≠ .welcome conn false) :
    Disciplined conn trace (world.phase conn) := by
  induction run with
  | nil => exact .inl ⟨fun opened => opened.1 rfl, rfl, rfl⟩
  | @snoc trace world next event output previous taken ih =>
      have before := ih fun taken member => delivered taken (List.mem_append_left _ member)
      have sent := delivered _ (List.mem_append_right _ List.mem_cons_self)
      rw [Disciplined, List.filterMap_append, List.filterMap_append]
      rcases step_conversation ⟨world, event, output, next⟩ taken conn sent with
        ⟨silent, idle, same⟩ | ⟨closed, opened, idle, welcome, written, isWelcome⟩ |
        ⟨opened, still, request, answer, asked, written, answers⟩
      · rw [List.filterMap_cons_none silent, List.filterMap_cons_none idle, List.filterMap_nil,
          List.filterMap_nil, List.append_nil, List.append_nil, same]
        exact before
      · rcases before with ⟨_, nothing, none⟩ | ⟨already, _⟩
        · rw [List.filterMap_cons_some written, List.filterMap_cons_none idle, nothing, none]
          exact .inr ⟨opened, welcome, [], rfl, isWelcome, .nil⟩
        · exact absurd already closed
      · rcases before with ⟨closed, _⟩ | ⟨_, welcome, replies, all, isWelcome, paired⟩
        · exact absurd opened closed
        · rw [List.filterMap_cons_some written, List.filterMap_cons_some asked, all]
          exact .inr ⟨still, welcome, replies ++ [answer], rfl, isWelcome,
            List.rel_append paired (.cons answers .nil)⟩

/-- **The response discipline.** Whatever the registry at the start and whatever the other
connections do: once a connection is welcomed, and if that send succeeded, what has been written to
it is one welcome ACK and then, one by one and in order, an ACK or ERROR for each request other than
a HEARTBEAT, with the request's id in the envelope and in the payload. -/
theorem response_discipline {registry : NodeRegistry} {trace : List Step} {world : World}
    (run : Run (step codec config) (.boot registry) trace world) (conn : Nat)
    (delivered : ∀ taken ∈ trace, taken.event.action ≠ .welcome conn false)
    (opened : Opened (world.phase conn)) :
    ∃ welcome answers, trace.filterMap (writtenTo conn) = welcome :: answers ∧
      IsWelcome welcome ∧ welcome.messageType = .ack ∧
      List.Forall₂ (fun request answer => Answers request.messageId answer)
        (trace.filterMap (requestOn conn)) answers := by
  rcases disciplined_of_run run conn delivered with ⟨closed, _⟩ | ⟨_, welcome, answers, written,
    isWelcome, paired⟩
  · exact absurd opened closed
  · refine ⟨welcome, answers, written, isWelcome, ?_, paired⟩
    obtain ⟨messageId, now, sessionId, rfl⟩ := isWelcome
    rfl

/-- A connection that sends a HEARTBEAT, a message of a type no handler knows and a query for a node
nobody registered. -/
def chatter : List Event :=
  [⟨0, .accept⟩, ⟨1, .welcome 0 true⟩, ⟨2, .configure 0 true⟩,
    ⟨3, .frame 0 ⟨.heartbeat, 0, []⟩ []⟩, ⟨4, .frame 0 ⟨200, 1, [255]⟩ []⟩,
    ⟨5, .frame 0 ⟨.queryNode, 2, text "\x7b\"node_id\":\"x\"\x7d"⟩ []⟩]

/-- Three frames in, the welcome and two answers out. -/
theorem response_discipline_chatter :
    ∃ welcome first second,
      (execTrace (step Json.flatCodec .default) (.boot .empty) chatter).filterMap (writtenTo 0) =
        [welcome, first, second] ∧
      IsWelcome welcome ∧ Answers 1 first ∧ Answers 2 second := by
  let trace := execTrace (step Json.flatCodec .default) (.boot .empty) chatter
  have facts : (exec (step Json.flatCodec .default) (.boot .empty) chatter).isSome = true ∧
      (∀ taken ∈ trace, taken.event.action ≠ .welcome 0 false) ∧
      (execFinal (step Json.flatCodec .default) (.boot .empty) chatter).phase 0 = some .serving ∧
      trace.filterMap (requestOn 0) =
        [⟨200, 1, [255]⟩, ⟨.queryNode, 2, text "\x7b\"node_id\":\"x\"\x7d"⟩] := by
    decide +kernel
  obtain ⟨possible, delivered, serving, requests⟩ := facts
  have opened : Opened ((execFinal (step Json.flatCodec .default) (.boot .empty) chatter).phase
      0) := by
    rw [serving]
    exact ⟨nofun, nofun⟩
  obtain ⟨welcome, answers, written, isWelcome, _, paired⟩ :=
    response_discipline (run_of_possible possible) 0 delivered opened
  rw [requests] at paired
  obtain ⟨first, later, one, rest, rfl⟩ := List.forall₂_cons_left_iff.mp paired
  obtain ⟨second, none, two, nothing, rfl⟩ := List.forall₂_cons_left_iff.mp rest
  obtain rfl := List.forall₂_nil_left_iff.mp nothing
  exact ⟨welcome, first, second, written, isWelcome, one, two⟩

end ExodusOps
