/-
**Connections that name different nodes do not notice each other.**

A connection reaches the registry with the ids its REGISTER and QUERY_NODE frames name; a HEARTBEAT
and the end of the connection with the id its latest REGISTER named. If the ids of different
connections are from disjoint sets and nobody lists all nodes, then whatever the interleaving, each
connection has the answers, and leaves its part of the registry, as if it were the only one
(`sessions_isolated`).

* `AgreeOn` — two registries that answer alike for some ids stay so under equal calls
  (`AgreeOn.perform`); a call on another id changes nothing there (`queryNode_perform_of_ne`).
* `Beside` — the relation between the server and one that serves the connection alone. It is kept
  by the steps of the other connections, and a step of the connection is matched (`Run.simulate`).
-/

import ExodusOps.Server.Ownership
import ExodusOps.Server.Rejected
import Mathlib.Order.CompletePartialOrder

namespace ExodusOps

variable {codec : JsonCodec} {config : ServerConfig}

/-! ### Registries that agree on some ids -/

namespace NodeRegistry

/-- The two registries answer alike for these ids. -/
def AgreeOn (ids : Set Bytes) (first second : NodeRegistry) : Prop :=
  ∀ nodeId ∈ ids, first.queryNode nodeId = second.queryNode nodeId

/-- The id a call is about. -/
def Call.key : Call → Bytes
  | .registerNode entry => entry.nodeId
  | .setOffline nodeId _ => nodeId
  | .updateLastSeen nodeId _ => nodeId

/-- **A call on another id**, or on the empty one, is not seen. -/
theorem queryNode_perform_of_ne (registry : NodeRegistry) (call : Call) {nodeId : Bytes}
    (other : call.key = [] ∨ nodeId ≠ call.key) :
    (registry.perform call).2.queryNode nodeId = registry.queryNode nodeId := by
  -- each writer refuses the empty id
  cases call with
  | registerNode entry =>
      simp only [NodeRegistry.perform, queryNode_registerNode]
      refine if_neg fun taken => other.elim ?_ fun apart => apart taken.2
      exact ((registerNode_ok_iff registry entry).mp taken.1).1
  | setOffline key now =>
      simp only [NodeRegistry.perform, queryNode_setOffline]
      exact if_neg fun taken => other.elim taken.2 fun apart => apart taken.1
  | updateLastSeen key now =>
      simp only [NodeRegistry.perform, queryNode_updateLastSeen]
      refine if_neg fun taken => other.elim ?_ fun apart => apart taken.2
      exact ((updateLastSeen_eq_true_iff registry key now).mp taken.1).1

/-- What a registration returns is decided by the entry under its id. -/
theorem registerNode_congr {first second : NodeRegistry} {entry : NodeEntry}
    (same : first.queryNode entry.nodeId = second.queryNode entry.nodeId) :
    (first.registerNode entry).1 = (second.registerNode entry).1 := by
  have accepted : (first.registerNode entry).1 = .ok ↔ (second.registerNode entry).1 = .ok := by
    rw [registerNode_ok_iff, registerNode_ok_iff, Registrable, Registrable, same]
  cases left : (first.registerNode entry).1 with
  | ok => exact (accepted.mp left).symm
  | errDuplicate =>
      cases right : (second.registerNode entry).1 with
      | ok => exact left.symm.trans (accepted.mpr right)
      | errDuplicate => rfl

theorem updateLastSeen_congr {first second : NodeRegistry} {nodeId : Bytes}
    (same : first.queryNode nodeId = second.queryNode nodeId) (now : Time) :
    (first.updateLastSeen nodeId now).1 = (second.updateLastSeen nodeId now).1 := by
  rw [Bool.eq_iff_iff, updateLastSeen_eq_true_iff, updateLastSeen_eq_true_iff, same]

/-- **Equal calls keep registries in agreement.** -/
theorem AgreeOn.perform {ids : Set Bytes} {first second : NodeRegistry}
    (agree : AgreeOn ids first second) (call : Call) :
    AgreeOn ids (first.perform call).2 (second.perform call).2 := by
  intro nodeId inside
  have same := agree nodeId inside
  cases call with
  | registerNode entry =>
      simp only [NodeRegistry.perform, queryNode_registerNode, same]
      by_cases ours : nodeId = entry.nodeId
      · subst ours
        rw [registerNode_congr same]
      · simp only [ours, and_false, if_false]
  | setOffline key now => simp only [NodeRegistry.perform, queryNode_setOffline, same]
  | updateLastSeen key now =>
      simp only [NodeRegistry.perform, queryNode_updateLastSeen, same]
      by_cases ours : nodeId = key
      · subst ours
        rw [updateLastSeen_congr same]
      · simp only [ours, and_false, if_false]

end NodeRegistry

/-! ### Answers -/

/-- The id a frame names to the registry. -/
def frameNames (codec : JsonCodec) (frame : Frame) : Option Bytes :=
  if frame.messageType = .register ∨ frame.messageType = .queryNode then
    extractNodeId codec frame.payload
  else none

theorem RegisterHandler.handle_congr {first second : NodeRegistry} (messageId : UInt32)
    {jsonPayload : Bytes}
    (same : ∀ nodeId, extractNodeId codec jsonPayload = some nodeId →
      first.queryNode nodeId = second.queryNode nodeId) :
    (handle codec first messageId jsonPayload).1 =
      (handle codec second messageId jsonPayload).1 := by
  unfold handle
  cases parsed : codec.parse jsonPayload with
  | none => rfl
  | some json =>
      cases checked : validate json with
      | none => simp only [checked]
      | some entry =>
          have valid : request codec jsonPayload = some entry := by
            rw [request, parsed, Option.bind_some, checked]
          have result := NodeRegistry.registerNode_congr
            (same entry.nodeId (request_named valid).1)
          simp only [checked]
          generalize first.registerNode entry = left at result ⊢
          generalize second.registerNode entry = right at result ⊢
          obtain ⟨answer, _⟩ := left
          obtain ⟨_, _⟩ := right
          cases result
          cases answer <;> rfl

theorem QueryHandler.handleQueryNode_congr {first second : NodeRegistry} (messageId : UInt32)
    {jsonPayload : Bytes}
    (same : ∀ nodeId, extractNodeId codec jsonPayload = some nodeId →
      first.queryNode nodeId = second.queryNode nodeId) :
    handleQueryNode codec first messageId jsonPayload =
      handleQueryNode codec second messageId jsonPayload := by
  unfold handleQueryNode
  cases parsed : codec.parse jsonPayload with
  | none => rfl
  | some json =>
      simp only
      split
      · rename_i nodeId named
        rw [same nodeId (extractNodeId_eq_some_iff.mpr ⟨json, parsed, named⟩)]
      · rfl

/-- **A frame is answered alike** by registries that agree on the id it names. -/
theorem dispatch_congr {first second : NodeRegistry} (activeNodeId : Bytes) {frame : Frame}
    (now : Time) (listing : List NodeEntry) (single : frame.messageType ≠ .listNodes)
    (same : ∀ nodeId, frameNames codec frame = some nodeId →
      first.queryNode nodeId = second.queryNode nodeId) :
    (dispatch codec first activeNodeId frame now listing).reply =
        (dispatch codec second activeNodeId frame now listing).reply ∧
      (dispatch codec first activeNodeId frame now listing).activeNodeId =
        (dispatch codec second activeNodeId frame now listing).activeNodeId := by
  refine ⟨?_, by rw [dispatch_activeNodeId, dispatch_activeNodeId]⟩
  unfold dispatch
  split_ifs with register query heartbeat
  · have names : frameNames codec frame = extractNodeId codec frame.payload :=
      if_pos (.inl register)
    rw [names] at same
    exact congrArg some (RegisterHandler.handle_congr frame.messageId same)
  · have asked : frame.messageType = .queryNode := query.resolve_right single
    have names : frameNames codec frame = extractNodeId codec frame.payload :=
      if_pos (.inr asked)
    rw [names] at same
    simp only [QueryHandler.handle, if_pos asked]
    exact congrArg some (QueryHandler.handleQueryNode_congr frame.messageId same)
  · rfl
  · rfl

/-! ### A connection on its own -/

/-- An action, by the only connection there is. -/
def Action.alone : Action → Action
  | .welcome _ sent => .welcome 0 sent
  | .configure _ applied => .configure 0 applied
  | .frame _ message listing => .frame 0 message listing
  | .teardown _ status => .teardown 0 status
  | action => action

/-- A step of the connection, on its own. -/
def ownEvent (conn : Nat) (taken : Step) : Option Event :=
  if concerns taken.before taken.event.action = some conn then
    some ⟨taken.event.now, taken.event.action.alone⟩
  else none

/-- A frame the connection sends, and the answer it gets. The WELCOME is not an answer: its message
id and session id are numbered over all connections. -/
def answerTo (conn : Nat) (taken : Step) : Option (Frame × Option Reply) :=
  match taken.event.action with
  | .frame sender frame _ =>
      if sender = conn then some (frame, taken.output.map Prod.snd) else none
  | _ => none

theorem ownEvent_eq_none_iff {conn : Nat} {taken : Step} :
    ownEvent conn taken = none ↔ concerns taken.before taken.event.action ≠ some conn := by
  rw [ownEvent, ite_eq_right_iff]
  refine Iff.intro (fun never own => ?_) fun other own => absurd own other
  cases never own

/-- Frames of others are not seen. -/
theorem answerTo_of_not_concerned {conn : Nat} {taken : Step}
    (other : concerns taken.before taken.event.action ≠ some conn) :
    answerTo conn taken = none := by
  unfold answerTo
  split
  · rename_i sender frame _ action
    rw [action] at other
    exact if_neg fun same => other (congrArg some same)
  · rfl

/-- The step is one of a connection, and a frame names no id outside its set and asks for no
listing. -/
def Confined (codec : JsonCodec) (ids : Nat → Set Bytes) (event : Event) : Prop :=
  match event.action with
  | .frame conn frame _ => frame.messageType ≠ .listNodes ∧
      ∀ nodeId ∈ frameNames codec frame, nodeId ∈ ids conn
  | .tickStart _ | .tickOffline => False
  | _ => True

instance (ids : Nat → Set Bytes) [∀ conn, DecidablePred (· ∈ ids conn)] (event : Event) :
    Decidable (Confined codec ids event) :=
  match event with
  | ⟨_, .frame conn frame _⟩ => inferInstanceAs (Decidable (frame.messageType ≠ .listNodes ∧
      ∀ nodeId ∈ frameNames codec frame, nodeId ∈ ids conn))
  | ⟨_, .tickStart _⟩ | ⟨_, .tickOffline⟩ => .isFalse id
  | ⟨_, .accept⟩ | ⟨_, .welcome _ _⟩ | ⟨_, .configure _ _⟩ | ⟨_, .teardown _ _⟩ => .isTrue trivial

/-- **The server beside one that serves the connection alone.** -/
structure Beside (ids : Nat → Set Bytes) (conn : Nat) (world alone : World) : Prop where
  agree : NodeRegistry.AgreeOn (ids conn) world.registry alone.registry
  active : ∀ other, world.active other = [] ∨ world.active other ∈ ids other
  connection : ∃ id, alone.connections = ((world.connections[conn]?).map fun connection =>
    { connection with sessionId := sessionIdText id }).toList

/-- Ids remembered are ids named. -/
theorem active_confined {ids : Nat → Set Bytes} {world next : World} {event : Event}
    {output : Option (Nat × Reply)} (taken : step codec config world event = some (output, next))
    (confined : Confined codec ids event)
    (active : ∀ other, world.active other = [] ∨ world.active other ∈ ids other) (other : Nat) :
    next.active other = [] ∨ next.active other ∈ ids other := by
  rw [step_active taken]
  cases named : namedBy codec other event with
  | none => exact active other
  | some nodeId =>
      obtain ⟨frame, listing, action, register, extracted⟩ := namedBy_eq_some_iff.mp named
      simp only [Confined, action] at confined
      exact .inr (confined.2 nodeId ((if_pos (.inl register)).trans extracted))

/-- The id of the call a step makes is one of the connection it concerns, or empty. -/
theorem registryCall_confined {ids : Nat → Set Bytes} {world : World} {event : Event}
    {call : NodeRegistry.Call} (confined : Confined codec ids event)
    (active : ∀ other, world.active other = [] ∨ world.active other ∈ ids other)
    (called : registryCall codec world event = some call) :
    ∃ conn, concerns world event.action = some conn ∧ (call.key = [] ∨ call.key ∈ ids conn) := by
  obtain ⟨now, action⟩ := event
  cases action with
  | accept => cases called
  | welcome conn sent => cases called
  | tickStart snapshot => exact confined.elim
  | tickOffline => exact confined.elim
  | configure conn applied =>
      obtain ⟨_, marked⟩ := Option.ite_none_left_eq_some.mp called
      obtain ⟨_, same⟩ := Option.ite_none_left_eq_some.mp marked
      cases same
      exact ⟨conn, rfl, active conn⟩
  | teardown conn status =>
      obtain ⟨_, same⟩ := Option.ite_none_left_eq_some.mp called
      cases same
      exact ⟨conn, rfl, active conn⟩
  | frame conn frame listing =>
      refine ⟨conn, rfl, ?_⟩
      simp only [registryCall] at called
      split_ifs at called with register heartbeat
      · obtain ⟨entry, valid, same⟩ := Option.map_eq_some_iff.mp called
        cases same
        have extracted := (request_named valid).1
        exact .inr (confined.2 entry.nodeId ((if_pos (.inl register)).trans extracted))
      · cases called
        exact active conn

section Beside

variable {ids : Nat → Set Bytes} {conn : Nat} {world next alone : World} {event : Event}
  {output : Option (Nat × Reply)}

/-- **A step of another connection.** -/
theorem Beside.stays (disjoint : ∀ first second, first ≠ second → Disjoint (ids first) (ids second))
    (beside : Beside ids conn world alone)
    (taken : step codec config world event = some (output, next))
    (confined : Confined codec ids event) (other : concerns world event.action ≠ some conn) :
    Beside ids conn next alone where
  agree := by
    intro nodeId inside
    rw [← beside.agree nodeId inside]
    cases called : registryCall codec world event with
    | none => rw [step_registry_of_none taken called]
    | some call =>
        rw [step_registry_of_some taken called]
        obtain ⟨sender, named, key⟩ := registryCall_confined confined beside.active called
        refine NodeRegistry.queryNode_perform_of_ne _ _ (key.imp_right fun foreign same => ?_)
        have apart : sender ≠ conn := fun equal => other (named.trans (congrArg some equal))
        exact Set.disjoint_left.mp (disjoint sender conn apart) foreign (same ▸ inside)
  active := active_confined taken confined beside.active
  connection := by
    rw [connection_of_not_concerned taken other]
    exact beside.connection

theorem Beside.found (beside : Beside ids conn world alone) {connection : Connection}
    (found : world.connections[conn]? = some connection) :
    ∃ id, alone.connections = [{ connection with sessionId := sessionIdText id }] := by
  obtain ⟨id, same⟩ := beside.connection
  rw [found] at same
  exact ⟨id, same⟩

theorem Beside.active_eq (beside : Beside ids conn world alone) :
    alone.active 0 = world.active conn := by
  obtain ⟨id, same⟩ := beside.connection
  rw [World.active, World.active, same]
  cases world.connections[conn]? <;> rfl

/-- The call on the registry is the same. -/
theorem Beside.registryCall_eq (beside : Beside ids conn world alone) {now : Time} {action : Action}
    (confined : Confined codec ids ⟨now, action⟩) (own : concerns world action = some conn) :
    registryCall codec alone ⟨now, action.alone⟩ = registryCall codec world ⟨now, action⟩ := by
  have active := beside.active_eq
  cases action with
  | accept => rfl
  | welcome sender sent => rfl
  | configure sender applied =>
      cases own
      simp only [registryCall, Action.alone, active]
  | frame sender frame listing =>
      cases own
      simp only [registryCall, Action.alone, active]
  | teardown sender status =>
      cases own
      simp only [registryCall, Action.alone, active]
  | tickStart snapshot => exact confined.elim
  | tickOffline => exact confined.elim

theorem getElem?_single {connection : Connection} (here : alone.connections = [connection]) :
    alone.connections[0]? = some connection := by
  rw [here]
  rfl

/-- The connection is replaced, here and on its own. -/
theorem replaced_beside {after : World} {old new other : Connection} {id : UInt64}
    (found : world.connections[conn]? = some old)
    (replaced : next.connections = world.connections.set conn new)
    (here : alone.connections = [other])
    (replaced' : after.connections =
      alone.connections.set 0 { new with sessionId := sessionIdText id }) :
    after.connections = ((next.connections[conn]?).map fun connection =>
      { connection with sessionId := sessionIdText id }).toList := by
  rw [World.getElem?_replaced found replaced, if_pos rfl, replaced', here]
  rfl

/-- What becomes of the connection itself, here and on its own. -/
theorem Beside.connection_step (lawful : codec.Lawful) (beside : Beside ids conn world alone)
    {now : Time} {action : Action}
    (taken : step codec config world ⟨now, action⟩ = some (output, next))
    (confined : Confined codec ids ⟨now, action⟩) (own : concerns world action = some conn) :
    ∃ output' alone', step codec config alone ⟨now, action.alone⟩ = some (output', alone') ∧
      answerTo conn ⟨world, ⟨now, action⟩, output, next⟩ =
        answerTo 0 ⟨alone, ⟨now, action.alone⟩, output', alone'⟩ ∧
      ∃ id, alone'.connections = ((next.connections[conn]?).map fun connection =>
        { connection with sessionId := sessionIdText id }).toList := by
  cases action with
  | tickStart snapshot => exact confined.elim
  | tickOffline => exact confined.elim
  | accept =>
      cases own
      cases taken
      obtain ⟨_, nothing⟩ := beside.connection
      rw [List.getElem?_eq_none (le_refl _)] at nothing
      refine ⟨none, _, rfl, rfl, alone.sessionCounter + 1, ?_⟩
      simp [nothing]
  | welcome sender sent =>
      cases own
      obtain ⟨connection, found, dequeued, _, _, rfl⟩ := step_welcome_iff.mp taken
      obtain ⟨id, here⟩ := beside.found found
      refine ⟨_, _, step_welcome_iff.mpr ⟨_, getElem?_single here, dequeued,
        welcome_written lawful (alone.messageCounter + 1) now id, rfl, rfl⟩, rfl, id, ?_⟩
      exact replaced_beside found rfl here rfl
  | configure sender applied =>
      cases own
      obtain ⟨connection, found, welcomed, _, rfl⟩ := step_configure_iff.mp taken
      obtain ⟨id, here⟩ := beside.found found
      refine ⟨_, _, step_configure_iff.mpr ⟨_, getElem?_single here, welcomed, rfl, rfl⟩, rfl, id,
        ?_⟩
      cases applied with
      | true => exact replaced_beside found rfl here rfl
      | false => exact replaced_beside found rfl here rfl
  | frame sender frame listing =>
      cases own
      obtain ⟨connection, served, found, serving, _, rfl, written, rfl, rfl⟩ :=
        step_frame_iff.mp taken
      obtain ⟨id, here⟩ := beside.found found
      obtain ⟨reply, active⟩ := dispatch_congr connection.activeNodeId now listing confined.1
        fun nodeId named => beside.agree nodeId (confined.2 nodeId named)
      refine ⟨_, _, step_frame_of (getElem?_single here) serving
        (fun listed => absurd listed confined.1) rfl (reply ▸ written), ?_, id, ?_⟩
      · simp only [answerTo, Action.alone, if_true, Option.map_map, reply]
        rfl
      · rw [active]
        exact replaced_beside found rfl here rfl
  | teardown sender status =>
      cases own
      obtain ⟨connection, found, serving, _, rfl⟩ := step_teardown_iff.mp taken
      obtain ⟨id, here⟩ := beside.found found
      refine ⟨_, _, step_teardown_iff.mpr ⟨_, getElem?_single here, serving, rfl, rfl⟩, rfl, id, ?_⟩
      exact replaced_beside found rfl here rfl

/-- **A step of the connection itself** is matched on its own. -/
theorem Beside.moves (lawful : codec.Lawful) (beside : Beside ids conn world alone) {now : Time}
    {action : Action} (taken : step codec config world ⟨now, action⟩ = some (output, next))
    (confined : Confined codec ids ⟨now, action⟩) (own : concerns world action = some conn) :
    ∃ output' alone', step codec config alone ⟨now, action.alone⟩ = some (output', alone') ∧
      answerTo conn ⟨world, ⟨now, action⟩, output, next⟩ =
        answerTo 0 ⟨alone, ⟨now, action.alone⟩, output', alone'⟩ ∧ Beside ids conn next alone' := by
  obtain ⟨output', alone', taken', answers, connection⟩ :=
    beside.connection_step lawful taken confined own
  refine ⟨output', alone', taken', answers, ?_, active_confined taken confined beside.active,
    connection⟩
  have same := beside.registryCall_eq confined own
  cases called : registryCall codec world ⟨now, action⟩ with
  | none =>
      rw [step_registry_of_none taken called, step_registry_of_none taken' (same.trans called)]
      exact beside.agree
  | some call =>
      rw [step_registry_of_some taken called, step_registry_of_some taken' (same.trans called)]
      exact beside.agree.perform call

end Beside

/-- **Connections on different nodes do not interfere.**

For every run in which the connections' frames name ids from pairwise disjoint sets and none is a
LIST_NODES, and for each connection: its own steps, with the same clock readings, are a run of the
server from the same registry; there its frames get the same answers, and its part of the registry
is the same at the end. -/
theorem sessions_isolated (lawful : codec.Lawful) {ids : Nat → Set Bytes}
    (disjoint : ∀ first second, first ≠ second → Disjoint (ids first) (ids second))
    {registry : NodeRegistry} {trace : List Step} {world : World}
    (run : Run (step codec config) (.boot registry) trace world)
    (confined : ∀ taken ∈ trace, Confined codec ids taken.event) (conn : Nat) :
    ∃ alone finish, Run (step codec config) (.boot registry) alone finish ∧
      alone.map Transition.event = trace.filterMap (ownEvent conn) ∧
      alone.filterMap (answerTo 0) = trace.filterMap (answerTo conn) ∧
      ∀ nodeId ∈ ids conn, world.registry.queryNode nodeId = finish.registry.queryNode nodeId := by
  have initial : Beside ids conn (.boot registry) (.boot registry) :=
    ⟨fun _ _ => rfl, fun _ => .inl rfl, 0, rfl⟩
  obtain ⟨alone, finish, alongside, beside, events, answers⟩ :
      ∃ alone finish, Run (step codec config) (.boot registry) alone finish ∧
        Beside ids conn world finish ∧
        alone.map Transition.event = trace.filterMap (ownEvent conn) ∧
        alone.filterMap (answerTo 0) = trace.filterMap (answerTo conn) := by
    refine Run.simulate (Beside ids conn) (fun taken => Confined codec ids taken.event)
      (ownEvent conn) (answerTo conn) (answerTo 0) ?_ ?_ initial run confined
    · intro turn alone taken confined beside still
      have other := ownEvent_eq_none_iff.mp still
      exact ⟨answerTo_of_not_concerned other, beside.stays disjoint taken confined other⟩
    · intro turn alone event' taken confined beside moved
      obtain ⟨own, same⟩ := Option.ite_none_right_eq_some.mp moved
      cases same
      exact beside.moves lawful taken confined own
  exact ⟨alone, finish, alongside, events, answers, beside.agree⟩

/-- The first two connections have a node each. -/
def nodeEach : Nat → Set Bytes
  | 0 => {text "vault-01"}
  | 1 => {text "vault-02"}
  | _ => ∅

instance (conn : Nat) : DecidablePred (· ∈ nodeEach conn) :=
  match conn with
  | 0 => fun nodeId => inferInstanceAs (Decidable (nodeId = text "vault-01"))
  | 1 => fun nodeId => inferInstanceAs (Decidable (nodeId = text "vault-02"))
  | _ + 2 => fun _ => .isFalse id

theorem nodeEach_disjoint {first second : Nat} (distinct : first ≠ second) :
    Disjoint (nodeEach first) (nodeEach second) := by
  have apart : text "vault-01" ≠ text "vault-02" := by decide
  match first, second with
  | 0, 0 | 1, 1 => exact absurd rfl distinct
  | 0, 1 => exact Set.disjoint_singleton.mpr apart
  | 1, 0 => exact Set.disjoint_singleton.mpr apart.symm
  | _ + 2, _ => exact Set.empty_disjoint _
  | _, _ + 2 => exact Set.disjoint_empty _

/-- The two connections take turns: each registers its node, the second sends a HEARTBEAT, and the
first is closed. -/
def takingTurns : List Event :=
  [⟨0, .accept⟩, ⟨1, .accept⟩, ⟨2, .welcome 0 true⟩, ⟨3, .welcome 1 true⟩, ⟨4, .configure 1 true⟩,
    ⟨5, .frame 1 ⟨.register, 0, registrationPayload Json.flatCodec (text "vault-02")
      (text "Vault 2") (text "10.0.0.2") 200⟩ []⟩,
    ⟨6, .configure 0 true⟩,
    ⟨7, .frame 0 ⟨.register, 0, registrationPayload Json.flatCodec (text "vault-01")
      (text "Vault 1") (text "10.0.0.1") 100⟩ []⟩,
    ⟨8, .frame 1 ⟨.heartbeat, 1, []⟩ []⟩,
    ⟨9, .teardown 0 .peerClosed⟩]

/-- The second of the two, on its own, has its two answers and its node seen at the HEARTBEAT. -/
theorem sessions_isolated_turns :
    let trace := execTrace (step Json.flatCodec .default) (.boot .empty) takingTurns
    ∃ alone finish, Run (step Json.flatCodec .default) (.boot .empty) alone finish ∧
      alone.map Transition.event = trace.filterMap (ownEvent 1) ∧ alone.length = 5 ∧
      alone.filterMap (answerTo 0) = trace.filterMap (answerTo 1) ∧
      finish.registry.queryNode (text "vault-02") =
        some ⟨text "vault-02", text "Vault 2", text "10.0.0.2", 200, .online, 8⟩ := by
  intro trace
  have facts : (exec (step Json.flatCodec .default) (.boot .empty) takingTurns).isSome = true ∧
      (∀ event ∈ trace.map Transition.event, Confined Json.flatCodec nodeEach event) ∧
      (trace.filterMap (ownEvent 1)).length = 5 ∧
      (execFinal (step Json.flatCodec .default) (.boot .empty) takingTurns).registry.queryNode
        (text "vault-02") =
          some ⟨text "vault-02", text "Vault 2", text "10.0.0.2", 200, .online, 8⟩ := by
    decide +kernel
  obtain ⟨possible, confined, count, found⟩ := facts
  obtain ⟨alone, finish, run, events, answers, same⟩ :=
    sessions_isolated Json.flatCodec_lawful (fun _ _ => nodeEach_disjoint)
      (run_of_possible possible) (fun taken member => confined _ (List.mem_map_of_mem member)) 1
  refine ⟨alone, finish, run, events, ?_, answers, (same _ rfl).symm.trans found⟩
  rw [← alone.length_map Transition.event, events, count]

end ExodusOps
