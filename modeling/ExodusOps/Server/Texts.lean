/-
**The texts the server keeps are well-formed.**

A client sends any bytes it likes, but what the server keeps of them went through the JSON parser,
which rejects ill-formed UTF-8. So in every run from an empty registry the ids of the registered
nodes (`registered_utf8`), the one a connection remembers, those a sweep has found stale and the
session ids are well-formed (`texts_of_run`).
-/

import ExodusOps.Server.History
import ExodusOps.Server.Sessions

namespace ExodusOps

variable {codec : JsonCodec} {config : ServerConfig} {trace : List Step} {world : World}

theorem extractNodeId_utf8 (lawful : codec.Lawful) {jsonPayload nodeId : Bytes}
    (named : extractNodeId codec jsonPayload = some nodeId) : Utf8 nodeId := by
  obtain ⟨json, parsed, member⟩ := extractNodeId_eq_some_iff.mp named
  exact lawful.parse_utf8 parsed member

/-- **What a connection remembers.** -/
theorem active_utf8 (lawful : codec.Lawful) {registry : NodeRegistry}
    (run : Run (step codec config) (.boot registry) trace world) (conn : Nat) :
    Utf8 (world.active conn) := by
  rw [active_eq_named run conn]
  cases last : latest (fun taken : Step => namedBy codec conn taken.event) trace with
  | none => exact utf8_text ""
  | some nodeId =>
      obtain ⟨taken, _, named⟩ := exists_of_latest last
      obtain ⟨frame, _, _, _, extracted⟩ := namedBy_eq_some_iff.mp named
      exact extractNodeId_utf8 lawful extracted

/-- **The ids of registered nodes.** -/
theorem registered_utf8 (lawful : codec.Lawful)
    (run : Run (step codec config) (.boot .empty) trace world) {nodeId : Bytes}
    {entry : NodeEntry} (found : world.registry.queryNode nodeId = some entry) : Utf8 nodeId := by
  rw [queryNode_eq_acknowledged run, Option.map_eq_some_iff] at found
  obtain ⟨⟨⟨conn, asked⟩, since⟩, hit, _⟩ := found
  have last : latest (acknowledgedFor codec nodeId) trace = some (conn, asked) := by
    rw [latest, hit]
    rfl
  obtain ⟨taken, _, acked⟩ := exists_of_latest last
  obtain ⟨acknowledged, rfl⟩ := acknowledgedFor_eq_some_iff.mp acked
  obtain ⟨_, _, _, _, _, _, _, _, valid⟩ := acknowledged_eq_some_iff.mp acknowledged
  exact (RegisterHandler.request_utf8 lawful valid).node_id

/-- **The ids a sweep has found stale.** -/
theorem stale_utf8 (lawful : codec.Lawful)
    (run : Run (step codec config) (.boot .empty) trace world) :
    ∀ nodeId ∈ world.stale, Utf8 nodeId := by
  induction run with
  | nil => exact List.forall_mem_nil _
  | @snoc trace world next event output previous taken ih =>
      have stale := (step_sweep taken).2
      obtain ⟨now, action⟩ := event
      rw [stale]
      cases action with
      | tickStart snapshot =>
          obtain ⟨_, complete, _⟩ := step_tickStart_iff.mp taken
          have keyed := NodeRegistry.keyed_of_run (registry_run previous)
          intro nodeId member
          obtain ⟨entry, listed, rfl⟩ := List.mem_map.mp member
          exact registered_utf8 lawful previous
            ((keyed.mem_snapshot complete entry).mp (List.mem_filter.mp listed).1)
      | tickOffline => exact fun nodeId member => ih nodeId (List.mem_of_mem_tail member)
      | _ => exact ih

/-- The session id of a connection; empty when there is none. -/
def World.sessionId (world : World) (conn : Nat) : Bytes :=
  ((world.connections[conn]?).map Connection.sessionId).getD []

/-- **The session ids** are those the server counts. -/
theorem sessionId_cases {registry : NodeRegistry}
    (run : Run (step codec config) (.boot registry) trace world) (conn : Nat) :
    world.sessionId conn = [] ∨ ∃ id, world.sessionId conn = sessionIdText id := by
  rw [World.sessionId, ← List.getElem?_map, (World.sessionIds_eq run).2, List.getElem?_map]
  cases (List.range world.connections.length)[conn]? with
  | none => exact .inl rfl
  | some number => exact .inr ⟨_, rfl⟩

theorem sessionId_utf8 {registry : NodeRegistry}
    (run : Run (step codec config) (.boot registry) trace world) (conn : Nat) :
    Utf8 (world.sessionId conn) := by
  rcases sessionId_cases run conn with absent | ⟨id, counted⟩
  · rw [absent]
    exact utf8_text ""
  · rw [counted]
    exact ⟨_, rfl⟩

/-- The texts a state of the server uses. -/
structure World.Texts (world : World) : Prop where
  active : ∀ conn, Utf8 (world.active conn)
  session_id : ∀ conn, Utf8 (world.sessionId conn)
  stale : ∀ nodeId ∈ world.stale, Utf8 nodeId

/-- **Every text the server keeps is well-formed.** -/
theorem texts_of_run (lawful : codec.Lawful)
    (run : Run (step codec config) (.boot .empty) trace world) : world.Texts :=
  ⟨active_utf8 lawful run, sessionId_utf8 run, stale_utf8 lawful run⟩

end ExodusOps
