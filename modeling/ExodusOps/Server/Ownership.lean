/-
**Which connection a node belongs to.**

A node belongs to the connection whose REGISTER of it was acknowledged last (`owner`). The server
itself keeps no such record: a connection remembers one id, the one its latest REGISTER named, and
marks that one OFFLINE when it ends. Two properties one would expect therefore hold only as far as
the two agree.

* `no_orphan_of_faithful` — **no orphaned node.** If no connection names another id while the node
  it remembers is ONLINE and its own, then in every state each ONLINE node has a serving owner, an
  ended connection leaves its nodes OFFLINE, and a node without connections can register again.
  `orphan_after_second_register`: without this an ended connection leaves a node ONLINE.
* `superseded_unchanged_iff` — **a superseded connection.** When a HEARTBEAT or the end of a
  connection changes a node that now belongs to another one. `successor_torn_down`: a connection
  that ends takes its successor's node OFFLINE.
-/

import ExodusOps.Lib.JsonFlat
import ExodusOps.Server.History

namespace ExodusOps

variable {codec : JsonCodec} {config : ServerConfig}

/-- The connection whose REGISTER of the node was acknowledged last. -/
def owner (codec : JsonCodec) (nodeId : Bytes) (trace : List Step) : Option Nat :=
  (latest (acknowledgedFor codec nodeId) trace).map Prod.fst

theorem owner_concat (nodeId : Bytes) (trace : List Step) (taken : Step) :
    owner codec nodeId (trace ++ [taken]) =
      ((acknowledgedFor codec nodeId taken).map Prod.fst).or (owner codec nodeId trace) := by
  rw [owner, owner, latest_concat]
  cases acknowledgedFor codec nodeId taken <;> rfl

/-- A node with an owner has an entry. -/
theorem registered_of_owner {trace : List Step} {world : World}
    (run : Run (step codec config) (.boot .empty) trace world) {nodeId : Bytes} {conn : Nat}
    (owns : owner codec nodeId trace = some conn) :
    ∃ entry, world.registry.queryNode nodeId = some entry := by
  obtain ⟨registration, acked, _⟩ := Option.map_eq_some_iff.mp owns
  rw [queryNode_eq_acknowledged run nodeId, lastHit_of_latest acked]
  exact ⟨_, rfl⟩

/-! ### What one step can do to a node that is ONLINE -/

theorem request_named {jsonPayload : Bytes} {entry : NodeEntry}
    (valid : RegisterHandler.request codec jsonPayload = some entry) :
    extractNodeId codec jsonPayload = some entry.nodeId ∧ entry.nodeId ≠ [] := by
  obtain ⟨json, parsed, node, _, _, _, nonempty, _⟩ := RegisterHandler.request_fields valid
  exact ⟨by simp only [extractNodeId, parsed, node], nonempty⟩

/-- Only an acknowledged REGISTER brings a node ONLINE. -/
theorem online_before_step {taken : Step}
    (step : step codec config taken.before taken.event = some (taken.output, taken.after))
    {nodeId : Bytes} (named : nodeId ≠ []) (other : acknowledgedFor codec nodeId taken = none)
    (online : taken.after.registry.isOnline nodeId = true) :
    taken.before.registry.isOnline nodeId = true ∧
      ∀ now, registryCall codec taken.before taken.event ≠ some (.setOffline nodeId now) := by
  have none := registration_eq_acknowledged step nodeId
  rw [other] at none
  cases called : registryCall codec taken.before taken.event with
  | none =>
      rw [step_registry_of_none step called] at online
      exact ⟨online, nofun⟩
  | some call =>
      have effect := step_registry_of_some step called
      rw [registryMove, called, effect] at none
      rw [effect] at online
      obtain ⟨before, kept⟩ := NodeRegistry.online_before_perform named none online
      exact ⟨before, fun now same => kept now (Option.some.inj same)⟩

/-- An acknowledged REGISTER leaves its connection serving, with the node remembered. -/
theorem acknowledged_step {taken : Step}
    (step : step codec config taken.before taken.event = some (taken.output, taken.after))
    {nodeId : Bytes} {conn : Nat} {entry : NodeEntry}
    (acked : acknowledgedFor codec nodeId taken = some (conn, entry)) :
    taken.after.phase conn = some .serving ∧ taken.after.active conn = nodeId := by
  obtain ⟨registration, rfl⟩ := acknowledgedFor_eq_some_iff.mp acked
  obtain ⟨frame, listing, _, _, action, _, register, _, valid⟩ :=
    acknowledged_eq_some_iff.mp registration
  have active := step_active step conn
  have phase := step_phase step conn
  obtain ⟨world, ⟨now, _⟩, output, next⟩ := taken
  dsimp only at action step active phase ⊢
  subst action
  obtain ⟨connection, _, found, serving, _⟩ := step_frame_iff.mp step
  refine ⟨by rw [phase, World.phase_eq found, serving], ?_⟩
  simp [active, namedBy, register, (request_named valid).1]

/-! ### No orphaned node -/

/-- A REGISTER that makes its connection forget a node that is ONLINE and its own. -/
def abandons (codec : JsonCodec) (earlier : List Step) (taken : Step) : Bool :=
  match taken.event.action with
  | .frame conn _ _ =>
      (namedBy codec conn taken.event).any fun named =>
        named ≠ taken.before.active conn ∧
          owner codec (taken.before.active conn) earlier = some conn ∧
          taken.before.registry.isOnline (taken.before.active conn) = true
  | _ => false

/-- Every ONLINE node is remembered by its owner, which is still serving. -/
def Owned (codec : JsonCodec) (trace : List Step) (world : World) : Prop :=
  ∀ nodeId, world.registry.isOnline nodeId = true →
    ∃ conn, owner codec nodeId trace = some conn ∧ world.phase conn = some .serving ∧
      world.active conn = nodeId

/-- **One step** keeps every ONLINE node owned, unless it abandons one. -/
theorem Owned.step {trace : List Step} (taken : Step) (owned : Owned codec trace taken.before)
    (keyed : taken.after.registry.Keyed)
    (step : step codec config taken.before taken.event = some (taken.output, taken.after))
    (faithful : abandons codec trace taken = false) :
    Owned codec (trace ++ [taken]) taken.after := by
  intro nodeId online
  obtain ⟨entry, found, _⟩ := NodeRegistry.isOnline_iff.mp online
  have named : nodeId ≠ [] := (keyed nodeId entry found).2
  rw [owner_concat]
  cases acked : acknowledgedFor codec nodeId taken with
  | some registration =>
      obtain ⟨serving, active⟩ := acknowledged_step step acked
      exact ⟨registration.1, rfl, serving, active⟩
  | none =>
      obtain ⟨before, kept⟩ := online_before_step step named acked online
      obtain ⟨conn, owns, serving, active⟩ := owned nodeId before
      have still : taken.after.phase conn = some .serving := by
        rcases serving_or_teardown step serving with still | ⟨status, teardown⟩
        · exact still
        · -- its end would have set the node OFFLINE
          refine absurd ?_ (kept taken.event.now)
          simp only [registryCall, teardown, active, if_neg named]
      refine ⟨conn, owns, still, ?_⟩
      rw [step_active step, active]
      cases renamed : namedBy codec conn taken.event with
      | none => rfl
      | some other =>
          -- the connection owns an ONLINE node, so it may only name that one
          by_contra changed
          obtain ⟨frame, listing, action, _⟩ := namedBy_eq_some_iff.mp renamed
          have gives_up : abandons codec trace taken = true := by
            simp only [abandons, action, renamed, active, owns, before, Option.any_some,
              decide_eq_true_eq, and_self, and_true]
            exact changed
          rw [gives_up] at faithful
          cases faithful

theorem owned_of_faithful {trace : List Step} {world : World}
    (run : Run (step codec config) (.boot .empty) trace world)
    (faithful : EveryStep (fun earlier taken => abandons codec earlier taken = false) [] trace) :
    Owned codec trace world := by
  induction run with
  | nil => exact nofun
  | snoc previous taken ih =>
      obtain ⟨before, here⟩ := everyStep_concat.mp faithful
      have keyed := NodeRegistry.keyed_of_run (registry_run (previous.snoc taken))
      exact Owned.step ⟨_, _, _, _⟩ (ih before) keyed taken here

/-- **No orphaned node.** In every run in which no connection gives up a node that is ONLINE and its
own: the nodes of a connection that has returned are OFFLINE, an ONLINE node has an owner that is
still serving, and a node none of whose connections is left can be registered again. -/
theorem no_orphan_of_faithful {trace : List Step} {world : World}
    (run : Run (step codec config) (.boot .empty) trace world)
    (faithful : EveryStep (fun earlier taken => abandons codec earlier taken = false) [] trace) :
    (∀ conn nodeId, world.phase conn = some .returned → owner codec nodeId trace = some conn →
      ∃ entry, world.registry.queryNode nodeId = some entry ∧ entry.status = .offline) ∧
    (∀ nodeId, world.registry.isOnline nodeId = true →
      ∃ conn, owner codec nodeId trace = some conn ∧ world.phase conn = some .serving) ∧
    (∀ entry : NodeEntry, entry.nodeId ≠ [] →
      (∀ taken ∈ trace, ∀ registration ∈ acknowledgedFor codec entry.nodeId taken,
        world.phase registration.1 = some .returned) →
      (world.registry.registerNode entry).1 = .ok) := by
  have owned := owned_of_faithful run faithful
  refine ⟨?_, ?_, ?_⟩
  · intro conn nodeId returned owns
    obtain ⟨entry, found⟩ := registered_of_owner run owns
    refine ⟨entry, found, ?_⟩
    cases status : entry.status with
    | offline => rfl
    | online =>
        obtain ⟨other, ownsToo, serving, _⟩ :=
          owned nodeId (NodeRegistry.isOnline_iff.mpr ⟨entry, found, status⟩)
        cases owns.symm.trans ownsToo
        cases returned.symm.trans serving
  · intro nodeId online
    obtain ⟨conn, owns, serving, _⟩ := owned nodeId online
    exact ⟨conn, owns, serving⟩
  · intro entry named gone
    refine (NodeRegistry.registerNode_ok_iff _ _).mpr ⟨named, fun held found => ?_⟩
    cases status : held.status with
    | offline => rfl
    | online =>
        obtain ⟨conn, owns, serving, _⟩ :=
          owned entry.nodeId (NodeRegistry.isOnline_iff.mpr ⟨held, found, status⟩)
        obtain ⟨registration, acked, rfl⟩ := Option.map_eq_some_iff.mp owns
        obtain ⟨taken, member, accepted⟩ := exists_of_latest acked
        cases (gone taken member registration accepted).symm.trans serving

/-- A connection registers a node and, before it closes, a second one. -/
def secondRegister : List Event :=
  [⟨0, .accept⟩, ⟨1, .welcome 0 true⟩, ⟨2, .configure 0 true⟩,
    ⟨3, .frame 0 ⟨.register, 0, registrationPayload Json.flatCodec (text "vault-01")
      (text "Vault 1") (text "10.0.0.1") 100⟩ []⟩,
    ⟨4, .frame 0 ⟨.register, 1, registrationPayload Json.flatCodec (text "vault-02")
      (text "Vault 2") (text "10.0.0.2") 100⟩ []⟩,
    ⟨5, .teardown 0 .peerClosed⟩]

/-- **An orphan**: the connection has returned, and the first node it registered stays ONLINE. -/
theorem orphan_after_second_register :
    ∃ trace world, Run (step Json.flatCodec .default) (.boot .empty) trace world ∧
      world.phase 0 = some .returned ∧ owner Json.flatCodec (text "vault-01") trace = some 0 ∧
      world.registry.queryNode (text "vault-01") =
        some ⟨text "vault-01", text "Vault 1", text "10.0.0.1", 100, .online, epoch⟩ := by
  let trace := execTrace (step Json.flatCodec .default) (.boot .empty) secondRegister
  let final := execFinal (step Json.flatCodec .default) (.boot .empty) secondRegister
  have facts : (exec (step Json.flatCodec .default) (.boot .empty) secondRegister).isSome = true ∧
      final.phase 0 = some .returned ∧ owner Json.flatCodec (text "vault-01") trace = some 0 ∧
      final.registry.queryNode (text "vault-01") =
        some ⟨text "vault-01", text "Vault 1", text "10.0.0.1", 100, .online, epoch⟩ := by
    decide +kernel
  exact ⟨trace, final, run_of_possible facts.1, facts.2⟩

/-- A connection that registers one node and closes leaves it OFFLINE. -/
theorem no_orphan_of_faithful_single :
    ∃ entry, (execFinal (step Json.flatCodec .default) (.boot .empty)
        (secondRegister.eraseIdx 4)).registry.queryNode (text "vault-01") = some entry ∧
      entry.status = .offline := by
  let events := secondRegister.eraseIdx 4
  let trace := execTrace (step Json.flatCodec .default) (.boot .empty) events
  have facts : (exec (step Json.flatCodec .default) (.boot .empty) events).isSome = true ∧
      EveryStep (fun earlier taken => abandons Json.flatCodec earlier taken = false) [] trace ∧
      (execFinal (step Json.flatCodec .default) (.boot .empty) events).phase 0 = some .returned ∧
      owner Json.flatCodec (text "vault-01") trace = some 0 := by decide +kernel
  obtain ⟨possible, faithful, returned, owns⟩ := facts
  exact (no_orphan_of_faithful (run_of_possible possible) faithful).1 0 (text "vault-01") returned
    owns

/-! ### A superseded connection -/

/-- The node was registered by `session` and then, when it was free again, by `successor`, which is
still open and has it now. -/
structure Superseded (codec : JsonCodec) (trace : List Step) (world : World)
    (session successor : Nat) (nodeId : Bytes) : Prop where
  registered : ∃ taken ∈ trace, (acknowledgedFor codec nodeId taken).map Prod.fst = some session
  succeeded : owner codec nodeId trace = some successor
  distinct : successor ≠ session
  live : world.phase successor = some .serving

/-- **When a superseded connection leaves its successor's node alone.** A HEARTBEAT or the end of
the connection keeps the node's entry exactly when the last REGISTER of the connection that named
an id named another one, or the entry already is what would be written. -/
theorem superseded_unchanged_iff {trace : List Step} {world : World}
    (run : Run (step codec config) (.boot .empty) trace world) {session successor : Nat}
    {nodeId : Bytes} (superseded : Superseded codec trace world session successor nodeId) :
    ∃ entry, world.registry.queryNode nodeId = some entry ∧
      (∀ now frame listing output next, frame.messageType = .heartbeat →
        step codec config world ⟨now, .frame session frame listing⟩ = some (output, next) →
        (next.registry.queryNode nodeId = some entry ↔
          latest (fun taken : Step => namedBy codec session taken.event) trace ≠ some nodeId ∨
            entry.status = .offline ∨ entry.lastSeenAt = now)) ∧
      (∀ now status output next,
        step codec config world ⟨now, .teardown session status⟩ = some (output, next) →
        (next.registry.queryNode nodeId = some entry ↔
          latest (fun taken : Step => namedBy codec session taken.event) trace ≠ some nodeId ∨
            (entry.status = .offline ∧ entry.lastSeenAt = now))) := by
  obtain ⟨entry, found⟩ := registered_of_owner run superseded.succeeded
  have named : nodeId ≠ [] := (NodeRegistry.keyed_of_run (registry_run run) nodeId entry found).2
  have remembered : world.active session = nodeId ↔
      latest (fun taken : Step => namedBy codec session taken.event) trace = some nodeId := by
    rw [active_eq_named run session]
    cases latest (fun taken : Step => namedBy codec session taken.event) trace with
    | none => simp [Ne.symm named]
    | some last => simp
  refine ⟨entry, found, ?_, ?_⟩
  · intro now frame listing output next heartbeat taken
    have other : frame.messageType ≠ .register := by rw [heartbeat]; decide
    have called : registryCall codec world ⟨now, .frame session frame listing⟩ =
        some (.updateLastSeen (world.active session) now) := by
      simp only [registryCall, if_neg other, if_pos heartbeat]
    rw [step_registry_of_some taken called, ne_eq, ← remembered]
    exact NodeRegistry.updateLastSeen_unchanged_iff found named _ now
  · intro now status output next taken
    rw [ne_eq, ← remembered]
    by_cases blank : world.active session = []
    · have idle : registryCall codec world ⟨now, .teardown session status⟩ = none := if_pos blank
      rw [step_registry_of_none taken idle, blank]
      exact ⟨fun _ => .inl (Ne.symm named), fun _ => found⟩
    · have called : registryCall codec world ⟨now, .teardown session status⟩ =
          some (.setOffline (world.active session) now) := if_neg blank
      rw [step_registry_of_some taken called]
      exact NodeRegistry.setOffline_unchanged_iff found named _ now

/-- A node goes OFFLINE under an idle connection and is registered again by a second one. -/
def takenOver : List Event :=
  [⟨0, .accept⟩, ⟨1, .welcome 0 true⟩, ⟨2, .configure 0 true⟩,
    ⟨3, .frame 0 ⟨.register, 0, registrationPayload Json.flatCodec (text "vault-01")
      (text "Vault 1") (text "10.0.0.1") 100⟩ []⟩,
    ⟨20000000000, .tickStart
      [⟨text "vault-01", text "Vault 1", text "10.0.0.1", 100, .online, epoch⟩]⟩,
    ⟨20000000001, .tickOffline⟩,
    ⟨21000000000, .accept⟩, ⟨21000000001, .welcome 1 true⟩, ⟨21000000002, .configure 1 true⟩,
    ⟨21000000003, .frame 1 ⟨.register, 0, registrationPayload Json.flatCodec (text "vault-01")
      (text "Vault 1") (text "10.0.0.1") 100⟩ []⟩]

/-- **A successor torn down**: the idle timeout of the first connection takes the node OFFLINE that
the second one has registered and still serves. -/
theorem successor_torn_down :
    ∃ trace world output next, Run (step Json.flatCodec .default) (.boot .empty) trace world ∧
      Superseded Json.flatCodec trace world 0 1 (text "vault-01") ∧
      step Json.flatCodec .default world ⟨22000000000, .teardown 0 .timeout⟩ =
        some (output, next) ∧
      world.registry.queryNode (text "vault-01") =
        some ⟨text "vault-01", text "Vault 1", text "10.0.0.1", 100, .online, epoch⟩ ∧
      next.registry.queryNode (text "vault-01") =
        some ⟨text "vault-01", text "Vault 1", text "10.0.0.1", 100, .offline, 22000000000⟩ := by
  let trace := execTrace (step Json.flatCodec .default) (.boot .empty) takenOver
  let final := execFinal (step Json.flatCodec .default) (.boot .empty) takenOver
  have facts : (exec (step Json.flatCodec .default) (.boot .empty) takenOver).isSome = true ∧
      ((∃ taken ∈ trace, (acknowledgedFor Json.flatCodec (text "vault-01") taken).map Prod.fst =
          some 0) ∧
        owner Json.flatCodec (text "vault-01") trace = some 1 ∧ final.phase 1 = some .serving) ∧
      (step Json.flatCodec .default final ⟨22000000000, .teardown 0 .timeout⟩).map
        (fun result => result.2.registry.queryNode (text "vault-01")) =
          some (some ⟨text "vault-01", text "Vault 1", text "10.0.0.1", 100, .offline,
            22000000000⟩) ∧
      final.registry.queryNode (text "vault-01") =
        some ⟨text "vault-01", text "Vault 1", text "10.0.0.1", 100, .online, epoch⟩ := by
    decide +kernel
  obtain ⟨possible, ⟨registered, succeeded, live⟩, ended, found⟩ := facts
  obtain ⟨⟨output, next⟩, taken, after⟩ := Option.map_eq_some_iff.mp ended
  exact ⟨trace, final, output, next, run_of_possible possible,
    ⟨registered, succeeded, by decide, live⟩, taken, found, after⟩

/-- A first connection that has registered another node meanwhile does no harm when it ends. -/
theorem superseded_unchanged_iff_moved_on :
    ∃ world output next entry,
      step Json.flatCodec .default world ⟨22000000000, .teardown 0 .timeout⟩ =
        some (output, next) ∧
      world.registry.queryNode (text "vault-01") = some entry ∧
      next.registry.queryNode (text "vault-01") = some entry := by
  let events := takenOver ++ [⟨21500000000, .frame 0 ⟨.register, 1, registrationPayload
    Json.flatCodec (text "vault-02") (text "Vault 2") (text "10.0.0.2") 100⟩ []⟩]
  let trace := execTrace (step Json.flatCodec .default) (.boot .empty) events
  let final := execFinal (step Json.flatCodec .default) (.boot .empty) events
  have facts : (exec (step Json.flatCodec .default) (.boot .empty) events).isSome = true ∧
      ((∃ taken ∈ trace, (acknowledgedFor Json.flatCodec (text "vault-01") taken).map Prod.fst =
          some 0) ∧
        owner Json.flatCodec (text "vault-01") trace = some 1 ∧ final.phase 1 = some .serving) ∧
      (step Json.flatCodec .default final ⟨22000000000, .teardown 0 .timeout⟩).isSome = true ∧
      latest (fun taken : Step => namedBy Json.flatCodec 0 taken.event) trace ≠
        some (text "vault-01") := by decide +kernel
  obtain ⟨possible, ⟨registered, succeeded, live⟩, ended, moved⟩ := facts
  obtain ⟨⟨output, next⟩, taken⟩ := Option.isSome_iff_exists.mp ended
  obtain ⟨entry, found, _, teardown⟩ := superseded_unchanged_iff (run_of_possible possible)
    ⟨registered, succeeded, by decide, live⟩
  exact ⟨final, output, next, entry, taken, found, (teardown _ _ _ _ taken).mpr (.inl moved)⟩

end ExodusOps
