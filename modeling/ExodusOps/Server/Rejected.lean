/-
**A rejected REGISTER.**

A REGISTER that is answered with an ERROR does not change the registry. It may still change the id
the connection remembers, and so what a later HEARTBEAT or the end of the connection does.

* `rejected_register_inert_iff` — **when a rejected REGISTER has no effect.** The registry develops
  as if the frame had not been sent, whatever comes after it, exactly when the frame names no id or
  the one the connection remembers already.
* `rejected_register_tears_down` — a connection that was refused a node takes it OFFLINE when it
  closes.
-/

import ExodusOps.Lib.JsonFlat
import ExodusOps.Server.Texts

namespace ExodusOps

variable {codec : JsonCodec} {config : ServerConfig}

/-- The registry's contents after a list of events, if they are possible. -/
def contentsAfter (codec : JsonCodec) (config : ServerConfig) (world : World)
    (events : List Event) : Option (Bytes → Option NodeEntry) :=
  (exec (step codec config) world events).map fun result => result.2.registry.queryNode

/-! ### Telling two remembered ids apart -/

/-- A new connection registers a node. -/
def newcomer (codec : JsonCodec) (conn : Nat) (nodeId : Bytes) : List Event :=
  [⟨0, .accept⟩, ⟨0, .welcome conn true⟩, ⟨0, .configure conn true⟩,
    ⟨0, .frame conn ⟨.register, 0, registrationPayload codec nodeId (text "") (text "") 0⟩ []⟩]

/-- The world while the newest connection, with a given state, is served. -/
def World.withNewest (world : World) (registry : NodeRegistry) (messageCounter : UInt32)
    (newest : Connection) : World :=
  { world with
    registry := registry
    connections := world.connections ++ [newest]
    sessionCounter := world.sessionCounter + 1
    messageCounter := messageCounter }

theorem World.withNewest_put (world : World) (registry : NodeRegistry) (messageCounter : UInt32)
    (old new : Connection) :
    (world.withNewest registry messageCounter old).put world.connections.length new =
      world.withNewest registry messageCounter new := by
  simp [World.put, World.withNewest]

theorem welcome_written (lawful : codec.Lawful) (messageId : UInt32) (now : Time)
    (sessionId : UInt64) :
    ((welcomeReply messageId now (sessionIdText sessionId)).frame codec).isSome = true := by
  obtain ⟨frame, written, _⟩ := Reply.frame_of_flat lawful
    (welcomeReply messageId now (sessionIdText sessionId))
    (buildWelcomePayload_flat (utf8_text _) (utf8_text _) ⟨_, rfl⟩)
  rw [written]
  rfl

theorem registration_acknowledged (lawful : codec.Lawful) {registry : NodeRegistry}
    {nodeId : Bytes} (named : nodeId ≠ []) (utf8 : Utf8 nodeId)
    (free : registry.queryNode nodeId = none) (messageId : UInt32) :
    ∃ reply next, RegisterHandler.handle codec registry messageId
        (registrationPayload codec nodeId (text "") (text "") 0) = (reply, next) ∧
      (reply.frame codec).isSome = true ∧
      next.queryNode nodeId = some ⟨nodeId, text "", text "", 0, .online, epoch⟩ := by
  have valid := request_registrationPayload lawful named utf8 (utf8_text "") (utf8_text "") 0
  have accepted : (registry.registerNode ⟨nodeId, text "", text "", 0, .online, epoch⟩).1 = .ok :=
    (NodeRegistry.registerNode_ok_iff _ _).mpr ⟨named, by simp [free]⟩
  rcases RegisterHandler.handle_cases codec registry messageId
      (registrationPayload codec nodeId (text "") (text "") 0) with
    ⟨_, invalid, _⟩ | ⟨entry, same, _, handled⟩ | ⟨entry, same, refused, _⟩
  · rw [valid] at invalid
    cases invalid
  · cases valid.symm.trans same
    obtain ⟨frame, written, _⟩ := Reply.frame_of_flat lawful
      (ackReply messageId (MessageSerializer.buildAckPayload messageId nodeId))
      (buildAckPayload_flat messageId utf8)
    refine ⟨_, _, handled, by rw [written]; rfl, ?_⟩
    rw [NodeRegistry.queryNode_registerNode, if_pos ⟨accepted, rfl⟩]
  · cases valid.symm.trans same
    cases accepted.symm.trans refused

/-- **A node that is free can be registered** by a new connection, the others staying as they
are. -/
theorem newcomer_registers (lawful : codec.Lawful) (world : World) {nodeId : Bytes}
    (named : nodeId ≠ []) (utf8 : Utf8 nodeId) (free : world.registry.queryNode nodeId = none) :
    ∃ (trace : List Step) (next : World), Run (step codec config) world trace next ∧
      trace.map Transition.event = newcomer codec world.connections.length nodeId ∧
      next.registry.queryNode nodeId = some ⟨nodeId, text "", text "", 0, .online, epoch⟩ ∧
      ∀ (conn : Nat) (connection : Connection), world.connections[conn]? = some connection →
        next.connections[conn]? = some connection := by
  let conn := world.connections.length
  let session := sessionIdText (world.sessionCounter + 1)
  let messageId := world.messageCounter + 1
  have newest (registry : NodeRegistry) (counter : UInt32) (connection : Connection) :
      (world.withNewest registry counter connection).connections[conn]? = some connection := by
    simp [World.withNewest, conn]
  have welcomed : step codec config
      (world.withNewest world.registry world.messageCounter ⟨session, .dequeued, []⟩)
      ⟨0, .welcome conn true⟩ = some (some (conn, welcomeReply messageId 0 session),
        world.withNewest world.registry messageId ⟨session, .welcomed, []⟩) :=
    step_welcome_iff.mpr ⟨_, newest _ _ _, rfl, welcome_written lawful _ _ _, rfl,
      (World.withNewest_put world world.registry messageId _ _).symm⟩
  have configured : step codec config
      (world.withNewest world.registry messageId ⟨session, .welcomed, []⟩)
      ⟨0, .configure conn true⟩ = some (none,
        world.withNewest world.registry messageId ⟨session, .serving, []⟩) :=
    step_configure_iff.mpr ⟨_, newest _ _ _, rfl, rfl,
      (World.withNewest_put world world.registry messageId _ _).symm⟩
  obtain ⟨reply, registry, handled, written, registered⟩ :=
    registration_acknowledged lawful named utf8 free 0
  let frame : Frame := ⟨.register, 0, registrationPayload codec nodeId (text "") (text "") 0⟩
  have dispatched : dispatch codec world.registry [] frame 0 [] =
      ⟨some reply, (extractNodeId codec frame.payload).getD [], registry⟩ := by
    rw [dispatch, if_pos rfl, handled]
  have served : step codec config
      (world.withNewest world.registry messageId ⟨session, .serving, []⟩)
      ⟨0, .frame conn frame []⟩ = some (some (conn, reply), world.withNewest registry messageId
        ⟨session, .serving, (extractNodeId codec frame.payload).getD []⟩) := by
    have unlisted : MessageType.register = .listNodes →
        (world.withNewest world.registry messageId ⟨session, .serving, []⟩).registry.IsSnapshot
          [] := fun list => absurd list (by decide)
    refine (step_frame_of (newest _ _ _) rfl unlisted dispatched ?_).trans ?_
    · rintro _ ⟨⟩
      exact written
    · rw [← World.withNewest_put world registry messageId ⟨session, .serving, []⟩]
      rfl
  have accepted : step codec config world ⟨0, .accept⟩ = some (none,
      world.withNewest world.registry world.messageCounter ⟨session, .dequeued, []⟩) := rfl
  refine ⟨_, _, (((Run.nil.snoc accepted).snoc welcomed).snoc configured).snoc served, rfl,
    registered, ?_⟩
  intro other connection found
  have inside : other < world.connections.length := (List.getElem?_eq_some_iff.mp found).1
  rw [World.withNewest, List.getElem?_append_left inside, found]

/-- `setOffline` ignores the empty id, too. -/
theorem markOfflineIfKnown_eq (registry : NodeRegistry) (nodeId : Bytes) (now : Time) :
    markOfflineIfKnown registry nodeId now = registry.setOffline nodeId now := by
  unfold markOfflineIfKnown NodeRegistry.setOffline
  split <;> rfl

/-- Closing a connection at the end of a run: what the registry then holds. -/
theorem contentsAfter_teardown {start final : World} {trace : List Step}
    (run : Run (step codec config) start trace final) {conn : Nat} {connection : Connection}
    (found : final.connections[conn]? = some connection) (serving : connection.phase = .serving)
    (now : Time) :
    contentsAfter codec config start
        (trace.map Transition.event ++ [⟨now, .teardown conn .peerClosed⟩]) =
      some (markOfflineIfKnown final.registry connection.activeNodeId now).queryNode := by
  have closed : step codec config final ⟨now, .teardown conn .peerClosed⟩ =
      some (none, final.hangUp conn connection now) :=
    step_teardown_iff.mpr ⟨connection, found, serving, rfl, rfl⟩
  rw [contentsAfter, exec_append run.exec]
  simp only [exec, closed]
  rfl

/-- Some continuation leads to a state in which a given node is registered, whatever id a
connection remembers and without touching that connection. -/
theorem exists_registered (config : ServerConfig) (lawful : codec.Lawful) {world : World}
    {conn : Nat} {connection : Connection} (found : world.connections[conn]? = some connection)
    {nodeId : Bytes} (named : nodeId ≠ []) (utf8 : Utf8 nodeId) :
    ∃ events entry, ∀ remembered : Bytes, ∃ (trace : List Step) (final : World),
      Run (step codec config)
        (world.put conn { connection with activeNodeId := remembered }) trace final ∧
      trace.map Transition.event = events ∧ final.registry.queryNode nodeId = some entry ∧
      final.connections[conn]? = some { connection with activeNodeId := remembered } := by
  have there (remembered : Bytes) :
      (world.put conn { connection with activeNodeId := remembered }).connections[conn]? =
        some { connection with activeNodeId := remembered } :=
    (World.getElem?_replaced found rfl conn).trans (if_pos rfl)
  cases known : world.registry.queryNode nodeId with
  | some entry => exact ⟨[], entry, fun remembered => ⟨[], _, .nil, rfl, known, there remembered⟩⟩
  | none =>
      refine ⟨newcomer codec world.connections.length nodeId,
        ⟨nodeId, text "", text "", 0, .online, epoch⟩, fun remembered => ?_⟩
      obtain ⟨trace, final, run, events, registered, kept⟩ := newcomer_registers lawful
        (world.put conn { connection with activeNodeId := remembered }) named utf8 known
      rw [World.put, List.length_set] at events
      exact ⟨trace, final, run, events, registered, kept conn _ (there remembered)⟩

/-- **Two remembered ids can be told apart**: register the one, if it is not, and close. -/
theorem distinguishes (lawful : codec.Lawful) {world : World} {conn : Nat}
    {connection : Connection} (found : world.connections[conn]? = some connection)
    (serving : connection.phase = .serving) {nodeId other : Bytes} (named : nodeId ≠ [])
    (utf8 : Utf8 nodeId) (distinct : other ≠ nodeId) :
    ∃ events,
      contentsAfter codec config (world.put conn { connection with activeNodeId := nodeId })
          events ≠
        contentsAfter codec config (world.put conn { connection with activeNodeId := other })
          events := by
  obtain ⟨events, entry, reached⟩ := exists_registered config lawful found named utf8
  obtain ⟨trace₁, final₁, run₁, events₁, known₁, there₁⟩ := reached nodeId
  obtain ⟨trace₂, final₂, run₂, events₂, known₂, there₂⟩ := reached other
  let now := entry.lastSeenAt + 1
  have closed := contentsAfter_teardown run₁ there₁ serving now
  have unharmed := contentsAfter_teardown run₂ there₂ serving now
  rw [events₁] at closed
  rw [events₂] at unharmed
  refine ⟨events ++ [⟨now, .teardown conn .peerClosed⟩], fun same => ?_⟩
  rw [closed, unharmed] at same
  have kept : (final₁.registry.setOffline nodeId now).queryNode nodeId = some entry := by
    rw [← markOfflineIfKnown_eq, congrFun (Option.some.inj same) nodeId, markOfflineIfKnown_eq]
    exact (NodeRegistry.setOffline_unchanged_iff known₂ named other now).mpr (.inl distinct)
  rcases (NodeRegistry.setOffline_unchanged_iff known₁ named nodeId now).mp kept with
    differs | ⟨_, stamped⟩
  · exact differs rfl
  · exact absurd stamped (by simp [now])

/-! ### The rejected frame -/

/-- **What a rejected REGISTER does**: nothing but replace the id the connection remembers. -/
theorem rejected_register_step {world next : World} {now : Time} {conn target : Nat}
    {frame : Frame} {listing : List NodeEntry} {reply : Reply}
    (register : frame.messageType = .register)
    (taken : step codec config world ⟨now, .frame conn frame listing⟩ =
      some (some (target, reply), next)) (rejected : reply.messageType = .errorMsg) :
    ∃ connection, world.connections[conn]? = some connection ∧ connection.phase = .serving ∧
      next = world.put conn { connection with
        activeNodeId := (extractNodeId codec frame.payload).getD connection.activeNodeId } := by
  obtain ⟨connection, served, found, serving, _, rfl, _, output, rfl⟩ := step_frame_iff.mp taken
  refine ⟨connection, found, serving, ?_⟩
  have unchanged : (RegisterHandler.handle codec world.registry frame.messageId
      frame.payload).2 = world.registry := by
    rcases RegisterHandler.handle_cases codec world.registry frame.messageId frame.payload with
      ⟨_, _, handled⟩ | ⟨entry, _, _, handled⟩ | ⟨entry, _, _, handled⟩
    · rw [handled]
    · simp only [dispatch, if_pos register, handled, Option.map_some, Option.some.injEq,
        Prod.mk.injEq] at output
      have distinct : MessageType.ack ≠ MessageType.errorMsg := by decide
      rw [output.2] at rejected
      exact absurd rejected distinct
    · rw [handled]
  simp only [dispatch, if_pos register, unchanged]

/-- **When a rejected REGISTER has no effect.** For every library that reads back what it writes,
every registry to begin with and every run up to the frame: the contents of the registry after any
further steps are the same with and without the frame, exactly when the frame names no id or the one
the connection remembers. -/
theorem rejected_register_inert_iff (lawful : codec.Lawful) {registry : NodeRegistry}
    {trace : List Step} {world : World}
    (run : Run (step codec config) (.boot registry) trace world) {now : Time} {conn target : Nat}
    {frame : Frame} {listing : List NodeEntry} {reply : Reply} {next : World}
    (register : frame.messageType = .register)
    (taken : step codec config world ⟨now, .frame conn frame listing⟩ =
      some (some (target, reply), next)) (rejected : reply.messageType = .errorMsg) :
    (∀ events, contentsAfter codec config next events =
      contentsAfter codec config world events) ↔
    ∀ named ∈ extractNodeId codec frame.payload, named = world.active conn := by
  obtain ⟨connection, found, serving, rfl⟩ := rejected_register_step register taken rejected
  have itself : world.put conn { connection with activeNodeId := connection.activeNodeId } =
      world := by
    obtain ⟨inside, same⟩ := List.getElem?_eq_some_iff.mp found
    rw [World.put, ← same, List.set_getElem_self]
  rw [World.active_eq found]
  cases extracted : extractNodeId codec frame.payload with
  | none => simp [itself]
  | some named =>
      simp only [Option.getD_some, Option.mem_def, Option.some.injEq, forall_eq']
      constructor
      · intro inert
        by_contra distinct
        -- one of the two ids is not empty, and that one can be told from the other
        by_cases blank : named = []
        · have nonempty : connection.activeNodeId ≠ [] := fun both =>
            distinct (blank.trans both.symm)
          have utf8 := active_utf8 lawful run conn
          rw [World.active_eq found] at utf8
          obtain ⟨events, differ⟩ := distinguishes lawful found serving nonempty utf8 distinct
          rw [itself] at differ
          exact differ (inert events).symm
        · obtain ⟨events, differ⟩ := distinguishes lawful found serving blank
            (extractNodeId_utf8 lawful extracted) (Ne.symm distinct)
          rw [itself] at differ
          exact differ (inert events)
      · rintro rfl events
        rw [itself]

/-- One connection registers a node, and a second one is open. -/
def ownerAndOther : List Event :=
  [⟨0, .accept⟩, ⟨1, .welcome 0 true⟩, ⟨2, .configure 0 true⟩,
    ⟨3, .frame 0 ⟨.register, 0, registrationPayload Json.flatCodec (text "vault-01")
      (text "Vault 1") (text "10.0.0.1") 100⟩ []⟩,
    ⟨4, .accept⟩, ⟨5, .welcome 1 true⟩, ⟨6, .configure 1 true⟩]

/-- The REGISTER of the same node, from a connection. -/
def registerAgain (conn : Nat) : Event :=
  ⟨7, .frame conn ⟨.register, 1, registrationPayload Json.flatCodec (text "vault-01")
    (text "Vault 1") (text "10.0.0.1") 100⟩ []⟩

/-- **A refused connection takes the node down.** The second connection's REGISTER is answered with
an ERROR; when it closes, the node goes OFFLINE under the first. Without that frame it stays
ONLINE. -/
theorem rejected_register_tears_down :
    ∃ trace world target reply next,
      Run (step Json.flatCodec .default) (.boot .empty) trace world ∧
      step Json.flatCodec .default world (registerAgain 1) = some (some (target, reply), next) ∧
      reply.messageType = .errorMsg ∧
      (contentsAfter Json.flatCodec .default next [⟨8, .teardown 1 .peerClosed⟩]).map
          (· (text "vault-01")) =
        some (some ⟨text "vault-01", text "Vault 1", text "10.0.0.1", 100, .offline, 8⟩) ∧
      (contentsAfter Json.flatCodec .default world [⟨8, .teardown 1 .peerClosed⟩]).map
          (· (text "vault-01")) =
        some (some ⟨text "vault-01", text "Vault 1", text "10.0.0.1", 100, .online, epoch⟩) := by
  let trace := execTrace (step Json.flatCodec .default) (.boot .empty) ownerAndOther
  let world := execFinal (step Json.flatCodec .default) (.boot .empty) ownerAndOther
  have facts : (exec (step Json.flatCodec .default) (.boot .empty) ownerAndOther).isSome = true ∧
      (step Json.flatCodec .default world (registerAgain 1)).map (fun result =>
        (result.1.map fun sent => sent.2.messageType,
          (contentsAfter Json.flatCodec .default result.2 [⟨8, .teardown 1 .peerClosed⟩]).map
            (· (text "vault-01")))) =
        some (some .errorMsg, some (some ⟨text "vault-01", text "Vault 1", text "10.0.0.1", 100,
          .offline, 8⟩)) ∧
      (contentsAfter Json.flatCodec .default world [⟨8, .teardown 1 .peerClosed⟩]).map
          (· (text "vault-01")) =
        some (some ⟨text "vault-01", text "Vault 1", text "10.0.0.1", 100, .online, epoch⟩) := by
    decide +kernel
  obtain ⟨possible, refused, kept⟩ := facts
  obtain ⟨⟨output, next⟩, taken, result⟩ := Option.map_eq_some_iff.mp refused
  obtain ⟨answered, after⟩ := Prod.mk.inj result
  obtain ⟨⟨target, reply⟩, rfl, error⟩ := Option.map_eq_some_iff.mp answered
  exact ⟨trace, world, target, reply, next, run_of_possible possible, taken, error, after, kept⟩

/-- A connection that asks again for the node it has is refused without consequences. -/
theorem rejected_register_inert_iff_own :
    ∃ world target reply next,
      step Json.flatCodec .default world (registerAgain 0) = some (some (target, reply), next) ∧
      reply.messageType = .errorMsg ∧
      ∀ events, contentsAfter Json.flatCodec .default next events =
        contentsAfter Json.flatCodec .default world events := by
  let world := execFinal (step Json.flatCodec .default) (.boot .empty) ownerAndOther
  let payload := registrationPayload Json.flatCodec (text "vault-01") (text "Vault 1")
    (text "10.0.0.1") 100
  have facts : (exec (step Json.flatCodec .default) (.boot .empty) ownerAndOther).isSome = true ∧
      (step Json.flatCodec .default world (registerAgain 0)).map (fun result =>
        result.1.map fun sent => sent.2.messageType) = some (some .errorMsg) ∧
      extractNodeId Json.flatCodec payload = some (world.active 0) := by decide +kernel
  obtain ⟨possible, refused, own⟩ := facts
  obtain ⟨⟨output, next⟩, taken, answered⟩ := Option.map_eq_some_iff.mp refused
  obtain ⟨⟨target, reply⟩, rfl, error⟩ := Option.map_eq_some_iff.mp answered
  refine ⟨world, target, reply, next, taken, error, ?_⟩
  refine (rejected_register_inert_iff Json.flatCodec_lawful (run_of_possible possible) rfl taken
    error).mpr fun named found => ?_
  exact Option.some.inj (found.symm.trans own)

end ExodusOps
