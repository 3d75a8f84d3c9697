/-
**The history of a running server.**

A run of the server, seen through the registry, is a run of the registry (`registry_run`): what
`ExodusOps.Registry.History` proves about the calls of all threads holds of the server. The
registrations of that history are the REGISTER frames answered with an ACK
(`registration_eq_acknowledged`), so what a query returns is what the latest acknowledged REGISTER
asked for and what happened since (`queryNode_eq_acknowledged`). What a connection remembers is the
id its latest REGISTER named, acknowledged or not (`active_eq_named`).
-/

import ExodusOps.Server.World

namespace ExodusOps

open NodeRegistry (Completed registryStep registrationOf entrySince)

/-- One step of the server, with its output and the state it led to. -/
abbrev Step := Transition World Event (Option (Nat × Reply))

/-! ### The registry's share of a run -/

/-- The completed registry call of a step. -/
def registryMove (codec : JsonCodec) (taken : Step) : Option Completed :=
  (registryCall codec taken.before taken.event).map fun call =>
    ⟨taken.before.registry, call, (taken.before.registry.perform call).1, taken.after.registry⟩

/-- The registry calls of a run, in order. -/
def registryHistory (codec : JsonCodec) (trace : List Step) : List Completed :=
  trace.filterMap (registryMove codec)

variable {codec : JsonCodec} {config : ServerConfig}

/-- What does not concern `setOffline` calls is seen in frames only. -/
theorem registryMove_bind_of_not_frame {α : Type} {select : Completed → Option α}
    (ignores : ∀ completed nodeId now, completed.event = .setOffline nodeId now →
      select completed = none) {taken : Step}
    (other : ¬ ∃ conn frame listing, taken.event.action = .frame conn frame listing) :
    (registryMove codec taken).bind select = none := by
  rw [registryMove]
  cases called : registryCall codec taken.before taken.event with
  | none => rfl
  | some call =>
      obtain ⟨nodeId, rfl⟩ := registryCall_of_not_frame other called
      exact ignores _ nodeId _ rfl

/-- **The server refines the registry**: its runs are runs of the registry. -/
theorem registry_run {start world : World} {trace : List Step}
    (run : Run (step codec config) start trace world) :
    Run registryStep start.registry (registryHistory codec trace) world.registry := by
  refine run.project World.registry (registryMove codec) ?_ ?_
  · intro transition taken idle
    have effect := step_registry taken
    rw [Option.map_eq_none_iff.mp idle] at effect
    exact effect
  · intro transition other taken moved
    obtain ⟨call, called, rfl⟩ := Option.map_eq_some_iff.mp moved
    have effect := step_registry taken
    rw [called] at effect
    refine ⟨rfl, rfl, ?_⟩
    simp only [registryStep, effect]
    rfl

/-! ### Acknowledged registrations -/

/-- A REGISTER frame that was answered with an ACK: the connection, and the entry asked for. -/
def acknowledged (codec : JsonCodec) (taken : Step) : Option (Nat × NodeEntry) :=
  match taken.event.action, taken.output with
  | .frame conn frame _, some (_, reply) =>
      if frame.messageType = .register ∧ reply.messageType = .ack then
        (RegisterHandler.request codec frame.payload).map (conn, ·)
      else none
  | _, _ => none

/-- The same, for one node. -/
def acknowledgedFor (codec : JsonCodec) (nodeId : Bytes) (taken : Step) :
    Option (Nat × NodeEntry) :=
  (acknowledged codec taken).filter fun registration => registration.2.nodeId = nodeId

theorem acknowledged_eq_some_iff {taken : Step} {conn : Nat} {entry : NodeEntry} :
    acknowledged codec taken = some (conn, entry) ↔
      ∃ frame listing target reply, taken.event.action = .frame conn frame listing ∧
        taken.output = some (target, reply) ∧ frame.messageType = .register ∧
        reply.messageType = .ack ∧ RegisterHandler.request codec frame.payload = some entry := by
  unfold acknowledged
  constructor
  · intro found
    split at found
    · rename_i sender frame listing target reply action output
      split_ifs at found with both
      obtain ⟨asked, valid, same⟩ := Option.map_eq_some_iff.mp found
      cases same
      exact ⟨frame, listing, target, reply, action, output, both.1, both.2, valid⟩
    · cases found
  · rintro ⟨frame, listing, target, reply, action, output, register, ack, valid⟩
    simp only [action, output, register, ack, and_self, if_true, valid, Option.map_some]

theorem acknowledgedFor_eq_some_iff {taken : Step} {nodeId : Bytes} {conn : Nat}
    {entry : NodeEntry} : acknowledgedFor codec nodeId taken = some (conn, entry) ↔
      acknowledged codec taken = some (conn, entry) ∧ entry.nodeId = nodeId := by
  simp [acknowledgedFor, Option.filter_eq_some_iff]

/-- A REGISTER is acknowledged when it is valid and the registry takes it. -/
theorem acknowledged_register {world next : World} {now : Time} {conn : Nat} {frame : Frame}
    {listing : List NodeEntry} {output : Option (Nat × Reply)}
    (register : frame.messageType = .register)
    (taken : step codec config world ⟨now, .frame conn frame listing⟩ = some (output, next)) :
    acknowledged codec ⟨world, ⟨now, .frame conn frame listing⟩, output, next⟩ =
      ((RegisterHandler.request codec frame.payload).filter fun entry =>
        (world.registry.registerNode entry).1 = .ok).map (conn, ·) := by
  obtain ⟨connection, served, _, _, _, rfl, _, rfl, _⟩ := step_frame_iff.mp taken
  have distinct : MessageType.errorMsg ≠ MessageType.ack := by decide
  rcases RegisterHandler.handle_cases codec world.registry frame.messageId frame.payload with
    ⟨_, invalid, result⟩ | ⟨entry, valid, accepted, result⟩ | ⟨entry, valid, refused, result⟩
  · simp [acknowledged, dispatch, register, result, invalid, errorReply, distinct]
  · simp [acknowledged, dispatch, register, result, valid, accepted, ackReply, Option.filter]
  · simp [acknowledged, dispatch, register, result, valid, refused, errorReply, distinct,
      Option.filter]

/-- What the registry records of a step as a registration. -/
theorem registration_eq_acknowledged {taken : Step}
    (step : step codec config taken.before taken.event = some (taken.output, taken.after))
    (nodeId : Bytes) :
    (registryMove codec taken).bind (registrationOf nodeId) =
      (acknowledgedFor codec nodeId taken).map Prod.snd := by
  by_cases framed : ∃ conn frame listing, taken.event.action = .frame conn frame listing
  · obtain ⟨world, ⟨now, _⟩, output, next⟩ := taken
    obtain ⟨conn, frame, listing, rfl⟩ := framed
    by_cases register : frame.messageType = .register
    · simp only [acknowledgedFor, acknowledged_register register step, registryMove, registryCall,
        if_pos register]
      cases RegisterHandler.request codec frame.payload with
      | none => rfl
      | some entry =>
          cases result : (world.registry.registerNode entry).1 <;>
            by_cases named : entry.nodeId = nodeId <;>
              simp [NodeRegistry.perform, registrationOf, result, named, Option.filter]
    · have none : acknowledgedFor codec nodeId ⟨world, ⟨now, .frame conn frame listing⟩, output,
          next⟩ = none := by
        cases output <;> simp [acknowledgedFor, acknowledged, register]
      rw [none, registryMove]
      simp only [registryCall, if_neg register]
      split_ifs <;> rfl
  · have none : acknowledgedFor codec nodeId taken = none := by
      cases acked : acknowledgedFor codec nodeId taken with
      | none => rfl
      | some registration =>
          obtain ⟨frame, listing, _, _, action, _⟩ :=
            acknowledged_eq_some_iff.mp (acknowledgedFor_eq_some_iff.mp acked).1
          exact absurd ⟨registration.1, frame, listing, action⟩ framed
    rw [none, registryMove_bind_of_not_frame _ framed]
    · rfl
    · intro completed other now event
      simp only [registrationOf, event]

/-- **What a query returns**: the entry of the latest acknowledged REGISTER of the node, with what
happened to it since. -/
theorem queryNode_eq_acknowledged {trace : List Step} {world : World}
    (run : Run (step codec config) (.boot .empty) trace world) (nodeId : Bytes) :
    world.registry.queryNode nodeId =
      (lastHit (acknowledgedFor codec nodeId) trace).map fun hit =>
        entrySince nodeId hit.1.2 (registryHistory codec hit.2) := by
  have agree : ∀ taken ∈ trace, (registryMove codec taken).bind (registrationOf nodeId) =
      (acknowledgedFor codec nodeId taken).map Prod.snd :=
    fun taken member => registration_eq_acknowledged (run.taken member) nodeId
  rw [NodeRegistry.queryNode_eq_recorded (registry_run run), NodeRegistry.recorded,
    registryHistory, lastHit_filterMap, lastHit_congr agree, lastHit_map, Option.map_map,
    Option.map_map]
  rfl

/-! ### What a connection remembers -/

/-- **The remembered id is the one named last**, whatever became of that REGISTER. -/
theorem active_eq_named {registry : NodeRegistry} {trace : List Step} {world : World}
    (run : Run (step codec config) (.boot registry) trace world) (conn : Nat) :
    world.active conn =
      (latest (fun taken : Step => namedBy codec conn taken.event) trace).getD [] := by
  induction run with
  | nil => rfl
  | snoc _ taken ih =>
      rw [step_active taken, ih, latest_concat]
      cases namedBy codec conn _ <;> rfl

end ExodusOps
