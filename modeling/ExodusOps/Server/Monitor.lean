/-
**The heartbeat monitor.**

A tick reads the clock, takes a snapshot, and then turns the stale nodes OFFLINE one by one, each
under its own lock. In between the other threads go on. `lastSeenAt_eq_refreshed`: the time stamp of
an ONLINE node is the one its latest acknowledged REGISTER or accepted HEARTBEAT wrote, and a
REGISTER writes the epoch.

* `tick_evicts_late_iff` — **eviction.** The entry a tick turns OFFLINE is older than the deadline
  exactly when what was written to it since the snapshot, if anything, is.
  `evicted_after_heartbeat`: a HEARTBEAT between the two phases is lost.
* `grace_period_iff` — **the grace period**, for ticks that run undisturbed. Nothing was heard from
  an evicted node in the two intervals before exactly when it has sent a HEARTBEAT since its latest
  registration, or that registration is older. `evicted_after_registration`: a node that has just
  registered is evicted.
-/

import ExodusOps.Lib.JsonFlat
import ExodusOps.Server.History

namespace ExodusOps

open NodeRegistry (heardOf refreshOf)

variable {codec : JsonCodec} {config : ServerConfig}

/-! ### What a node's time stamp says -/

/-- The clock reading of an acknowledged REGISTER of the node. -/
def registeredAt (codec : JsonCodec) (nodeId : Bytes) (taken : Step) : Option Time :=
  (acknowledgedFor codec nodeId taken).map fun _ => taken.event.now

/-- The clock reading of a HEARTBEAT for the node that the handler accepted. -/
def heardAt (nodeId : Bytes) (taken : Step) : Option Time :=
  match taken.event.action with
  | .frame conn frame _ =>
      if frame.messageType = .heartbeat ∧ taken.before.active conn = nodeId ∧
          (HeartbeatHandler.handle taken.before.registry nodeId taken.event.now).1 = true then
        some taken.event.now
      else none
  | _ => none

theorem registeredAt_now {nodeId : Bytes} {taken : Step} {moment : Time}
    (registered : registeredAt codec nodeId taken = some moment) : taken.event.now = moment := by
  obtain ⟨_, _, same⟩ := Option.map_eq_some_iff.mp registered
  exact same

theorem heardAt_now {nodeId : Bytes} {taken : Step} {moment : Time}
    (heard : heardAt nodeId taken = some moment) : taken.event.now = moment := by
  unfold heardAt at heard
  split at heard
  · exact Option.some.inj (Option.ite_none_right_eq_some.mp heard).2
  · cases heard

/-- The time stamp a step gives a node: the epoch if it registers, the clock reading if it is
heard. -/
def refreshedAt (codec : JsonCodec) (nodeId : Bytes) (taken : Step) : Option Time :=
  ((registeredAt codec nodeId taken).map fun _ => epoch).or (heardAt nodeId taken)

theorem heardAt_eq (codec : JsonCodec) (nodeId : Bytes) (taken : Step) :
    (registryMove codec taken).bind (heardOf nodeId) = heardAt nodeId taken := by
  by_cases framed : ∃ conn frame listing, taken.event.action = .frame conn frame listing
  · obtain ⟨world, ⟨now, _⟩, output, next⟩ := taken
    obtain ⟨conn, frame, listing, rfl⟩ := framed
    simp only [registryMove, registryCall, heardAt, HeartbeatHandler.handle]
    by_cases register : frame.messageType = .register
    · have other : frame.messageType ≠ .heartbeat := by rw [register]; decide
      simp only [if_pos register, other, false_and, if_false]
      cases RegisterHandler.request codec frame.payload <;> rfl
    · by_cases heartbeat : frame.messageType = .heartbeat
      · have reads (answer : Bool) : heardOf nodeId ⟨world.registry,
            .updateLastSeen (world.active conn) now, .updated answer, next.registry⟩ =
              if world.active conn = nodeId ∧ answer = true then some now else none := by
          cases answer <;> simp [heardOf]
        rw [if_neg register, if_pos heartbeat, Option.map_some, Option.bind_some]
        simp only [NodeRegistry.perform, reads, heartbeat, true_and]
        by_cases same : world.active conn = nodeId
        · rw [same]
        · simp only [same, false_and]
      · simp [register, heartbeat]
  · rw [registryMove_bind_of_not_frame _ framed, heardAt]
    · split
      · rename_i conn frame listing action
        exact absurd ⟨conn, frame, listing, action⟩ framed
      · rfl
    · intro completed other now event
      simp only [heardOf, event]

/-- What the registry records of a step as a time stamp. -/
theorem refreshedAt_eq {taken : Step}
    (step : step codec config taken.before taken.event = some (taken.output, taken.after))
    (nodeId : Bytes) :
    (registryMove codec taken).bind (refreshOf nodeId) = refreshedAt codec nodeId taken := by
  have registered := registration_eq_acknowledged step nodeId
  have stamped : ((acknowledgedFor codec nodeId taken).map Prod.snd).map NodeEntry.lastSeenAt =
      (registeredAt codec nodeId taken).map fun _ => epoch := by
    rw [registeredAt]
    cases acked : acknowledgedFor codec nodeId taken with
    | none => rfl
    | some registration =>
        obtain ⟨_, _, _, _, _, _, _, _, valid⟩ :=
          acknowledged_eq_some_iff.mp (acknowledgedFor_eq_some_iff.mp acked).1
        obtain ⟨_, _, _, _, _, _, _, unstamped⟩ := RegisterHandler.request_fields valid
        exact congrArg some unstamped
  rw [refreshedAt, ← stamped, ← registered, ← heardAt_eq codec]
  cases registryMove codec taken <;> rfl

/-- Where the time stamp of an ONLINE node comes from, step by step. -/
theorem lastSeenAt_step (taken : Step)
    (step : step codec config taken.before taken.event = some (taken.output, taken.after))
    {nodeId : Bytes} {entry : NodeEntry} (named : nodeId ≠ [])
    (found : taken.after.registry.queryNode nodeId = some entry)
    (online : entry.status = .online) :
    match refreshedAt codec nodeId taken with
    | some stamp => entry.lastSeenAt = stamp
    | none => taken.before.registry.queryNode nodeId = some entry := by
  rw [← refreshedAt_eq step, registryMove]
  cases called : registryCall codec taken.before taken.event with
  | none =>
      rw [step_registry_of_none step called] at found
      exact found
  | some call =>
      have effect := step_registry_of_some step called
      rw [effect] at found ⊢
      exact NodeRegistry.lastSeenAt_perform named found online

/-- **The time stamp of an ONLINE node** is the one its latest acknowledged REGISTER or accepted
HEARTBEAT wrote. -/
theorem lastSeenAt_eq_refreshed {trace : List Step} {world : World}
    (run : Run (step codec config) (.boot .empty) trace world) {nodeId : Bytes} {entry : NodeEntry}
    (found : world.registry.queryNode nodeId = some entry) (online : entry.status = .online) :
    latest (refreshedAt codec nodeId) trace = some entry.lastSeenAt := by
  have keyed := NodeRegistry.keyed_of_run (registry_run run)
  induction run with
  | nil => cases found
  | @snoc trace before after event output previous taken ih =>
      have source := lastSeenAt_step ⟨before, event, output, after⟩ taken
        (keyed nodeId entry found).2 found online
      rw [latest_concat]
      cases stamped : refreshedAt codec nodeId ⟨before, event, output, after⟩ with
      | some stamp =>
          rw [stamped] at source
          rw [source]
          rfl
      | none =>
          rw [stamped] at source
          exact ih source (NodeRegistry.keyed_of_run (registry_run previous))

/-! ### The sweep -/

/-- The step that began a tick. -/
def tickStarted (taken : Step) : Option Step :=
  match taken.event.action with
  | .tickStart _ => some taken
  | _ => none

theorem tickStarted_self {taken tick : Step} (started : tickStarted taken = some tick) :
    taken = tick := by
  unfold tickStarted at started
  split at started
  · exact Option.some.inj started
  · cases started

/-- A sweep goes on: only the next tick changes its deadline or adds to what is left to do. -/
theorem sweep_step (taken : Step)
    (step : step codec config taken.before taken.event = some (taken.output, taken.after))
    (same : tickStarted taken = none) :
    taken.after.deadline = taken.before.deadline ∧ taken.after.stale ⊆ taken.before.stale := by
  obtain ⟨deadline, stale⟩ := step_sweep step
  obtain ⟨world, ⟨now, action⟩, output, next⟩ := taken
  dsimp only at deadline stale ⊢
  cases action with
  | tickStart snapshot => cases same
  | tickOffline => exact ⟨deadline, stale ▸ (List.tail_sublist _).subset⟩
  | _ => exact ⟨deadline, stale ▸ List.Subset.refl _⟩

/-- **What a sweep has still to do** was stale when its tick began. -/
theorem tickStarted_of_stale {registry : NodeRegistry} {trace : List Step} {world : World}
    (run : Run (step codec config) (.boot registry) trace world) {nodeId : Bytes}
    (stale : nodeId ∈ world.stale) :
    ∃ tick, latest tickStarted trace = some tick ∧ world.deadline = tick.after.deadline ∧
      nodeId ∈ tick.after.stale := by
  induction run with
  | nil => cases stale
  | @snoc trace before after event output previous taken ih =>
      cases started : tickStarted ⟨before, event, output, after⟩ with
      | some tick =>
          rw [latest_concat, started, ← tickStarted_self started]
          exact ⟨_, rfl, rfl, stale⟩
      | none =>
          obtain ⟨deadline, shrinks⟩ := sweep_step ⟨before, event, output, after⟩ taken started
          obtain ⟨tick, last, same, member⟩ := ih (shrinks stale)
          rw [latest_concat, started]
          exact ⟨tick, last, deadline.trans same, member⟩

/-- The candidates of a snapshot are ONLINE and late. -/
theorem late_of_staleIds {registry : NodeRegistry} (keyed : registry.Keyed)
    {snapshot : List NodeEntry} (complete : registry.IsSnapshot snapshot) {deadline : Time}
    {nodeId : Bytes} (stale : nodeId ∈ staleIds deadline snapshot) :
    ∃ entry, registry.queryNode nodeId = some entry ∧ entry.status = .online ∧
      entry.lastSeenAt < deadline := by
  obtain ⟨entry, member, rfl⟩ := List.mem_map.mp stale
  obtain ⟨listed, late⟩ := List.mem_filter.mp member
  obtain ⟨online, old⟩ := decide_eq_true_eq.mp late
  exact ⟨entry, (keyed.mem_snapshot complete entry).mp listed, online, old⟩

/-- **The time stamp under a sweep**: what was written to the node since the snapshot, or else a
time before the deadline. -/
theorem lastSeenAt_of_stale {trace : List Step} {world : World}
    (run : Run (step codec config) (.boot .empty) trace world) {nodeId : Bytes}
    (stale : nodeId ∈ world.stale) {entry : NodeEntry}
    (found : world.registry.queryNode nodeId = some entry) (online : entry.status = .online) :
    ∃ tick, latest tickStarted trace = some tick ∧
      match latest (refreshedAt codec nodeId) (sinceLatest tickStarted trace) with
      | some stamp => entry.lastSeenAt = stamp
      | none => entry.lastSeenAt < tick.event.now - config.grace := by
  obtain ⟨tick, last, _, listed⟩ := tickStarted_of_stale run stale
  refine ⟨tick, last, ?_⟩
  obtain ⟨earlier, started, split, began, _⟩ :=
    (lastHit_eq_some_iff _ _ _ _).mp (lastHit_of_latest last)
  generalize sinceLatest tickStarted trace = since at split ⊢
  subst split
  obtain ⟨before, step, _⟩ := run.cut
  obtain ⟨world₀, ⟨now, action⟩, output, next⟩ := started
  dsimp only at before step
  cases action with
  | tickStart snapshot =>
      cases began
      obtain ⟨_, complete, _, rfl⟩ := step_tickStart_iff.mp step
      obtain ⟨entry₀, found₀, online₀, old⟩ := late_of_staleIds
        (NodeRegistry.keyed_of_run (registry_run before)) complete listed
      have stamp₀ := lastSeenAt_eq_refreshed before found₀ online₀
      have stamp := lastSeenAt_eq_refreshed run found online
      -- the tick itself writes nothing, so without a later stamp the two are the same
      rw [List.append_cons, latest_append, latest_concat] at stamp
      cases later : latest (refreshedAt codec nodeId) since with
      | some value =>
          rw [later] at stamp
          exact (Option.some.inj stamp).symm
      | none =>
          rw [later, stamp₀] at stamp
          exact (Option.some.inj stamp) ▸ old
  | _ => cases began

/-- A tick turns nothing but the head of its list OFFLINE. -/
theorem stale_of_evicted {world next : World} {now : Time} {output : Option (Nat × Reply)}
    (taken : step codec config world ⟨now, .tickOffline⟩ = some (output, next)) {nodeId : Bytes}
    (online : world.registry.isOnline nodeId = true)
    (evicted : next.registry.isOnline nodeId = false) : nodeId ∈ world.stale := by
  obtain ⟨target, rest, stale, _, rfl⟩ := step_tickOffline_iff.mp taken
  by_cases same : nodeId = target
  · rw [stale, same]
    exact List.mem_cons_self
  · obtain ⟨entry, found, status⟩ := NodeRegistry.isOnline_iff.mp online
    have still : (world.registry.setOffline target now).isOnline nodeId = true :=
      NodeRegistry.isOnline_iff.mpr
        ⟨entry, by rw [NodeRegistry.queryNode_setOffline, if_neg (same ·.1), found], status⟩
    rw [still] at evicted
    cases evicted

/-- **Eviction.** When a tick turns a node from ONLINE to OFFLINE, the node's `last_seen_at` is
older than the deadline of that tick exactly when the time stamp that a REGISTER or a HEARTBEAT
wrote last since the snapshot, if one did, is. -/
theorem tick_evicts_late_iff {trace : List Step} {world : World}
    (run : Run (step codec config) (.boot .empty) trace world) {now : Time}
    {output : Option (Nat × Reply)} {next : World}
    (taken : step codec config world ⟨now, .tickOffline⟩ = some (output, next)) {nodeId : Bytes}
    {entry : NodeEntry} (found : world.registry.queryNode nodeId = some entry)
    (online : entry.status = .online) (evicted : next.registry.isOnline nodeId = false) :
    ∃ tick, latest tickStarted trace = some tick ∧
      (entry.lastSeenAt < tick.event.now - config.grace ↔
        ∀ stamp ∈ latest (refreshedAt codec nodeId) (sinceLatest tickStarted trace),
          stamp < tick.event.now - config.grace) := by
  have stale := stale_of_evicted taken
    (NodeRegistry.isOnline_iff.mpr ⟨entry, found, online⟩) evicted
  obtain ⟨tick, last, stamp⟩ := lastSeenAt_of_stale run stale found online
  refine ⟨tick, last, ?_⟩
  cases later : latest (refreshedAt codec nodeId) (sinceLatest tickStarted trace) with
  | some value =>
      rw [later] at stamp
      simp [stamp]
  | none =>
      rw [later] at stamp
      simp [stamp]

/-- A node registers; while a tick is between its phases the node sends a HEARTBEAT. -/
def heartbeatDuringTick : List Event :=
  [⟨0, .accept⟩, ⟨1, .welcome 0 true⟩, ⟨2, .configure 0 true⟩,
    ⟨3, .frame 0 ⟨.register, 0, registrationPayload Json.flatCodec (text "vault-01")
      (text "Vault 1") (text "10.0.0.1") 100⟩ []⟩,
    ⟨20000000000, .tickStart
      [⟨text "vault-01", text "Vault 1", text "10.0.0.1", 100, .online, epoch⟩]⟩,
    ⟨20000000001, .frame 0 ⟨.heartbeat, 1, []⟩ []⟩]

/-- **A HEARTBEAT is lost**: the tick that began at 20 s turns a node OFFLINE that was heard from
after that, when the deadline was at 10 s. -/
theorem evicted_after_heartbeat :
    ∃ trace world output next, Run (step Json.flatCodec .default) (.boot .empty) trace world ∧
      (latest tickStarted trace).map (fun tick => tick.event.now - ServerConfig.default.grace) =
        some 10000000000 ∧
      world.registry.queryNode (text "vault-01") =
        some ⟨text "vault-01", text "Vault 1", text "10.0.0.1", 100, .online, 20000000001⟩ ∧
      step Json.flatCodec .default world ⟨20000000002, .tickOffline⟩ = some (output, next) ∧
      next.registry.queryNode (text "vault-01") =
        some ⟨text "vault-01", text "Vault 1", text "10.0.0.1", 100, .offline, 20000000002⟩ := by
  let trace := execTrace (step Json.flatCodec .default) (.boot .empty) heartbeatDuringTick
  let final := execFinal (step Json.flatCodec .default) (.boot .empty) heartbeatDuringTick
  have facts : (exec (step Json.flatCodec .default) (.boot .empty) heartbeatDuringTick).isSome =
        true ∧
      (step Json.flatCodec .default final ⟨20000000002, .tickOffline⟩).map
        (fun result => result.2.registry.queryNode (text "vault-01")) =
          some (some ⟨text "vault-01", text "Vault 1", text "10.0.0.1", 100, .offline,
            20000000002⟩) ∧
      (latest tickStarted trace).map (fun tick => tick.event.now - ServerConfig.default.grace) =
        some 10000000000 ∧
      final.registry.queryNode (text "vault-01") =
        some ⟨text "vault-01", text "Vault 1", text "10.0.0.1", 100, .online, 20000000001⟩ := by
    decide +kernel
  obtain ⟨possible, ended, deadline, found⟩ := facts
  obtain ⟨⟨output, next⟩, taken, after⟩ := Option.map_eq_some_iff.mp ended
  exact ⟨trace, final, output, next, run_of_possible possible, deadline, found, taken, after⟩

/-- Without the HEARTBEAT the node is late. -/
theorem tick_evicts_late_iff_silent :
    ∃ tick, latest tickStarted (execTrace (step Json.flatCodec .default) (.boot .empty)
        (heartbeatDuringTick.eraseIdx 5)) = some tick ∧
      epoch < tick.event.now - ServerConfig.default.grace := by
  let events := heartbeatDuringTick.eraseIdx 5
  let final := execFinal (step Json.flatCodec .default) (.boot .empty) events
  have facts : (exec (step Json.flatCodec .default) (.boot .empty) events).isSome = true ∧
      (step Json.flatCodec .default final ⟨20000000002, .tickOffline⟩).map
        (fun result => result.2.registry.isOnline (text "vault-01")) = some false ∧
      final.registry.queryNode (text "vault-01") =
        some ⟨text "vault-01", text "Vault 1", text "10.0.0.1", 100, .online, epoch⟩ ∧
      latest (refreshedAt Json.flatCodec (text "vault-01")) (sinceLatest tickStarted
        (execTrace (step Json.flatCodec .default) (.boot .empty) events)) = none := by
    decide +kernel
  obtain ⟨possible, ended, found, quiet⟩ := facts
  obtain ⟨⟨output, next⟩, taken, evicted⟩ := Option.map_eq_some_iff.mp ended
  obtain ⟨tick, last, late⟩ :=
    tick_evicts_late_iff (run_of_possible possible) taken found rfl evicted
  exact ⟨tick, last, late.mpr (by rw [quiet]; exact nofun)⟩

/-! ### The grace period -/

theorem refreshedAt_eq_none_iff {nodeId : Bytes} {taken : Step} :
    refreshedAt codec nodeId taken = none ↔
      registeredAt codec nodeId taken = none ∧ heardAt nodeId taken = none := by
  simp [refreshedAt]

/-- While an undisturbed sweep has something left to do, it has been alone since its snapshot. -/
theorem alone_since_tick {registry : NodeRegistry} {trace : List Step} {world : World}
    (run : Run (step codec config) (.boot registry) trace world)
    (atomic : ∀ taken ∈ trace, taken.before.stale ≠ [] → taken.event.action = .tickOffline)
    (unfinished : world.stale ≠ []) :
    ∀ taken ∈ sinceLatest tickStarted trace, taken.event.action = .tickOffline := by
  intro taken member
  induction run with
  | nil => cases member
  | @snoc trace before after event output previous step ih =>
      obtain ⟨same, inside⟩ := mem_sinceLatest_concat member
      obtain ⟨_, shrinks⟩ := sweep_step ⟨before, event, output, after⟩ step same
      have busy : before.stale ≠ [] := fun done =>
        unfinished (List.subset_nil.mp (done ▸ shrinks))
      rcases inside with earlier | rfl
      · exact ih (fun other member => atomic other (List.mem_append_left _ member)) busy earlier
      · exact atomic _ (List.mem_append_right _ List.mem_cons_self) busy

/-- An undisturbed tick turns OFFLINE only what was last seen two intervals ago. -/
theorem late_of_evicted {trace : List Step} {world : World}
    (run : Run (step codec config) (.boot .empty) trace world)
    (atomic : ∀ taken ∈ trace, taken.before.stale ≠ [] → taken.event.action = .tickOffline)
    {now : Time} (past : ∀ taken ∈ trace, taken.event.now ≤ now) {nodeId : Bytes}
    (stale : nodeId ∈ world.stale) {entry : NodeEntry}
    (found : world.registry.queryNode nodeId = some entry) (online : entry.status = .online) :
    entry.lastSeenAt < now - config.grace := by
  have alone := alone_since_tick run atomic (List.ne_nil_of_mem stale)
  have quiet : lastHit (refreshedAt codec nodeId) (sinceLatest tickStarted trace) = none := by
    refine (lastHit_eq_none_iff _ _).mpr fun taken member => refreshedAt_eq_none_iff.mpr ?_
    simp [registeredAt, acknowledgedFor, acknowledged, heardAt, alone taken member]
  obtain ⟨tick, last, late⟩ := lastSeenAt_of_stale run stale found online
  rw [latest, quiet] at late
  obtain ⟨started, member, began⟩ := exists_of_latest last
  have before : tick.event.now ≤ now := tickStarted_self began ▸ past started member
  exact lt_of_lt_of_le late (Int.sub_le_sub_right before _)

/-- **The grace period.** In a run with undisturbed ticks and a monotone clock, a tick turns a node
from ONLINE to OFFLINE. Then no REGISTER of the node was acknowledged and no HEARTBEAT accepted
in the two intervals before, exactly when a HEARTBEAT was accepted since its latest registration or
that registration is older than the two intervals. -/
theorem grace_period_iff {trace : List Step} {world : World}
    (run : Run (step codec config) (.boot .empty) trace world)
    (atomic : ∀ taken ∈ trace, taken.before.stale ≠ [] → taken.event.action = .tickOffline)
    {now : Time}
    (monotone : (trace.map (fun taken => taken.event.now) ++ [now]).Pairwise (· ≤ ·))
    {output : Option (Nat × Reply)} {next : World}
    (taken : step codec config world ⟨now, .tickOffline⟩ = some (output, next)) {nodeId : Bytes}
    (online : world.registry.isOnline nodeId = true)
    (evicted : next.registry.isOnline nodeId = false) :
    (∀ earlier ∈ trace, now - config.grace ≤ earlier.event.now →
      registeredAt codec nodeId earlier = none ∧ heardAt nodeId earlier = none) ↔
    (∃ heard ∈ sinceLatest (registeredAt codec nodeId) trace, (heardAt nodeId heard).isSome) ∨
      ∀ moment ∈ latest (registeredAt codec nodeId) trace, moment < now - config.grace := by
  obtain ⟨ordered, _, before⟩ := List.pairwise_append.mp monotone
  have past : ∀ earlier ∈ trace, earlier.event.now ≤ now := fun earlier member =>
    before _ (List.mem_map_of_mem member) now List.mem_cons_self
  have stale := stale_of_evicted taken online evicted
  obtain ⟨entry, found, status⟩ := NodeRegistry.isOnline_iff.mp online
  have late := late_of_evicted run atomic past stale found status
  -- the latest step that wrote the node's time stamp
  obtain ⟨front, refresh, split, written, quiet⟩ := (lastHit_eq_some_iff _ _ _ _).mp
    (lastHit_of_latest (lastSeenAt_eq_refreshed run found status))
  generalize sinceLatest (refreshedAt codec nodeId) trace = later at split quiet
  subst split
  constructor
  · intro silent
    refine .inr fun moment registered => ?_
    obtain ⟨step, member, accepted⟩ := exists_of_latest registered
    by_contra recent
    rw [(silent step member (registeredAt_now accepted ▸ Int.not_lt.mp recent)).1] at accepted
    cases accepted
  · intro heard earlier member recent
    refine refreshedAt_eq_none_iff.mp ?_
    have old : refresh.event.now < now - config.grace := by
      cases registered : registeredAt codec nodeId refresh with
      | some moment =>
          have last : lastHit (registeredAt codec nodeId) (front ++ refresh :: later) =
              some (moment, later) := (lastHit_eq_some_iff _ _ _ _).mpr
            ⟨front, refresh, rfl, registered, fun other after =>
              (refreshedAt_eq_none_iff.mp (quiet other after)).1⟩
          rw [sinceLatest, latest, last] at heard
          rcases heard with ⟨step, after, accepted⟩ | settled
          · rw [(refreshedAt_eq_none_iff.mp (quiet step after)).2] at accepted
            cases accepted
          · exact registeredAt_now registered ▸ settled moment rfl
      | none =>
          -- a HEARTBEAT: it wrote its own clock reading
          rw [refreshedAt, registered] at written
          exact heardAt_now written ▸ late
    by_contra refreshed
    have bounded := le_of_not_after (List.pairwise_map.mp ordered) member
      fun after => refreshed (quiet earlier after)
    exact absurd (lt_of_le_of_lt (recent.trans bounded) old) (lt_irrefl _)

/-- A node registers at 30 s, and a tick begins a second later. -/
def tickAfterRegister : List Event :=
  [⟨30000000000, .accept⟩, ⟨30000000001, .welcome 0 true⟩, ⟨30000000002, .configure 0 true⟩,
    ⟨30000000003, .frame 0 ⟨.register, 0, registrationPayload Json.flatCodec (text "vault-01")
      (text "Vault 1") (text "10.0.0.1") 100⟩ []⟩,
    ⟨31000000000, .tickStart
      [⟨text "vault-01", text "Vault 1", text "10.0.0.1", 100, .online, epoch⟩]⟩]

/-- **No grace**: the tick turns the node OFFLINE one second after its REGISTER was acknowledged,
with two intervals of five seconds. -/
theorem evicted_after_registration :
    ∃ trace world output next, Run (step Json.flatCodec .default) (.boot .empty) trace world ∧
      (∀ taken ∈ trace, taken.before.stale ≠ [] → taken.event.action = .tickOffline) ∧
      (trace.map (fun taken : Step => taken.event.now) ++ [31000000001]).Pairwise (· ≤ ·) ∧
      (∀ taken ∈ trace, ServerConfig.default.grace ≤ taken.event.now) ∧
      step Json.flatCodec .default world ⟨31000000001, .tickOffline⟩ = some (output, next) ∧
      world.registry.isOnline (text "vault-01") = true ∧
      next.registry.isOnline (text "vault-01") = false ∧
      ∃ earlier ∈ trace, 31000000001 - ServerConfig.default.grace ≤ earlier.event.now ∧
        registeredAt Json.flatCodec (text "vault-01") earlier = some 30000000003 := by
  let trace := execTrace (step Json.flatCodec .default) (.boot .empty) tickAfterRegister
  let final := execFinal (step Json.flatCodec .default) (.boot .empty) tickAfterRegister
  have facts : (exec (step Json.flatCodec .default) (.boot .empty) tickAfterRegister).isSome =
        true ∧
      (∀ taken ∈ trace, taken.before.stale ≠ [] → taken.event.action = .tickOffline) ∧
      (trace.map (fun taken : Step => taken.event.now) ++ [31000000001]).Pairwise (· ≤ ·) ∧
      (∀ taken ∈ trace, ServerConfig.default.grace ≤ taken.event.now) ∧
      final.registry.isOnline (text "vault-01") = true ∧
      (step Json.flatCodec .default final ⟨31000000001, .tickOffline⟩).map
        (fun result => result.2.registry.isOnline (text "vault-01")) = some false ∧
      ∃ earlier ∈ trace, 31000000001 - ServerConfig.default.grace ≤ earlier.event.now ∧
        registeredAt Json.flatCodec (text "vault-01") earlier = some 30000000003 := by
    decide +kernel
  obtain ⟨possible, atomic, monotone, past, online, ended, registered⟩ := facts
  obtain ⟨⟨output, next⟩, taken, evicted⟩ := Option.map_eq_some_iff.mp ended
  exact ⟨trace, final, output, next, run_of_possible possible, atomic, monotone, past, taken,
    online, evicted, registered⟩

/-- The same node, but it sends a HEARTBEAT and the tick begins at 50 s. -/
def tickAfterHeartbeat : List Event :=
  tickAfterRegister.take 4 ++ [⟨31000000000, .frame 0 ⟨.heartbeat, 1, []⟩ []⟩,
    ⟨50000000000, .tickStart
      [⟨text "vault-01", text "Vault 1", text "10.0.0.1", 100, .online, 31000000000⟩]⟩]

/-- A node that was heard from since it registered is evicted only after two silent intervals. -/
theorem grace_period_iff_heard :
    (step Json.flatCodec .default
        (execFinal (step Json.flatCodec .default) (.boot .empty) tickAfterHeartbeat)
        ⟨50000000001, .tickOffline⟩).map
      (fun result => result.2.registry.isOnline (text "vault-01")) = some false ∧
    ∀ earlier ∈ execTrace (step Json.flatCodec .default) (.boot .empty) tickAfterHeartbeat,
      50000000001 - ServerConfig.default.grace ≤ earlier.event.now →
        registeredAt Json.flatCodec (text "vault-01") earlier = none ∧
          heardAt (text "vault-01") earlier = none := by
  let trace := execTrace (step Json.flatCodec .default) (.boot .empty) tickAfterHeartbeat
  let final := execFinal (step Json.flatCodec .default) (.boot .empty) tickAfterHeartbeat
  have facts : (exec (step Json.flatCodec .default) (.boot .empty) tickAfterHeartbeat).isSome =
        true ∧
      (∀ taken ∈ trace, taken.before.stale ≠ [] → taken.event.action = .tickOffline) ∧
      (trace.map (fun taken : Step => taken.event.now) ++ [50000000001]).Pairwise (· ≤ ·) ∧
      final.registry.isOnline (text "vault-01") = true ∧
      (step Json.flatCodec .default final ⟨50000000001, .tickOffline⟩).map
        (fun result => result.2.registry.isOnline (text "vault-01")) = some false ∧
      ∃ taken ∈ sinceLatest (registeredAt Json.flatCodec (text "vault-01")) trace,
        (heardAt (text "vault-01") taken).isSome := by decide +kernel
  obtain ⟨possible, atomic, monotone, online, ended, heard⟩ := facts
  refine ⟨ended, ?_⟩
  obtain ⟨⟨output, next⟩, taken, evicted⟩ := Option.map_eq_some_iff.mp ended
  exact (grace_period_iff (run_of_possible possible) atomic monotone taken online evicted).mpr
    (.inl heard)

end ExodusOps
