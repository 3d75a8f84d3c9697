/-
**One tick of the heartbeat monitor, with its log lines.**

`tick` is `HeartbeatMonitor::tick` as one function, for a tick during which no one else touches the
registry: a loop over a snapshot collects the ids of the stale entries, and a second loop turns them
OFFLINE and logs each. An id the JSON library cannot write throws out of the second loop.

* `tick_run` — the registry after a tick is the one its steps lead to in the running server.
* `tick_exact_iff` — **the tick is exact** (`Exact`: it turns the stale entries OFFLINE, no others,
  logs each once, and has nothing left to do) exactly when the log can write the id of every stale
  entry. `tick_breaks_off`: a tick that leaves a stale node ONLINE behind one whose id is cut in
  two.
-/

import ExodusOps.Telemetry.Reported

namespace ExodusOps.HeartbeatMonitor

open Logger

/-! ### The two loops -/

/-- What turning one node OFFLINE reads: for its span, for its entry and for its line. -/
structure OfflineReadings where
  opening : Opening
  stampedAt : Time
  loggedAt : Time

/-- What a tick leaves: the registry, the lines it has written, and whether it returned. -/
structure Ticked where
  registry : NodeRegistry
  lines : List Json
  returned : Bool

/-- The lines about a node, in a span of its own: the monitor's thread has no other open. -/
def offlineLines (minLevel : Level) (readings : OfflineReadings) (nodeId : Bytes) : List Json :=
  let span := (OtelScope.operation [] readings.opening (text "heartbeat_monitor_offline")).1
  (callsOf readings.loggedAt span (logNodeOffline minLevel nodeId)).map LogCall.line

/-- The second loop. Readings are counted by the ids still to come. -/
def turnOffline (minLevel : Level) (codec : JsonCodec) (readings : Nat → OfflineReadings) :
    NodeRegistry → List Bytes → Ticked
  | registry, [] => ⟨registry, [], true⟩
  | registry, nodeId :: rest =>
      let registry := registry.setOffline nodeId (readings rest.length).stampedAt
      let lines := offlineLines minLevel (readings rest.length) nodeId
      if lines.all (written codec) then
        let later := turnOffline minLevel codec readings registry rest
        { later with lines := lines ++ later.lines }
      else ⟨registry, [], false⟩

/-- `HeartbeatMonitor::tick`, on the snapshot `listNodes` gives it. -/
def tick (minLevel : Level) (codec : JsonCodec) (config : ServerConfig) (registry : NodeRegistry)
    (snapshot : List NodeEntry) (now : Time) (readings : Nat → OfflineReadings) : Ticked :=
  let stale := staleIds (now - config.grace) snapshot
  if stale = [] then ⟨registry, [], true⟩ else turnOffline minLevel codec readings registry stale

variable {minLevel : Level} {codec : JsonCodec} {config : ServerConfig} {registry : NodeRegistry}
  {snapshot : List NodeEntry} {now : Time} {readings : Nat → OfflineReadings}

theorem tick_eq (minLevel : Level) (codec : JsonCodec) (config : ServerConfig)
    (registry : NodeRegistry) (snapshot : List NodeEntry) (now : Time)
    (readings : Nat → OfflineReadings) :
    tick minLevel codec config registry snapshot now readings =
      turnOffline minLevel codec readings registry (staleIds (now - config.grace) snapshot) := by
  unfold tick
  simp only
  split
  · rename_i none
    rw [none, turnOffline]
  · rfl

/-! ### The lines -/

/-- An entry that is ONLINE and was last seen before a moment. -/
def Stale (deadline : Time) (entry : NodeEntry) : Prop :=
  entry.status = .online ∧ entry.lastSeenAt < deadline

instance (deadline : Time) (entry : NodeEntry) : Decidable (Stale deadline entry) :=
  inferInstanceAs (Decidable (_ ∧ _))

/-- A line about a node that went OFFLINE. -/
def IsOfflineLine (nodeId : Bytes) (line : Json) : Prop :=
  line.get? (text "event") = some (.string (text "node_offline")) ∧
    line.get? (text "node_id") = some (.string (sanitizeText nodeId))

/-- **Each node has one line**, at the levels INFO and WARN, which is written unless its id cannot
be. -/
theorem offlineLines_eq (level : minLevel = .info ∨ minLevel = .warn)
    (readings : OfflineReadings) (nodeId : Bytes) :
    ∃ line, offlineLines minLevel readings nodeId = [line] ∧ IsOfflineLine nodeId line ∧
      (line.WellFormed ↔ Utf8 (sanitizeText nodeId)) := by
  let entry : Logger.Entry := ⟨.warn, "node_offline", [field "node_id" nodeId],
    "Node marked OFFLINE — heartbeat timeout"⟩
  have logged : logNodeOffline minLevel nodeId = some entry := by
    rcases level with rfl | rfl <;> rfl
  have distinct : entry.Distinct := Entry.distinct_of_keys ["node_id"] rfl (by decide)
  let span := (OtelScope.operation [] readings.opening (text "heartbeat_monitor_offline")).1
  refine ⟨entry.line readings.loggedAt span.base, ?_, ⟨?_, ?_⟩, ?_⟩
  · simp only [offlineLines, callsOf, logged, Option.map_some, Option.toList_some, List.map_cons,
      List.map_nil, LogCall.line, span]
  · exact Entry.line_event distinct _ _
  · have member : field "node_id" nodeId ∈ entry.members readings.loggedAt span.base := by
      simp [Entry.members, entry]
    exact Json.get?_build_of_mem (distinct.members _ _) member
  · have ids : Plain span.base.traceId ∧ Plain span.base.spanId :=
      ⟨(generateHexId_hex le_rfl).plain, (generateHexId_hex one_le_two).plain⟩
    rw [Entry.line_wellFormed_iff distinct _ ids.1 ids.2, Entry.Writable,
      List.forall_mem_singleton]
    exact and_iff_right (utf8_text _)

/-! ### The second loop -/

section Loop

variable {ids : List Bytes}

/-- **The loop ends** when it can log every id. -/
theorem turnOffline_returned_iff (writes : codec.WritesText)
    (level : minLevel = .info ∨ minLevel = .warn) (readings : Nat → OfflineReadings)
    (registry : NodeRegistry) (ids : List Bytes) :
    (turnOffline minLevel codec readings registry ids).returned = true ↔
      ∀ nodeId ∈ ids, Utf8 (sanitizeText nodeId) := by
  induction ids generalizing registry with
  | nil => exact iff_of_true rfl (List.forall_mem_nil _)
  | cons nodeId rest ih =>
      obtain ⟨line, lines, _, formed⟩ := offlineLines_eq level (readings rest.length) nodeId
      simp only [turnOffline, lines, List.all_cons, List.all_nil, Bool.and_true,
        List.forall_mem_cons]
      have writable : written codec line = true ↔ Utf8 (sanitizeText nodeId) :=
        (writes line).trans formed
      by_cases whole : written codec line = true
      · rw [if_pos whole, ih, and_iff_right (writable.mp whole)]
      · rw [if_neg whole]
        exact iff_of_false nofun fun every => whole (writable.mpr every.1)

/-- **One line for each**, in their order. -/
theorem turnOffline_lines (level : minLevel = .info ∨ minLevel = .warn) (registry : NodeRegistry)
    (returned : (turnOffline minLevel codec readings registry ids).returned = true) :
    List.Forall₂ IsOfflineLine ids (turnOffline minLevel codec readings registry ids).lines := by
  induction ids generalizing registry with
  | nil => exact .nil
  | cons nodeId rest ih =>
      obtain ⟨line, lines, about, _⟩ := offlineLines_eq level (readings rest.length) nodeId
      simp only [turnOffline, lines, List.all_cons, List.all_nil, Bool.and_true] at returned ⊢
      split_ifs at returned ⊢ with whole
      exact .cons about (ih _ returned)

/-- **The entries of the ids**, and no others, are OFFLINE afterwards, with the clock reading of
their own call. -/
theorem turnOffline_queryNode (registry : NodeRegistry) (distinct : ids.Nodup)
    (named : [] ∉ ids)
    (returned : (turnOffline minLevel codec readings registry ids).returned = true)
    (nodeId : Bytes) :
    (nodeId ∉ ids → (turnOffline minLevel codec readings registry ids).registry.queryNode nodeId =
      registry.queryNode nodeId) ∧
    (nodeId ∈ ids → ∃ index < ids.length,
      (turnOffline minLevel codec readings registry ids).registry.queryNode nodeId =
        (registry.queryNode nodeId).map fun entry =>
          { entry with status := .offline, lastSeenAt := (readings index).stampedAt }) := by
  induction ids generalizing registry with
  | nil => exact ⟨fun _ => rfl, nofun⟩
  | cons first rest ih =>
      obtain ⟨fresh, distinct⟩ := List.nodup_cons.mp distinct
      rw [List.mem_cons, not_or] at named
      simp only [turnOffline] at returned ⊢
      split_ifs at returned ⊢
      obtain ⟨others, same⟩ := ih (registry.setOffline first (readings rest.length).stampedAt)
        distinct named.2 returned
      constructor
      · intro absent
        rw [List.mem_cons, not_or] at absent
        rw [others absent.2, NodeRegistry.queryNode_setOffline, if_neg fun hit => absent.1 hit.1]
      · intro member
        rcases List.mem_cons.mp member with rfl | member
        · refine ⟨rest.length, Nat.lt_succ_self _, ?_⟩
          rw [others fresh, NodeRegistry.queryNode_setOffline, if_pos ⟨rfl, Ne.symm named.1⟩]
        · obtain ⟨index, inside, result⟩ := same member
          refine ⟨index, Nat.lt_succ_of_lt inside, ?_⟩
          have apart : nodeId ≠ first := fun equal => fresh (equal ▸ member)
          rw [result, NodeRegistry.queryNode_setOffline, if_neg fun hit => apart hit.1]

end Loop

/-! ### The tick in the running server -/

/-- The lines are those of the server's log. -/
theorem calls_tickOffline {state : Observed} {nodeId : Bytes} {rest : List Bytes}
    (first : state.world.stale = nodeId :: rest) (alone : state.scopeStacks .monitor = [])
    (minLevel : Level) (codec : JsonCodec) (now : Time) (opened : Readings) (clock : LogReadings) :
    (state.calls minLevel codec ⟨now, .tickOffline⟩ opened clock).map LogCall.line =
      offlineLines minLevel ⟨opened.operation, now, clock.loggedAt⟩ nodeId := by
  simp only [Observed.calls, first, alone, offlineLines]

/-- The steps of a sweep. -/
def sweepEvents (readings : Nat → OfflineReadings) : List Bytes → List Event
  | [] => []
  | _ :: rest => ⟨(readings rest.length).stampedAt, .tickOffline⟩ :: sweepEvents readings rest

/-- **The second loop is the sweep.** -/
theorem turnOffline_exec (config : ServerConfig) (world : World)
    (returned : (turnOffline minLevel codec readings world.registry world.stale).returned = true) :
    ∃ trace, exec (step codec config) world (sweepEvents readings world.stale) =
      some (trace, { world with
        registry := (turnOffline minLevel codec readings world.registry world.stale).registry
        stale := [] }) := by
  obtain ⟨registry, connections, deadline, stale, sessions, messages⟩ := world
  simp only at returned ⊢
  induction stale generalizing registry with
  | nil => exact ⟨[], rfl⟩
  | cons nodeId rest ih =>
      simp only [turnOffline] at returned ⊢
      split_ifs at returned ⊢
      obtain ⟨trace, executed⟩ := ih _ returned
      simp only [sweepEvents, exec, step, executed, Option.map_some]
      exact ⟨_, rfl⟩

/-- **A tick is a run of the server** from any state in which no sweep is under way. -/
theorem tick_run {world : World} (idle : world.stale = [])
    (taken : world.registry.IsSnapshot snapshot)
    (returned :
      (tick minLevel codec config world.registry snapshot now readings).returned = true) :
    ∃ trace, exec (step codec config) world (⟨now, .tickStart snapshot⟩ ::
        sweepEvents readings (staleIds (now - config.grace) snapshot)) =
      some (trace, { world with
        registry := (tick minLevel codec config world.registry snapshot now readings).registry
        deadline := now - config.grace
        stale := [] }) := by
  rw [tick_eq] at returned ⊢
  let begun : World := { world with
    deadline := now - config.grace, stale := staleIds (now - config.grace) snapshot }
  have start : step codec config world ⟨now, .tickStart snapshot⟩ = some (none, begun) :=
    step_tickStart_iff.mpr ⟨idle, taken, rfl, rfl⟩
  obtain ⟨trace, executed⟩ := turnOffline_exec config begun returned
  refine ⟨⟨world, ⟨now, .tickStart snapshot⟩, none, begun⟩ :: trace, ?_⟩
  simp only [exec, start]
  exact congrArg (Option.map _) executed

/-! ### Exactness -/

theorem mem_staleIds (keyed : registry.Keyed) (taken : registry.IsSnapshot snapshot)
    (deadline : Time) (nodeId : Bytes) :
    nodeId ∈ staleIds deadline snapshot ↔
      ∃ entry, registry.queryNode nodeId = some entry ∧ Stale deadline entry := by
  simp only [staleIds, List.mem_map, List.mem_filter, keyed.mem_snapshot taken, decide_eq_true_eq]
  constructor
  · rintro ⟨entry, ⟨found, stale⟩, rfl⟩
    exact ⟨entry, found, stale⟩
  · rintro ⟨entry, found, stale⟩
    obtain ⟨rfl, _⟩ := keyed nodeId entry found
    exact ⟨entry, ⟨found, stale⟩, rfl⟩

theorem staleIds_nodup (keyed : registry.Keyed) (taken : registry.IsSnapshot snapshot)
    (deadline : Time) : (staleIds deadline snapshot).Nodup :=
  (keyed.snapshot_nodup taken).sublist (List.filter_sublist.map _)

/-- Two intervals, as the product of `uint32_t` does not wrap. -/
theorem grace_eq (config : ServerConfig) :
    config.grace = 2 * config.heartbeatIntervalSecs.toNat * 1000000000 := by
  have bound : config.heartbeatIntervalSecs.toNat ≤ 300 :=
    UInt32.le_iff_toNat_le.mp config.in_range.2
  have exact' : (config.heartbeatIntervalSecs * 2).toNat =
      2 * config.heartbeatIntervalSecs.toNat := by
    rw [UInt32.toNat_mul, show (2 : UInt32).toNat = 2 from rfl]
    omega
  rw [ServerConfig.grace, exact']
  push_cast
  rfl

/-- **What an undisturbed tick is to do.** -/
structure Exact (minLevel : Level) (codec : JsonCodec) (config : ServerConfig)
    (registry : NodeRegistry) (now : Time) (ticked : Ticked) : Prop where
  returned : ticked.returned = true
  /-- The stale entries are OFFLINE and stamped, the others as they were. -/
  contents : ∀ nodeId, ∃ stamp, ticked.registry.queryNode nodeId =
    (registry.queryNode nodeId).map fun entry =>
      if Stale (now - 2 * config.heartbeatIntervalSecs.toNat * 1000000000) entry then
        { entry with status := .offline, lastSeenAt := stamp }
      else entry
  /-- Each of them has one line. -/
  lines : ∃ ids : List Bytes, ids.Nodup ∧
    (∀ nodeId, nodeId ∈ ids ↔ ∃ entry, registry.queryNode nodeId = some entry ∧
      Stale (now - 2 * config.heartbeatIntervalSecs.toNat * 1000000000) entry) ∧
    List.Forall₂ IsOfflineLine ids ticked.lines
  /-- A second tick at the same time has nothing to do. -/
  again : ∀ snapshot readings, ticked.registry.IsSnapshot snapshot →
    tick minLevel codec config ticked.registry snapshot now readings = ⟨ticked.registry, [], true⟩

/-- **The sweep as one map over the registry.** -/
theorem sweep_contents (keyed : registry.Keyed) (taken : registry.IsSnapshot snapshot)
    (deadline : Time) (returned : (turnOffline minLevel codec readings registry
      (staleIds deadline snapshot)).returned = true) (nodeId : Bytes) :
    ∃ stamp, (turnOffline minLevel codec readings registry
        (staleIds deadline snapshot)).registry.queryNode nodeId =
      (registry.queryNode nodeId).map fun entry =>
        if Stale deadline entry then { entry with status := .offline, lastSeenAt := stamp }
        else entry := by
  have members := mem_staleIds keyed taken deadline
  have named : [] ∉ staleIds deadline snapshot := by
    intro blank
    obtain ⟨entry, found, _⟩ := (members []).mp blank
    exact (keyed [] entry found).2 rfl
  obtain ⟨others, turned⟩ := turnOffline_queryNode registry (staleIds_nodup keyed taken deadline)
    named returned nodeId
  by_cases member : nodeId ∈ staleIds deadline snapshot
  · obtain ⟨entry, found, stale⟩ := (members nodeId).mp member
    obtain ⟨index, _, result⟩ := turned member
    refine ⟨(readings index).stampedAt, ?_⟩
    rw [result, found, Option.map_some, Option.map_some, if_pos stale]
  · refine ⟨epoch, (others member).trans ?_⟩
    cases found : registry.queryNode nodeId with
    | none => rfl
    | some entry =>
        have fresh : ¬ Stale deadline entry :=
          fun stale => member ((members nodeId).mpr ⟨entry, found, stale⟩)
        rw [Option.map_some, if_neg fresh]

/-- **Nothing is stale any more**: another tick at the same time has nothing to do. -/
theorem tick_of_swept {swept : NodeRegistry} (keyed : registry.Keyed)
    (contents : ∀ nodeId, ∃ stamp, swept.queryNode nodeId =
      (registry.queryNode nodeId).map fun entry =>
        if Stale (now - config.grace) entry then
          { entry with status := .offline, lastSeenAt := stamp }
        else entry)
    (taken : swept.IsSnapshot snapshot) :
    tick minLevel codec config swept snapshot now readings = ⟨swept, [], true⟩ := by
  have source : ∀ nodeId entry, swept.queryNode nodeId = some entry →
      (entry.nodeId = nodeId ∧ nodeId ≠ []) ∧ ¬ Stale (now - config.grace) entry := by
    intro nodeId entry found
    obtain ⟨stamp, same⟩ := contents nodeId
    obtain ⟨before, known, rfl⟩ := Option.map_eq_some_iff.mp (same.symm.trans found)
    have filed := keyed nodeId before known
    split
    · exact ⟨filed, fun stale => NodeStatus.noConfusion stale.1⟩
    · rename_i fresh
      exact ⟨filed, fresh⟩
  have keyedSwept : swept.Keyed := fun nodeId entry found => (source nodeId entry found).1
  have none : staleIds (now - config.grace) snapshot = [] := by
    rw [List.eq_nil_iff_forall_not_mem]
    intro nodeId member
    obtain ⟨entry, found, stale⟩ := (mem_staleIds keyedSwept taken _ nodeId).mp member
    exact (source nodeId entry found).2 stale
  rw [tick_eq, none, turnOffline]

/-- **An undisturbed tick is exact** exactly when the log can write the id of every stale entry. -/
theorem tick_exact_iff (writes : codec.WritesText) (level : minLevel = .info ∨ minLevel = .warn)
    (keyed : registry.Keyed) (taken : registry.IsSnapshot snapshot) :
    Exact minLevel codec config registry now
        (tick minLevel codec config registry snapshot now readings) ↔
      ∀ nodeId entry, registry.queryNode nodeId = some entry →
        Stale (now - 2 * config.heartbeatIntervalSecs.toNat * 1000000000) entry →
          Utf8 (sanitizeText nodeId) := by
  have members := mem_staleIds keyed taken (now - config.grace)
  have grace := grace_eq config
  rw [tick_eq]
  constructor
  · intro exact nodeId entry found stale
    rw [← grace] at stale
    exact (turnOffline_returned_iff writes level readings registry _).mp exact.returned nodeId
      ((members nodeId).mpr ⟨entry, found, stale⟩)
  · intro writable
    rw [← grace] at writable
    have returned := (turnOffline_returned_iff writes level readings registry _).mpr
      fun nodeId member => by
        obtain ⟨entry, found, stale⟩ := (members nodeId).mp member
        exact writable nodeId entry found stale
    have contents := sweep_contents keyed taken (now - config.grace) returned
    refine ⟨returned, ?_, ⟨_, staleIds_nodup keyed taken _, ?_,
      turnOffline_lines level registry returned⟩, ?_⟩
    · rw [← grace]
      exact contents
    · rw [← grace]
      exact members
    · intro later readings' taken'
      exact tick_of_swept keyed contents taken'

/-- Readings of a clock that stands still. -/
def steadyOffline (_ : Nat) : OfflineReadings := ⟨⟨(1, 2), 3, 0⟩, 50000000000, 50000000000⟩

/-- A registry of nodes with the times they were last seen. -/
def seenAt (nodes : List (Bytes × Time)) : NodeRegistry :=
  nodes.foldl (fun registry node =>
    (registry.registerNode ⟨node.1, text "N", text "::1", 1, .online, node.2⟩).2) .empty

theorem seenAt_keyed (nodes : List (Bytes × Time)) : (seenAt nodes).Keyed := by
  induction nodes using List.reverseRecOn with
  | nil => exact NodeRegistry.keyed_empty
  | append_singleton nodes node ih =>
      rw [seenAt, List.foldl_append]
      exact NodeRegistry.Keyed.registerNode ih _

/-- Ten seconds ago is not too long ago for an interval of five seconds, a little more is. -/
theorem tick_exact_iff_boundary :
    let registry := seenAt [(text "late", 39999999999), (text "timely", 40000000000)]
    let ticked := tick .warn Json.textCodec .default registry registry.listNodes 50000000000
      steadyOffline
    ticked.lines.length = 1 ∧ Exact .warn Json.textCodec .default registry 50000000000 ticked := by
  intro registry ticked
  have keyed := seenAt_keyed [(text "late", 39999999999), (text "timely", 40000000000)]
  have facts : ticked.lines.length = 1 ∧
      ∀ entry ∈ registry.listNodes, Utf8 (sanitizeText entry.nodeId) := by decide +kernel
  refine ⟨facts.1, (tick_exact_iff Json.textCodec_writesText (.inr rfl) keyed (.refl _)).mpr ?_⟩
  intro nodeId entry found _
  obtain ⟨rfl, _⟩ := keyed nodeId entry found
  exact facts.2 entry ((keyed.mem_snapshot (.refl _) entry).mpr found)

/-- **A tick that breaks off**: the id of the first node is 511 letters and a character of two
bytes. Its line throws, and the second node stays ONLINE. -/
theorem tick_breaks_off :
    let first := List.replicate 511 97 ++ text "é"
    let registry := seenAt [(text "second", 0), (first, 0)]
    let ticked := tick .warn Json.textCodec .default registry registry.listNodes 50000000000
      steadyOffline
    Utf8 first ∧ registry.listNodes.map NodeEntry.nodeId = [first, text "second"] ∧
      ticked.returned = false ∧ ticked.lines.length = 0 ∧
      ticked.registry.isOffline first = true ∧ ticked.registry.isOnline (text "second") = true := by
  decide +kernel

end ExodusOps.HeartbeatMonitor
