/-
**The node registry.**

`src/nodeRegistry.cpp`: one `NodeEntry` per registered `node_id`. Every operation runs under the
registry's lock, so it is one atomic function of the registry; the clock it reads is an argument.
The hash map is an association list with distinct keys. Its iteration order is unspecified in the
source, so a snapshot is any rearrangement of `listNodes` (`IsSnapshot`).

Each writer has one specification lemma, which says what it returns and what every later
`queryNode` sees (`queryNode_registerNode`, `queryNode_setOffline`, `queryNode_updateLastSeen`).
`Keyed` is the registry's own invariant: entries are filed under their `node_id`, never under the
empty one.
-/

import ExodusOps.Lib.Bytes
import Mathlib.Data.List.AList

namespace ExodusOps

/-- A `system_clock` reading, in nanoseconds since the epoch. -/
abbrev Time := Int

/-- The default `time_point`. -/
def epoch : Time := 0

/-- Connectivity status of a registered node. -/
inductive NodeStatus where
  | online
  | offline
  deriving DecidableEq, Repr

/-- Result of a `registerNode` call. -/
inductive RegisterResult where
  | ok
  | errDuplicate
  deriving DecidableEq, Repr

/-- Full metadata record of one registered node. -/
structure NodeEntry where
  nodeId : Bytes
  bunkerName : Bytes
  ipAddress : Bytes
  capacity : UInt64 := 0
  status : NodeStatus := .online
  lastSeenAt : Time := epoch
  deriving DecidableEq, Repr

/-- The registry's map `m_entries`. -/
structure NodeRegistry where
  entries : AList fun _ : Bytes => NodeEntry

namespace NodeRegistry

/-- The registry of a server that has just started. -/
def empty : NodeRegistry := ⟨∅⟩

/-! ### Operations -/

/-- `queryNode`: a copy of the entry, if there is one. -/
def queryNode (registry : NodeRegistry) (nodeId : Bytes) : Option NodeEntry :=
  registry.entries.lookup nodeId

/-- `listNodes`: a copy of every entry. -/
def listNodes (registry : NodeRegistry) : List NodeEntry :=
  registry.entries.entries.map Sigma.snd

/-- `contains`. -/
def contains (registry : NodeRegistry) (nodeId : Bytes) : Bool :=
  (registry.entries.lookup nodeId).isSome

/-- `isOffline`: the node is known and OFFLINE. -/
def isOffline (registry : NodeRegistry) (nodeId : Bytes) : Bool :=
  match registry.entries.lookup nodeId with
  | none => false
  | some entry => entry.status = .offline

/-- File an entry under a key, in place of the one that is there. -/
def put (registry : NodeRegistry) (nodeId : Bytes) (entry : NodeEntry) : NodeRegistry :=
  ⟨registry.entries.insert nodeId entry⟩

/-- `registerNode`: a new node, or an OFFLINE one registering again. -/
def registerNode (registry : NodeRegistry) (entry : NodeEntry) : RegisterResult × NodeRegistry :=
  if entry.nodeId = [] then (.errDuplicate, registry)
  else
    match registry.entries.lookup entry.nodeId with
    | some found =>
        if found.status = .online then (.errDuplicate, registry)
        else (.ok, registry.put entry.nodeId { entry with status := .online })
    | none => (.ok, registry.put entry.nodeId { entry with status := .online })

/-- `setOffline`, with the clock reading it takes. -/
def setOffline (registry : NodeRegistry) (nodeId : Bytes) (now : Time) : NodeRegistry :=
  if nodeId = [] then registry
  else
    match registry.entries.lookup nodeId with
    | some found => registry.put nodeId { found with status := .offline, lastSeenAt := now }
    | none => registry

/-- `updateLastSeen`, with the clock reading it takes. -/
def updateLastSeen (registry : NodeRegistry) (nodeId : Bytes) (now : Time) :
    Bool × NodeRegistry :=
  if nodeId = [] then (false, registry)
  else
    match registry.entries.lookup nodeId with
    | some found =>
        if found.status = .online then (true, registry.put nodeId { found with lastSeenAt := now })
        else (false, registry)
    | none => (false, registry)

/-- A snapshot: the entries in the order the hash map happens to have. -/
def IsSnapshot (registry : NodeRegistry) (snapshot : List NodeEntry) : Prop :=
  snapshot.Perm registry.listNodes

instance (registry : NodeRegistry) (snapshot : List NodeEntry) :
    Decidable (registry.IsSnapshot snapshot) :=
  inferInstanceAs (Decidable (snapshot.Perm registry.listNodes))

/-! ### What a later query sees -/

theorem queryNode_put (registry : NodeRegistry) (key nodeId : Bytes) (entry : NodeEntry) :
    (registry.put key entry).queryNode nodeId =
      if nodeId = key then some entry else registry.queryNode nodeId := by
  unfold queryNode put
  by_cases same : nodeId = key
  · rw [if_pos same, same, AList.lookup_insert]
  · rw [if_neg same, AList.lookup_insert_ne same]

/-- The ids a registration can take: non-empty, and unknown or OFFLINE. -/
def Registrable (registry : NodeRegistry) (nodeId : Bytes) : Prop :=
  nodeId ≠ [] ∧ ∀ entry, registry.queryNode nodeId = some entry → entry.status = .offline

theorem registerNode_ok_iff (registry : NodeRegistry) (entry : NodeEntry) :
    (registry.registerNode entry).1 = .ok ↔ registry.Registrable entry.nodeId := by
  unfold registerNode Registrable queryNode
  by_cases blank : entry.nodeId = []
  · simp [blank]
  · rw [if_neg blank]
    cases registry.entries.lookup entry.nodeId with
    | none => simp [blank]
    | some found => cases state : found.status <;> simp [state, blank]

theorem registerNode_ok {registry : NodeRegistry} {entry : NodeEntry}
    (accepted : (registry.registerNode entry).1 = .ok) :
    (registry.registerNode entry).2 =
      registry.put entry.nodeId { entry with status := .online } := by
  unfold registerNode at accepted ⊢
  by_cases blank : entry.nodeId = []
  · simp [blank] at accepted
  · rw [if_neg blank] at accepted ⊢
    cases lookup : registry.entries.lookup entry.nodeId with
    | none => rfl
    | some found =>
        rw [lookup] at accepted
        cases state : found.status <;> simp_all

/-- A refused registration changes nothing. -/
theorem registerNode_errDuplicate {registry : NodeRegistry} {entry : NodeEntry}
    (refused : (registry.registerNode entry).1 = .errDuplicate) :
    (registry.registerNode entry).2 = registry := by
  unfold registerNode at refused ⊢
  by_cases blank : entry.nodeId = []
  · rw [if_pos blank]
  · rw [if_neg blank] at refused ⊢
    cases lookup : registry.entries.lookup entry.nodeId with
    | none => simp [lookup] at refused
    | some found =>
        rw [lookup] at refused
        cases state : found.status <;> simp_all

/-- **`registerNode`**, as a later query sees it. -/
theorem queryNode_registerNode (registry : NodeRegistry) (entry : NodeEntry) (nodeId : Bytes) :
    (registry.registerNode entry).2.queryNode nodeId =
      if (registry.registerNode entry).1 = .ok ∧ nodeId = entry.nodeId then
        some { entry with status := .online }
      else registry.queryNode nodeId := by
  cases result : (registry.registerNode entry).1 with
  | ok => simp [registerNode_ok result, queryNode_put]
  | errDuplicate => simp [registerNode_errDuplicate result]

/-- **`setOffline`**, as a later query sees it. -/
theorem queryNode_setOffline (registry : NodeRegistry) (key nodeId : Bytes) (now : Time) :
    (registry.setOffline key now).queryNode nodeId =
      if nodeId = key ∧ key ≠ [] then
        (registry.queryNode nodeId).map fun found =>
          { found with status := .offline, lastSeenAt := now }
      else registry.queryNode nodeId := by
  unfold setOffline
  by_cases blank : key = []
  · simp [blank]
  · rw [if_neg blank]
    cases lookup : registry.entries.lookup key with
    | none =>
        by_cases same : nodeId = key
        · subst same
          simp [queryNode, lookup]
        · simp [same]
    | some found =>
        rw [queryNode_put]
        by_cases same : nodeId = key
        · subst same
          simp [blank, queryNode, lookup]
        · simp [same]

/-- `updateLastSeen` succeeds exactly on the ONLINE nodes with a non-empty id. -/
theorem updateLastSeen_eq_true_iff (registry : NodeRegistry) (nodeId : Bytes) (now : Time) :
    (registry.updateLastSeen nodeId now).1 = true ↔
      nodeId ≠ [] ∧ ∃ entry, registry.queryNode nodeId = some entry ∧ entry.status = .online := by
  unfold updateLastSeen queryNode
  by_cases blank : nodeId = []
  · simp [blank]
  · rw [if_neg blank]
    cases registry.entries.lookup nodeId with
    | none => simp [blank]
    | some found => cases state : found.status <;> simp [state, blank]

theorem updateLastSeen_false {registry : NodeRegistry} {nodeId : Bytes} {now : Time}
    (refused : (registry.updateLastSeen nodeId now).1 = false) :
    (registry.updateLastSeen nodeId now).2 = registry := by
  unfold updateLastSeen at refused ⊢
  by_cases blank : nodeId = []
  · rw [if_pos blank]
  · rw [if_neg blank] at refused ⊢
    cases lookup : registry.entries.lookup nodeId with
    | none => rfl
    | some found =>
        rw [lookup] at refused
        cases state : found.status <;> simp_all

/-- **`updateLastSeen`**, as a later query sees it. -/
theorem queryNode_updateLastSeen (registry : NodeRegistry) (key nodeId : Bytes) (now : Time) :
    (registry.updateLastSeen key now).2.queryNode nodeId =
      if (registry.updateLastSeen key now).1 = true ∧ nodeId = key then
        (registry.queryNode nodeId).map fun found => { found with lastSeenAt := now }
      else registry.queryNode nodeId := by
  cases result : (registry.updateLastSeen key now).1 with
  | false => simp [updateLastSeen_false result]
  | true =>
      obtain ⟨named, entry, found, state⟩ := (updateLastSeen_eq_true_iff _ _ _).mp result
      have lookup : registry.entries.lookup key = some entry := found
      unfold updateLastSeen
      simp only [if_neg named, lookup, if_pos state, queryNode_put, true_and]
      by_cases same : nodeId = key
      · simp [same, found]
      · simp [same]

/-- The node is known and ONLINE. -/
def isOnline (registry : NodeRegistry) (nodeId : Bytes) : Bool :=
  (registry.queryNode nodeId).any fun entry => entry.status = .online

theorem isOnline_iff {registry : NodeRegistry} {nodeId : Bytes} :
    registry.isOnline nodeId = true ↔
      ∃ entry, registry.queryNode nodeId = some entry ∧ entry.status = .online := by
  simp [isOnline, Option.any_eq_true]

/-- A `setOffline` leaves an entry alone exactly when it is of another node, or writes what is
there. -/
theorem setOffline_unchanged_iff {registry : NodeRegistry} {nodeId : Bytes} {entry : NodeEntry}
    (found : registry.queryNode nodeId = some entry) (named : nodeId ≠ []) (key : Bytes)
    (now : Time) :
    (registry.setOffline key now).queryNode nodeId = some entry ↔
      key ≠ nodeId ∨ (entry.status = .offline ∧ entry.lastSeenAt = now) := by
  rw [queryNode_setOffline]
  by_cases same : nodeId = key
  · subst same
    obtain ⟨_, _, _, _, status, lastSeenAt⟩ := entry
    simp [named, found, eq_comm]
  · simp [same, found, Ne.symm same]

/-- The same for an `updateLastSeen`, which does not touch an OFFLINE node at all. -/
theorem updateLastSeen_unchanged_iff {registry : NodeRegistry} {nodeId : Bytes}
    {entry : NodeEntry} (found : registry.queryNode nodeId = some entry) (named : nodeId ≠ [])
    (key : Bytes) (now : Time) :
    (registry.updateLastSeen key now).2.queryNode nodeId = some entry ↔
      key ≠ nodeId ∨ entry.status = .offline ∨ entry.lastSeenAt = now := by
  simp only [queryNode_updateLastSeen, updateLastSeen_eq_true_iff]
  by_cases same : nodeId = key
  · subst same
    obtain ⟨_, _, _, _, status, lastSeenAt⟩ := entry
    cases status <;> simp [named, found, eq_comm]
  · simp [same, found, Ne.symm same]

/-! ### Entries are filed under their own id -/

/-- Every entry is filed under its own `node_id`, and no entry under the empty id. -/
def Keyed (registry : NodeRegistry) : Prop :=
  ∀ nodeId entry, registry.queryNode nodeId = some entry → entry.nodeId = nodeId ∧ nodeId ≠ []

theorem keyed_empty : empty.Keyed := by
  intro nodeId entry found
  cases found

theorem Keyed.registerNode {registry : NodeRegistry} (keyed : registry.Keyed)
    (entry : NodeEntry) : (registry.registerNode entry).2.Keyed := by
  intro nodeId found query
  rw [queryNode_registerNode] at query
  split_ifs at query with taken
  · cases query
    exact ⟨taken.2.symm, taken.2 ▸ ((registerNode_ok_iff _ _).mp taken.1).1⟩
  · exact keyed nodeId found query

theorem Keyed.setOffline {registry : NodeRegistry} (keyed : registry.Keyed) (key : Bytes)
    (now : Time) : (registry.setOffline key now).Keyed := by
  intro nodeId found query
  rw [queryNode_setOffline] at query
  split_ifs at query
  · obtain ⟨entry, before, rfl⟩ := Option.map_eq_some_iff.mp query
    exact keyed nodeId entry before
  · exact keyed nodeId found query

theorem Keyed.updateLastSeen {registry : NodeRegistry} (keyed : registry.Keyed) (key : Bytes)
    (now : Time) : (registry.updateLastSeen key now).2.Keyed := by
  intro nodeId found query
  rw [queryNode_updateLastSeen] at query
  split_ifs at query
  · obtain ⟨entry, before, rfl⟩ := Option.map_eq_some_iff.mp query
    exact keyed nodeId entry before
  · exact keyed nodeId found query

/-! ### Snapshots -/

theorem mem_listNodes (registry : NodeRegistry) (entry : NodeEntry) :
    entry ∈ registry.listNodes ↔ ∃ nodeId, registry.queryNode nodeId = some entry := by
  simp only [listNodes, queryNode, List.mem_map, Sigma.exists, exists_eq_right]
  exact exists_congr fun nodeId => AList.mem_lookup_iff.symm

/-- A snapshot of a keyed registry holds an entry exactly when a query for its id returns it. -/
theorem Keyed.mem_snapshot {registry : NodeRegistry} (keyed : registry.Keyed)
    {snapshot : List NodeEntry} (taken : registry.IsSnapshot snapshot) (entry : NodeEntry) :
    entry ∈ snapshot ↔ registry.queryNode entry.nodeId = some entry := by
  rw [taken.mem_iff, mem_listNodes]
  constructor
  · rintro ⟨nodeId, found⟩
    rwa [(keyed nodeId entry found).1]
  · exact fun found => ⟨_, found⟩

/-- A snapshot of a keyed registry lists every id once. -/
theorem Keyed.snapshot_nodup {registry : NodeRegistry} (keyed : registry.Keyed)
    {snapshot : List NodeEntry} (taken : registry.IsSnapshot snapshot) :
    (snapshot.map NodeEntry.nodeId).Nodup := by
  have ids : registry.listNodes.map NodeEntry.nodeId = registry.entries.keys := by
    rw [listNodes, AList.keys, List.keys, List.map_map]
    refine List.map_congr_left fun filed member => ?_
    exact (keyed filed.1 filed.2 (AList.mem_lookup_iff.mpr member)).1
  rw [(taken.map NodeEntry.nodeId).nodup_iff, ids]
  exact registry.entries.keys_nodup

end NodeRegistry

end ExodusOps
