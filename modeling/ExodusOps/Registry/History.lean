/-
**The registry refines its history.**

The calls of all threads, in the order in which they took the lock, are a run of the machine
`registryStep`. The history says what the registry is for: an entry is what the latest accepted
registration passed, taken OFFLINE by the `setOffline` calls since and stamped by the clock
readings since (`recorded`). `queryNode_eq_recorded`: after every run the registry answers every
query as the history does. `registry_refinesHistory` spells this out call by call.
-/

import ExodusOps.Lib.History
import ExodusOps.Lib.Machine
import ExodusOps.Registry.NodeRegistry

namespace ExodusOps.NodeRegistry

/-! ### Calls and their answers -/

/-- A call of one of the writers, with its arguments and the clock reading it takes. -/
inductive Call where
  | registerNode (entry : NodeEntry)
  | setOffline (nodeId : Bytes) (now : Time)
  | updateLastSeen (nodeId : Bytes) (now : Time)

/-- What a call returns. -/
inductive Answer where
  | registered (result : RegisterResult)
  | done
  | updated (known : Bool)

/-- One call, under the exclusive lock. -/
def perform (registry : NodeRegistry) : Call → Answer × NodeRegistry
  | .registerNode entry =>
      let outcome := registry.registerNode entry
      (.registered outcome.1, outcome.2)
  | .setOffline nodeId now => (.done, registry.setOffline nodeId now)
  | .updateLastSeen nodeId now =>
      let outcome := registry.updateLastSeen nodeId now
      (.updated outcome.1, outcome.2)

/-- The registry as a machine: every call is possible in every state. -/
def registryStep (registry : NodeRegistry) (call : Call) : Option (Answer × NodeRegistry) :=
  some (registry.perform call)

/-- One completed call. -/
abbrev Completed := Transition NodeRegistry Call Answer

/-! ### What the history says -/

/-- The entry passed to a registration of `nodeId` that returned OK. -/
def registrationOf (nodeId : Bytes) (completed : Completed) : Option NodeEntry :=
  match completed.event, completed.output with
  | .registerNode entry, .registered .ok => if entry.nodeId = nodeId then some entry else none
  | _, _ => none

/-- The call is `setOffline` of `nodeId`. -/
def isSetOffline (nodeId : Bytes) (completed : Completed) : Bool :=
  match completed.event with
  | .setOffline target _ => target = nodeId
  | _ => false

/-- The clock reading of a `setOffline` or a successful `updateLastSeen` of `nodeId`. -/
def stampOf (nodeId : Bytes) (completed : Completed) : Option Time :=
  match completed.event, completed.output with
  | .setOffline target now, _ => if target = nodeId then some now else none
  | .updateLastSeen target now, .updated true => if target = nodeId then some now else none
  | _, _ => none

/-- The entry of a node, from what its latest accepted registration passed and the calls since. -/
def entrySince (nodeId : Bytes) (passed : NodeEntry) (since : List Completed) : NodeEntry :=
  { passed with
    status := if since.any (isSetOffline nodeId) then .offline else .online
    lastSeenAt := (latest (stampOf nodeId) since).getD passed.lastSeenAt }

/-- **The entry a history records for a node.** -/
def recorded (nodeId : Bytes) (history : List Completed) : Option NodeEntry :=
  (lastHit (registrationOf nodeId) history).map fun hit => entrySince nodeId hit.1 hit.2

/-- A registration that has just been accepted is recorded as it was passed, ONLINE. -/
theorem recorded_registration {nodeId : Bytes} {history : List Completed} {completed : Completed}
    {entry : NodeEntry} (accepted : registrationOf nodeId completed = some entry) :
    recorded nodeId (history ++ [completed]) = some { entry with status := .online } := by
  simp [recorded, lastHit_concat, accepted, entrySince, latest, lastHit]

/-- Any other call only adds to what came since the registration. -/
theorem recorded_concat {nodeId : Bytes} {history : List Completed} {completed : Completed}
    (other : registrationOf nodeId completed = none) :
    recorded nodeId (history ++ [completed]) =
      (recorded nodeId history).map fun entry =>
        { entry with
          status := if isSetOffline nodeId completed then .offline else entry.status
          lastSeenAt := (stampOf nodeId completed).getD entry.lastSeenAt } := by
  simp only [recorded, lastHit_concat, other]
  cases lastHit (registrationOf nodeId) history with
  | none => rfl
  | some hit =>
      simp only [Option.map_some, entrySince, latest_concat, List.any_append, List.any_cons,
        List.any_nil, Bool.or_false]
      cases isSetOffline nodeId completed <;> cases stampOf nodeId completed <;>
        simp [Bool.or_comm]

/-! ### The run -/

theorem keyed_of_run {history : List Completed} {registry : NodeRegistry}
    (run : Run registryStep empty history registry) : registry.Keyed := by
  refine run.invariant Keyed keyed_empty fun {registry call _ _} taken keyed => ?_
  cases call <;> cases taken
  · exact keyed.registerNode _
  · exact keyed.setOffline _ _
  · exact keyed.updateLastSeen _ _

/-- **One call** keeps the registry equal to its history, at every id. -/
theorem queryNode_registryStep {history : List Completed} {registry next : NodeRegistry}
    {call : Call} {answer : Answer} (keyed : registry.Keyed)
    (agree : ∀ nodeId, registry.queryNode nodeId = recorded nodeId history)
    (taken : registryStep registry call = some (answer, next)) (nodeId : Bytes) :
    next.queryNode nodeId = recorded nodeId (history ++ [⟨registry, call, answer, next⟩]) := by
  cases call with
  | registerNode entry =>
      cases taken
      rw [queryNode_registerNode]
      cases result : (registry.registerNode entry).1 with
      | errDuplicate =>
          rw [recorded_concat (by simp [registrationOf]), ← agree]
          simp [isSetOffline, stampOf]
      | ok =>
          by_cases same : nodeId = entry.nodeId
          · rw [recorded_registration (show _ = some entry by simp [registrationOf, same])]
            simp [same]
          · have other : entry.nodeId ≠ nodeId := fun equal => same equal.symm
            rw [recorded_concat (by simp [registrationOf, other]), ← agree]
            simp [same, isSetOffline, stampOf]
  | setOffline target now =>
      cases taken
      rw [queryNode_setOffline, recorded_concat rfl, ← agree]
      by_cases same : nodeId = target
      · subst same
        by_cases blank : nodeId = []
        · -- the empty id has no entry, so the ignored call is recorded for nothing
          cases found : registry.queryNode nodeId with
          | none => simp
          | some entry => exact absurd blank (keyed _ _ found).2
        · simp [blank, isSetOffline, stampOf]
      · have other : target ≠ nodeId := fun equal => same equal.symm
        simp [same, other, isSetOffline, stampOf]
  | updateLastSeen target now =>
      cases taken
      rw [queryNode_updateLastSeen, recorded_concat rfl, ← agree]
      cases known : (registry.updateLastSeen target now).1 with
      | false => simp [isSetOffline, stampOf]
      | true =>
          by_cases same : nodeId = target
          · simp [same, isSetOffline, stampOf]
          · have other : target ≠ nodeId := fun equal => same equal.symm
            simp [same, other, isSetOffline, stampOf]

/-- **After every run the registry answers every query as its history does.** -/
theorem queryNode_eq_recorded {history : List Completed} {registry : NodeRegistry}
    (run : Run registryStep empty history registry) (nodeId : Bytes) :
    registry.queryNode nodeId = recorded nodeId history := by
  induction run generalizing nodeId with
  | nil => rfl
  | snoc previous taken ih => exact queryNode_registryStep (keyed_of_run previous) ih taken nodeId

/-- **Only a registration brings a node ONLINE**: a node that is ONLINE after another call was
ONLINE before it, and the call was not its `setOffline`. -/
theorem online_before_perform {registry : NodeRegistry} {call : Call} {nodeId : Bytes}
    (named : nodeId ≠ [])
    (other : registrationOf nodeId ⟨registry, call, (registry.perform call).1,
      (registry.perform call).2⟩ = none)
    (online : (registry.perform call).2.isOnline nodeId = true) :
    registry.isOnline nodeId = true ∧ ∀ now, call ≠ .setOffline nodeId now := by
  obtain ⟨entry, found, status⟩ := isOnline_iff.mp online
  cases call with
  | registerNode passed =>
      refine ⟨isOnline_iff.mpr ⟨entry, ?_, status⟩, nofun⟩
      rw [perform, queryNode_registerNode] at found
      split_ifs at found with accepted
      · simp [perform, registrationOf, accepted] at other
      · exact found
  | setOffline target now =>
      rw [perform, queryNode_setOffline] at found
      split_ifs at found with same
      · obtain ⟨before, _, rfl⟩ := Option.map_eq_some_iff.mp found
        cases status
      · refine ⟨isOnline_iff.mpr ⟨entry, found, status⟩, fun moment equal => ?_⟩
        cases equal
        exact same ⟨rfl, named⟩
  | updateLastSeen target now =>
      refine ⟨isOnline_iff.mpr ?_, nofun⟩
      rw [perform, queryNode_updateLastSeen] at found
      split_ifs at found with same
      · obtain ⟨before, known, rfl⟩ := Option.map_eq_some_iff.mp found
        exact ⟨before, known, status⟩
      · exact ⟨entry, found, status⟩

/-- The clock reading of a successful `updateLastSeen` of `nodeId`. -/
def heardOf (nodeId : Bytes) (completed : Completed) : Option Time :=
  match completed.event, completed.output with
  | .updateLastSeen target now, .updated true => if target = nodeId then some now else none
  | _, _ => none

/-- The `last_seen_at` a call gives `nodeId` while it is ONLINE. -/
def refreshOf (nodeId : Bytes) (completed : Completed) : Option Time :=
  ((registrationOf nodeId completed).map NodeEntry.lastSeenAt).or (heardOf nodeId completed)

/-- **Where the `last_seen_at` of an ONLINE node comes from**: from this call, or it was there. -/
theorem lastSeenAt_perform {registry : NodeRegistry} {call : Call} {nodeId : Bytes}
    {entry : NodeEntry} (named : nodeId ≠ [])
    (found : (registry.perform call).2.queryNode nodeId = some entry)
    (online : entry.status = .online) :
    match refreshOf nodeId ⟨registry, call, (registry.perform call).1,
      (registry.perform call).2⟩ with
    | some stamp => entry.lastSeenAt = stamp
    | none => registry.queryNode nodeId = some entry := by
  cases call with
  | registerNode passed =>
      rw [perform, queryNode_registerNode] at found
      cases result : (registry.registerNode passed).1 with
      | errDuplicate => simpa [refreshOf, registrationOf, heardOf, perform, result] using found
      | ok =>
          by_cases same : nodeId = passed.nodeId
          · subst same
            simp only [result, and_self, if_true, Option.some.injEq] at found
            simp [refreshOf, registrationOf, perform, result, ← found]
          · simpa [refreshOf, registrationOf, heardOf, perform, result, same, Ne.symm same]
              using found
  | setOffline target now =>
      rw [perform, queryNode_setOffline] at found
      split_ifs at found with same
      · obtain ⟨before, _, rfl⟩ := Option.map_eq_some_iff.mp found
        cases online
      · exact found
  | updateLastSeen target now =>
      rw [perform, queryNode_updateLastSeen] at found
      cases known : (registry.updateLastSeen target now).1 with
      | false => simpa [refreshOf, registrationOf, heardOf, perform, known] using found
      | true =>
          by_cases same : nodeId = target
          · subst same
            simp only [known, and_self, if_true] at found
            obtain ⟨before, _, rfl⟩ := Option.map_eq_some_iff.mp found
            simp [refreshOf, registrationOf, heardOf, perform, known]
          · simpa [refreshOf, registrationOf, heardOf, perform, known, same, Ne.symm same]
              using found

/-! ### The refinement, call by call -/

theorem contains_iff (registry : NodeRegistry) (nodeId : Bytes) :
    registry.contains nodeId = true ↔ ∃ entry, registry.queryNode nodeId = some entry :=
  Option.isSome_iff_exists

theorem isOffline_iff (registry : NodeRegistry) (nodeId : Bytes) :
    registry.isOffline nodeId = true ↔
      ∃ entry, registry.queryNode nodeId = some entry ∧ entry.status = .offline := by
  unfold isOffline queryNode
  cases registry.entries.lookup nodeId <;> simp

/-- A registry is what its history says. -/
structure RefinesHistory (registry : NodeRegistry) (history : List Completed) : Prop where
  /-- There is an entry exactly for the ids some registration of which returned OK. -/
  known_iff : ∀ nodeId, registry.contains nodeId = true ↔
    ∃ completed ∈ history, (registrationOf nodeId completed).isSome
  /-- No entry has the empty id, and an entry's `node_id` is the key it is filed under. -/
  keyed : ∀ nodeId entry, registry.queryNode nodeId = some entry →
    entry.nodeId = nodeId ∧ nodeId ≠ []
  /-- Metadata come from the latest accepted registration; the entry is ONLINE exactly when no
  `setOffline` came after it; `last_seen_at` is the latest clock reading after it, if any. -/
  entry_eq : ∀ nodeId entry, registry.queryNode nodeId = some entry →
    ∃ passed since, lastHit (registrationOf nodeId) history = some (passed, since) ∧
      entry.bunkerName = passed.bunkerName ∧ entry.ipAddress = passed.ipAddress ∧
      entry.capacity = passed.capacity ∧
      (entry.status = .online ↔ ∀ completed ∈ since, isSetOffline nodeId completed = false) ∧
      entry.lastSeenAt = (latest (stampOf nodeId) since).getD passed.lastSeenAt
  /-- `registerNode` accepts exactly the non-empty ids that are absent or OFFLINE. -/
  registerNode_iff : ∀ entry, (registry.registerNode entry).1 = .ok ↔
    entry.nodeId ≠ [] ∧
      (registry.contains entry.nodeId = false ∨ registry.isOffline entry.nodeId = true)
  /-- A refused registration changes nothing. -/
  registerNode_refused : ∀ entry, (registry.registerNode entry).1 ≠ .ok →
    (registry.registerNode entry).2 = registry
  /-- `updateLastSeen` returns true exactly for the ONLINE nodes. -/
  updateLastSeen_iff : ∀ nodeId now, (registry.updateLastSeen nodeId now).1 = true ↔
    ∃ entry, registry.queryNode nodeId = some entry ∧ entry.status = .online
  /-- A snapshot lists every id once and agrees with the other readers. -/
  snapshot_iff : ∀ snapshot, registry.IsSnapshot snapshot →
    (snapshot.map NodeEntry.nodeId).Nodup ∧
      (∀ nodeId entry, registry.queryNode nodeId = some entry ↔
        entry ∈ snapshot ∧ entry.nodeId = nodeId) ∧
      (∀ nodeId, registry.contains nodeId = true ↔
        ∃ entry ∈ snapshot, entry.nodeId = nodeId) ∧
      (∀ nodeId, registry.isOffline nodeId = true ↔
        ∃ entry ∈ snapshot, entry.nodeId = nodeId ∧ entry.status = .offline)

theorem registrable_iff (registry : NodeRegistry) (nodeId : Bytes) :
    registry.Registrable nodeId ↔ nodeId ≠ [] ∧
      (registry.contains nodeId = false ∨ registry.isOffline nodeId = true) := by
  unfold Registrable contains isOffline queryNode
  cases registry.entries.lookup nodeId <;> simp

theorem Keyed.queryNode_iff_mem {registry : NodeRegistry} (keyed : registry.Keyed)
    {snapshot : List NodeEntry} (taken : registry.IsSnapshot snapshot) (nodeId : Bytes)
    (entry : NodeEntry) :
    registry.queryNode nodeId = some entry ↔ entry ∈ snapshot ∧ entry.nodeId = nodeId := by
  rw [keyed.mem_snapshot taken]
  constructor
  · intro found
    obtain ⟨rfl, _⟩ := keyed nodeId entry found
    exact ⟨found, rfl⟩
  · rintro ⟨found, rfl⟩
    exact found

/-- **The registry refines its history**, for every sequence of calls with any arguments and any
clock readings. -/
theorem registry_refinesHistory (history : List Completed) (registry : NodeRegistry)
    (run : Run registryStep empty history registry) : RefinesHistory registry history := by
  have keyed := keyed_of_run run
  have agree := queryNode_eq_recorded run
  refine ⟨?_, keyed, ?_, ?_, ?_, ?_, ?_⟩
  · intro nodeId
    rw [contains_iff, agree, ← Option.isSome_iff_exists, recorded, Option.isSome_map]
    cases found : lastHit (registrationOf nodeId) history with
    | none =>
        have none := (lastHit_eq_none_iff _ _).mp found
        simp only [Option.isSome_none, Bool.false_eq_true, false_iff, not_exists, not_and]
        intro completed member
        simp [none completed member]
    | some hit =>
        obtain ⟨earlier, completed, rfl, accepted, _⟩ := (lastHit_eq_some_iff _ _ _ _).mp found
        simp only [Option.isSome_some, true_iff]
        exact ⟨completed, by simp, by simp [accepted]⟩
  · intro nodeId entry found
    rw [agree, recorded, Option.map_eq_some_iff] at found
    obtain ⟨⟨passed, since⟩, hit, rfl⟩ := found
    refine ⟨passed, since, hit, rfl, rfl, rfl, ?_, rfl⟩
    cases offline : since.any (isSetOffline nodeId) with
    | true => simpa [entrySince, offline] using List.any_eq_true.mp offline
    | false => simpa [entrySince, offline] using List.any_eq_false.mp offline
  · intro entry
    rw [registerNode_ok_iff, registrable_iff]
  · intro entry refused
    cases result : (registry.registerNode entry).1 with
    | ok => exact absurd result refused
    | errDuplicate => exact registerNode_errDuplicate result
  · intro nodeId now
    rw [updateLastSeen_eq_true_iff]
    refine ⟨And.right, fun found => ⟨?_, found⟩⟩
    obtain ⟨entry, query, _⟩ := found
    exact (keyed nodeId entry query).2
  · intro snapshot taken
    have same := keyed.queryNode_iff_mem taken
    refine ⟨keyed.snapshot_nodup taken, same, fun nodeId => ?_, fun nodeId => ?_⟩
    · simp only [contains_iff, same]
    · simp only [isOffline_iff, same, and_assoc]

/-- A node registers, is heard from, goes away and registers again from another address. -/
def reregistration : List Call :=
  [.registerNode ⟨text "vault-01", text "Vault 1", text "10.0.0.1", 100, .online, epoch⟩,
    .updateLastSeen (text "vault-01") 5, .setOffline (text "vault-01") 7,
    .registerNode ⟨text "vault-01", text "Vault 1", text "10.0.0.2", 200, .online, epoch⟩]

/-- The refinement at work on a node that comes back. -/
theorem registry_refinesHistory_reregistration :
    ∃ history registry, exec registryStep empty reregistration = some (history, registry) ∧
      RefinesHistory registry history :=
  ⟨_, _, rfl, registry_refinesHistory _ _
    (exec_run (show exec registryStep empty reregistration = some _ from rfl))⟩

end ExodusOps.NodeRegistry
