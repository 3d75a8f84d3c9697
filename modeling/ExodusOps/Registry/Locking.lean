/-
**The registry's shared mutex.**

`NodeRegistry` takes its `shared_mutex` exclusively in the writers and shared in the readers. Under
it a method is not one step: `registerNode` assigns an entry member by member, `setOffline` writes
the status and then the time stamp, `queryNode` copies an entry member by member and `listNodes`
does so for one entry after the other, in the order of the hash map. Here every access to
`m_entries` is a step of its own, and any other thread may move between two of them. The other
modules take a method for one step; this one says why they may.

* `sections_atomic` — how far each section has come, against the registry in which it began.
* `registry_linearizable` — **the methods are atomic**: the calls of a run, in the order of the
  accesses that end their sections, are a run of the methods as single steps, with the same answers,
  and each of these accesses is between the call and its return.
* `reads_history` — **no half-written entry is ever read**: a reader returns what the history of the
  writes that were complete before it records.
-/

import ExodusOps.Lib.SharedMutex
import ExodusOps.Registry.History

namespace ExodusOps

/-! ### Entries, member by member -/

namespace NodeEntry

/-- The members of `NodeEntry`, in the order of their declaration. -/
inductive Member where
  | nodeId
  | bunkerName
  | ipAddress
  | capacity
  | status
  | lastSeenAt
  deriving DecidableEq, Repr

def members : List Member := [.nodeId, .bunkerName, .ipAddress, .capacity, .status, .lastSeenAt]

/-- The assignment of one member. -/
def assign (source target : NodeEntry) : Member → NodeEntry
  | .nodeId => { target with nodeId := source.nodeId }
  | .bunkerName => { target with bunkerName := source.bunkerName }
  | .ipAddress => { target with ipAddress := source.ipAddress }
  | .capacity => { target with capacity := source.capacity }
  | .status => { target with status := source.status }
  | .lastSeenAt => { target with lastSeenAt := source.lastSeenAt }

def assignAll (source target : NodeEntry) (done : List Member) : NodeEntry :=
  done.foldl source.assign target

theorem assignAll_concat (source target : NodeEntry) (done : List Member) (member : Member) :
    source.assignAll target (done ++ [member]) =
      source.assign (source.assignAll target done) member :=
  List.foldl_concat ..

theorem assignAll_members (source target : NodeEntry) :
    source.assignAll target members = source := rfl

/-- What a copy is made into. -/
def blank : NodeEntry := { nodeId := [], bunkerName := [], ipAddress := [] }

end NodeEntry

namespace NodeRegistry

/-! ### The methods and their sections -/

/-- A call of a method. -/
inductive Method where
  | registerNode (entry : NodeEntry)
  | queryNode (nodeId : Bytes)
  | listNodes
  | setOffline (nodeId : Bytes)
  | updateLastSeen (nodeId : Bytes)
  | isOffline (nodeId : Bytes)
  | contains (nodeId : Bytes)
  deriving DecidableEq, Repr

/-- What a method returns. -/
inductive Returned where
  | wrote (answer : Answer)
  | found (entry : Option NodeEntry)
  | listed (snapshot : List NodeEntry)
  | flag (value : Bool)

/-- What an access takes from outside: the clock, or where the iterator goes next. -/
inductive Reading where
  | nothing
  | clock (now : Time)
  | iterator (nodeId : Bytes)
  deriving DecidableEq, Repr

/-- How far a section is. -/
inductive Locals where
  | begin
  /-- After the `find`. -/
  | located (known : Bool)
  /-- In `it->second = std::move(entry)`, with these members to assign. -/
  | assigning (rest : List NodeEntry.Member)
  /-- About to write `last_seen_at`. -/
  | stamping
  /-- In the copy `queryNode` returns. -/
  | copying (rest : List NodeEntry.Member) (copy : NodeEntry)
  /-- In the loop of `listNodes`, between two entries. -/
  | iterating (visited : List Bytes) (snapshot : List NodeEntry)
  /-- In the loop of `listNodes`, in the copy of an entry. -/
  | visiting (visited : List Bytes) (snapshot : List NodeEntry) (nodeId : Bytes)
      (rest : List NodeEntry.Member) (copy : NodeEntry)
  deriving DecidableEq, Repr

/-- What is left of an access: the registry, and the local variables or the answer. -/
abbrev Accessed := NodeRegistry × (Locals ⊕ Returned)

section Accesses

variable (registry : NodeRegistry)

/-- An access through the iterator that `find` returned. -/
def accessEntry (nodeId : Bytes) (use : NodeEntry → Accessed) : Option Accessed :=
  (registry.queryNode nodeId).map use

/-- The `find` of a method. -/
def find (nodeId : Bytes) : Accessed := (registry, .inl (.located (registry.contains nodeId)))

/-- `registerNode`, access by access. -/
def registerNodeAccess (entry : NodeEntry) : Locals → Reading → Option Accessed
  | .begin, .nothing =>
      if entry.nodeId = [] then some (registry, .inr (.wrote (.registered .errDuplicate)))
      else some (registry.find entry.nodeId)
  | .located true, .nothing =>
      registry.accessEntry entry.nodeId fun found =>
        if found.status = .online then (registry, .inr (.wrote (.registered .errDuplicate)))
        else (registry, .inl (.assigning NodeEntry.members))
  | .located false, .nothing =>
      some (registry.put entry.nodeId { entry with status := .online },
        .inr (.wrote (.registered .ok)))
  | .assigning (member :: rest), .nothing =>
      registry.accessEntry entry.nodeId fun found =>
        (registry.put entry.nodeId (NodeEntry.assign { entry with status := .online } found member),
          .inl (.assigning rest))
  | .assigning [], .nothing => some (registry, .inr (.wrote (.registered .ok)))
  | _, _ => none

/-- `queryNode`, access by access. -/
def queryNodeAccess (nodeId : Bytes) : Locals → Reading → Option Accessed
  | .begin, .nothing => some (registry.find nodeId)
  | .located true, .nothing =>
      some (registry, .inl (.copying NodeEntry.members .blank))
  | .located false, .nothing => some (registry, .inr (.found none))
  | .copying (member :: rest) copy, .nothing =>
      registry.accessEntry nodeId fun found =>
        (registry, .inl (.copying rest (found.assign copy member)))
  | .copying [] copy, .nothing => some (registry, .inr (.found (some copy)))
  | _, _ => none

/-- `listNodes`, access by access. The iterator goes to an entry it has not been at, until it has
been at all of them. -/
def listNodesAccess : Locals → Reading → Option Accessed
  | .begin, .nothing => some (registry, .inl (.iterating [] []))
  | .iterating visited snapshot, .iterator nodeId =>
      if registry.contains nodeId = true ∧ nodeId ∉ visited then
        some (registry, .inl (.visiting visited snapshot nodeId NodeEntry.members .blank))
      else none
  | .iterating visited snapshot, .nothing =>
      if visited.length = registry.entries.entries.length then
        some (registry, .inr (.listed snapshot))
      else none
  | .visiting visited snapshot nodeId (member :: rest) copy, .nothing =>
      registry.accessEntry nodeId fun found =>
        (registry, .inl (.visiting visited snapshot nodeId rest (found.assign copy member)))
  | .visiting visited snapshot nodeId [] copy, .nothing =>
      some (registry, .inl (.iterating (visited ++ [nodeId]) (snapshot ++ [copy])))
  | _, _ => none

/-- `setOffline`, access by access. -/
def setOfflineAccess (nodeId : Bytes) : Locals → Reading → Option Accessed
  | .begin, .nothing => some (registry.find nodeId)
  | .located true, .nothing =>
      registry.accessEntry nodeId fun found =>
        (registry.put nodeId { found with status := .offline }, .inl .stamping)
  | .located false, .nothing => some (registry, .inr (.wrote .done))
  | .stamping, .clock now =>
      registry.accessEntry nodeId fun found =>
        (registry.put nodeId { found with lastSeenAt := now }, .inr (.wrote .done))
  | _, _ => none

/-- `updateLastSeen`, access by access. -/
def updateLastSeenAccess (nodeId : Bytes) : Locals → Reading → Option Accessed
  | .begin, .nothing => some (registry.find nodeId)
  | .located true, .nothing =>
      registry.accessEntry nodeId fun found =>
        if found.status = .online then (registry, .inl .stamping)
        else (registry, .inr (.wrote (.updated false)))
  | .located false, .nothing => some (registry, .inr (.wrote (.updated false)))
  | .stamping, .clock now =>
      registry.accessEntry nodeId fun found =>
        (registry.put nodeId { found with lastSeenAt := now }, .inr (.wrote (.updated true)))
  | _, _ => none

/-- `isOffline`, access by access. -/
def isOfflineAccess (nodeId : Bytes) : Locals → Reading → Option Accessed
  | .begin, .nothing => some (registry.find nodeId)
  | .located true, .nothing =>
      registry.accessEntry nodeId fun found =>
        (registry, .inr (.flag (found.status = .offline)))
  | .located false, .nothing => some (registry, .inr (.flag false))
  | _, _ => none

/-- `contains`: one access. -/
def containsAccess (nodeId : Bytes) : Locals → Reading → Option Accessed
  | .begin, .nothing => some (registry, .inr (.flag (registry.contains nodeId)))
  | _, _ => none

def access : Method → Locals → Reading → Option Accessed
  | .registerNode entry => registry.registerNodeAccess entry
  | .queryNode nodeId => registry.queryNodeAccess nodeId
  | .listNodes => registry.listNodesAccess
  | .setOffline nodeId => registry.setOfflineAccess nodeId
  | .updateLastSeen nodeId => registry.updateLastSeenAccess nodeId
  | .isOffline nodeId => registry.isOfflineAccess nodeId
  | .contains nodeId => registry.containsAccess nodeId

end Accesses

/-- What `setOffline` and `updateLastSeen` return for the empty id, before they take the mutex. -/
def Method.early : Method → Option Returned
  | .setOffline nodeId => if nodeId = [] then some (.wrote .done) else none
  | .updateLastSeen nodeId => if nodeId = [] then some (.wrote (.updated false)) else none
  | _ => none

/-- `unique_lock` in the writers, `shared_lock` in the readers. -/
def Method.mode : Method → LockMode
  | .registerNode _ | .setOffline _ | .updateLastSeen _ => .exclusive
  | .queryNode _ | .listNodes | .isOffline _ | .contains _ => .shared

/-- The threads at the registry. -/
def sections : Sections NodeRegistry Method Locals Reading Returned where
  early := Method.early
  mode := Method.mode
  enter _ := .begin
  access := access

/-! ### The methods as single steps -/

/-- A method in one step, with what it takes from outside. -/
inductive Operation where
  | write (call : Call)
  | queryNode (nodeId : Bytes)
  | listNodes (snapshot : List NodeEntry)
  | isOffline (nodeId : Bytes)
  | contains (nodeId : Bytes)

/-- The step it is. -/
def operate (registry : NodeRegistry) : Operation → Option (Returned × NodeRegistry)
  | .write call => some (.wrote (registry.perform call).1, (registry.perform call).2)
  | .queryNode nodeId => some (.found (registry.queryNode nodeId), registry)
  | .listNodes snapshot =>
      if registry.IsSnapshot snapshot then some (.listed snapshot, registry) else none
  | .isOffline nodeId => some (.flag (registry.isOffline nodeId), registry)
  | .contains nodeId => some (.flag (registry.contains nodeId), registry)

/-- The reading of the clock, if there was one. -/
def Reading.now : Reading → Time
  | .clock now => now
  | _ => epoch

/-- The operation a section was, known at its end. A method that does not get as far as the clock
does not depend on it. -/
def labels : Labels Method Locals Reading Operation where
  ends
    | .registerNode entry, _, _ => .write (.registerNode entry)
    | .queryNode nodeId, _, _ => .queryNode nodeId
    | .listNodes, .iterating _ snapshot, _ => .listNodes snapshot
    | .listNodes, _, _ => .listNodes []
    | .setOffline nodeId, _, reading => .write (.setOffline nodeId reading.now)
    | .updateLastSeen nodeId, _, reading => .write (.updateLastSeen nodeId reading.now)
    | .isOffline nodeId, _, _ => .isOffline nodeId
    | .contains nodeId, _, _ => .contains nodeId
  early
    | .registerNode entry => .write (.registerNode entry)
    | .queryNode nodeId => .queryNode nodeId
    | .listNodes => .listNodes []
    | .setOffline nodeId => .write (.setOffline nodeId epoch)
    | .updateLastSeen nodeId => .write (.updateLastSeen nodeId epoch)
    | .isOffline nodeId => .isOffline nodeId
    | .contains nodeId => .contains nodeId

/-! ### How far a section has come -/

/-- The id a method looks up, and whether it writes: then the id is not empty. -/
def Method.Seeks (method : Method) (nodeId : Bytes) : Prop :=
  match method with
  | .registerNode entry => entry.nodeId = nodeId ∧ nodeId ≠ []
  | .setOffline sought | .updateLastSeen sought => sought = nodeId ∧ nodeId ≠ []
  | .queryNode sought | .isOffline sought => sought = nodeId
  | .listNodes | .contains _ => False

/-- The registry with some members of an entry assigned. -/
def assigned (start : NodeRegistry) (nodeId : Bytes) (source found : NodeEntry)
    (done : List NodeEntry.Member) : NodeRegistry :=
  if done = [] then start else start.put nodeId (source.assignAll found done)

/-- The entries the loop of `listNodes` has copied. -/
structure Visited (start : NodeRegistry) (visited : List Bytes) (snapshot : List NodeEntry) :
    Prop where
  once : visited.Nodup
  copied : snapshot.map some = visited.map start.queryNode

/-- **How far a section has come**, against the registry in which it began. -/
inductive Progress : Method → NodeRegistry → NodeRegistry → Locals → Prop where
  | begin {method : Method} {start : NodeRegistry} : method.early = none →
      Progress method start start .begin
  | located {method : Method} {start : NodeRegistry} {nodeId : Bytes} : method.Seeks nodeId →
      Progress method start start (.located (start.contains nodeId))
  | assigning {start : NodeRegistry} {entry found : NodeEntry}
      {done rest : List NodeEntry.Member} : entry.nodeId ≠ [] →
      start.queryNode entry.nodeId = some found → found.status = .offline →
      NodeEntry.members = done ++ rest →
      Progress (.registerNode entry) start
        (start.assigned entry.nodeId { entry with status := .online } found done)
        (.assigning rest)
  | offline {start : NodeRegistry} {nodeId : Bytes} {found : NodeEntry} : nodeId ≠ [] →
      start.queryNode nodeId = some found →
      Progress (.setOffline nodeId) start (start.put nodeId { found with status := .offline })
        .stamping
  | seen {start : NodeRegistry} {nodeId : Bytes} {found : NodeEntry} : nodeId ≠ [] →
      start.queryNode nodeId = some found → found.status = .online →
      Progress (.updateLastSeen nodeId) start start .stamping
  | copying {start : NodeRegistry} {nodeId : Bytes} {found : NodeEntry}
      {done rest : List NodeEntry.Member} : start.queryNode nodeId = some found →
      NodeEntry.members = done ++ rest →
      Progress (.queryNode nodeId) start start (.copying rest (found.assignAll .blank done))
  | iterating {start : NodeRegistry} {visited : List Bytes} {snapshot : List NodeEntry} :
      Visited start visited snapshot →
      Progress .listNodes start start (.iterating visited snapshot)
  | visiting {start : NodeRegistry} {visited : List Bytes} {snapshot : List NodeEntry}
      {nodeId : Bytes} {found : NodeEntry} {done rest : List NodeEntry.Member} :
      Visited start visited snapshot → nodeId ∉ visited → start.queryNode nodeId = some found →
      NodeEntry.members = done ++ rest →
      Progress .listNodes start start
        (.visiting visited snapshot nodeId rest (found.assignAll .blank done))

/-! #### The entry that is assigned -/

theorem put_put (registry : NodeRegistry) (nodeId : Bytes) (first second : NodeEntry) :
    (registry.put nodeId first).put nodeId second = registry.put nodeId second := by
  unfold put
  rw [AList.insert_insert]

theorem queryNode_assigned {start : NodeRegistry} {nodeId : Bytes} {found : NodeEntry}
    (there : start.queryNode nodeId = some found) (source : NodeEntry)
    (done : List NodeEntry.Member) :
    (start.assigned nodeId source found done).queryNode nodeId =
      some (source.assignAll found done) := by
  unfold assigned
  split
  · rename_i nothing
    rw [nothing, there]
    rfl
  · rw [queryNode_put, if_pos rfl]

theorem put_assigned (start : NodeRegistry) (nodeId : Bytes) (source found : NodeEntry)
    (done : List NodeEntry.Member) (member : NodeEntry.Member) :
    (start.assigned nodeId source found done).put nodeId
        (source.assign (source.assignAll found done) member) =
      start.assigned nodeId source found (done ++ [member]) := by
  rw [← NodeEntry.assignAll_concat]
  unfold assigned
  rw [if_neg (List.append_ne_nil_of_right_ne_nil _ (List.cons_ne_nil _ _))]
  split
  · rfl
  · rw [put_put]

theorem assigned_members (start : NodeRegistry) (nodeId : Bytes) (source found : NodeEntry) :
    start.assigned nodeId source found NodeEntry.members = start.put nodeId source := rfl

/-! #### The entries that are copied -/

theorem Visited.nil (start : NodeRegistry) : Visited start [] [] := ⟨List.nodup_nil, rfl⟩

theorem Visited.concat {start : NodeRegistry} {visited : List Bytes} {snapshot : List NodeEntry}
    (visits : Visited start visited snapshot) {nodeId : Bytes} {found : NodeEntry}
    (fresh : nodeId ∉ visited) (there : start.queryNode nodeId = some found) :
    Visited start (visited ++ [nodeId]) (snapshot ++ [found]) where
  once := List.nodup_append.mpr ⟨visits.once, List.nodup_singleton _, by
    intro first inside second same equal
    rw [List.mem_singleton.mp same] at equal
    exact fresh (equal ▸ inside)⟩
  copied := by
    rw [List.map_append, List.map_append, visits.copied, List.map_singleton, List.map_singleton,
      there]

/-- The entries, as what a query for each key returns. -/
theorem listNodes_map_some (registry : NodeRegistry) :
    registry.listNodes.map some = registry.entries.keys.map registry.queryNode := by
  rw [listNodes, AList.keys, List.keys, List.map_map, List.map_map]
  refine List.map_congr_left fun filed member => ?_
  exact (Option.mem_def.mp (AList.mem_lookup_iff.mpr member)).symm

/-- **The iterator has been at all of them**: then the copies are a snapshot. -/
theorem Visited.isSnapshot {start : NodeRegistry} {visited : List Bytes}
    {snapshot : List NodeEntry} (visits : Visited start visited snapshot)
    (all : visited.length = start.entries.entries.length) : start.IsSnapshot snapshot := by
  have inside : visited ⊆ start.entries.keys := by
    intro nodeId member
    have copied : start.queryNode nodeId ∈ snapshot.map some := by
      rw [visits.copied]
      exact List.mem_map_of_mem member
    obtain ⟨entry, -, there⟩ := List.mem_map.mp copied
    rw [← AList.mem_keys, ← AList.lookup_isSome]
    exact Option.isSome_iff_exists.mpr ⟨entry, there.symm⟩
  have keys : visited.Perm start.entries.keys := by
    refine (List.subperm_of_subset visits.once inside).perm_of_length_le (le_of_eq ?_)
    rw [all, AList.keys, List.keys, List.length_map]
  have entries : (snapshot.map some).Perm (start.listNodes.map some) := by
    rw [visits.copied, listNodes_map_some]
    exact keys.map _
  exact (List.map_perm_map_iff (Option.some_injective _)).mp entries

/-! #### Each section, access by access -/

/-- What an access of a method has to come to. -/
def Carries (method : Method) (start next : NodeRegistry) (locals : Locals) (reading : Reading) :
    Locals ⊕ Returned → Prop
  | .inl locals' => Progress method start next locals'
  | .inr answer => operate start (labels.ends method locals reading) = some (answer, next)

section Carries

variable {start registry next : NodeRegistry} {locals : Locals} {reading : Reading}
  {result : Locals ⊕ Returned}

theorem accessEntry_of_found {nodeId : Bytes} {found : NodeEntry}
    (there : registry.queryNode nodeId = some found) (use : NodeEntry → Accessed) :
    registry.accessEntry nodeId use = some (use found) := by
  rw [accessEntry, there]
  rfl

/-- What `find` found. -/
theorem located_cases (start : NodeRegistry) (nodeId : Bytes) :
    (∃ found, start.contains nodeId = true ∧ start.queryNode nodeId = some found) ∨
      (start.contains nodeId = false ∧ start.queryNode nodeId = none) := by
  unfold contains queryNode
  cases start.entries.lookup nodeId with
  | none => exact .inr ⟨rfl, rfl⟩
  | some found => exact .inl ⟨found, rfl, rfl⟩

theorem registerNode_found {entry found : NodeEntry} (named : entry.nodeId ≠ [])
    (there : start.queryNode entry.nodeId = some found) :
    start.registerNode entry = if found.status = .online then (.errDuplicate, start)
      else (.ok, start.put entry.nodeId { entry with status := .online }) := by
  have lookup : start.entries.lookup entry.nodeId = some found := there
  rw [NodeRegistry.registerNode, if_neg named, lookup]

theorem registerNode_unknown {entry : NodeEntry} (named : entry.nodeId ≠ [])
    (unknown : start.queryNode entry.nodeId = none) :
    start.registerNode entry =
      (.ok, start.put entry.nodeId { entry with status := .online }) := by
  have lookup : start.entries.lookup entry.nodeId = none := unknown
  rw [NodeRegistry.registerNode, if_neg named, lookup]

theorem registerNode_carries {entry : NodeEntry}
    (progress : Progress (.registerNode entry) start registry locals)
    (taken : registry.registerNodeAccess entry locals reading = some (next, result)) :
    Carries (.registerNode entry) start next locals reading result := by
  cases reading with
  | clock now => cases progress <;> simp [registerNodeAccess] at taken
  | iterator nodeId => cases progress <;> simp [registerNodeAccess] at taken
  | nothing =>
      cases progress with
      | begin _ =>
          simp only [registerNodeAccess] at taken
          split at taken
          · rename_i blank
            cases taken
            simp [Carries, labels, operate, perform, NodeRegistry.registerNode, blank]
          · rename_i named
            cases taken
            exact .located ⟨rfl, named⟩
      | @located _ _ nodeId seeks =>
          obtain ⟨rfl, named⟩ := seeks
          rcases located_cases start entry.nodeId with ⟨found, known, there⟩ | ⟨known, unknown⟩
          · rw [known] at taken ⊢
            simp only [registerNodeAccess, accessEntry_of_found there] at taken
            split at taken
            · rename_i online
              cases taken
              simp [Carries, labels, operate, perform, registerNode_found named there, online]
            · rename_i offline
              cases taken
              have status : found.status = .offline := by
                cases state : found.status with
                | online => exact absurd state offline
                | offline => rfl
              have all : NodeEntry.members = [] ++ NodeEntry.members := rfl
              exact .assigning named there status all
          · rw [known] at taken ⊢
            cases taken
            simp [Carries, labels, operate, perform, registerNode_unknown named unknown]
      | @assigning _ _ found done rest named there status split =>
          cases rest with
          | nil =>
              cases taken
              rw [List.append_nil] at split
              subst split
              simp [Carries, labels, operate, perform, registerNode_found named there, status,
                assigned_members]
          | cons member rest =>
              simp only [registerNodeAccess,
                accessEntry_of_found (queryNode_assigned there _ done), put_assigned] at taken
              cases taken
              exact .assigning named there status (by rw [split, List.append_assoc]; rfl)

theorem queryNode_carries {nodeId : Bytes}
    (progress : Progress (.queryNode nodeId) start registry locals)
    (taken : registry.queryNodeAccess nodeId locals reading = some (next, result)) :
    Carries (.queryNode nodeId) start next locals reading result := by
  cases reading with
  | clock now => cases progress <;> simp [queryNodeAccess] at taken
  | iterator other => cases progress <;> simp [queryNodeAccess] at taken
  | nothing =>
      cases progress with
      | begin _ =>
          cases taken
          exact .located rfl
      | located seeks =>
          cases seeks
          rcases located_cases start nodeId with ⟨found, known, there⟩ | ⟨known, unknown⟩
          · rw [known] at taken ⊢
            cases taken
            have all : NodeEntry.members = [] ++ NodeEntry.members := rfl
            exact .copying there all
          · rw [known] at taken ⊢
            cases taken
            simp [Carries, labels, operate, unknown]
      | @copying _ _ found done rest there split =>
          cases rest with
          | nil =>
              cases taken
              rw [List.append_nil] at split
              subst split
              simp [Carries, labels, operate, there, NodeEntry.assignAll_members]
          | cons member rest =>
              simp only [queryNodeAccess, accessEntry_of_found there,
                ← NodeEntry.assignAll_concat] at taken
              cases taken
              exact .copying there (by rw [split, List.append_assoc]; rfl)

theorem listNodes_carries (progress : Progress .listNodes start registry locals)
    (taken : registry.listNodesAccess locals reading = some (next, result)) :
    Carries .listNodes start next locals reading result := by
  cases progress with
  | begin _ =>
      cases reading with
      | nothing =>
          cases taken
          exact .iterating (.nil start)
      | _ => cases taken
  | located seeks => cases seeks
  | iterating visits =>
      cases reading with
      | nothing =>
          simp only [listNodesAccess] at taken
          split at taken
          · rename_i all
            cases taken
            simp [Carries, labels, operate, visits.isSnapshot all]
          · cases taken
      | iterator nodeId =>
          simp only [listNodesAccess] at taken
          split at taken
          · rename_i fresh
            cases taken
            obtain ⟨found, there⟩ := Option.isSome_iff_exists.mp fresh.1
            have all : NodeEntry.members = [] ++ NodeEntry.members := rfl
            exact .visiting visits fresh.2 there all
          · cases taken
      | clock now => cases taken
  | @visiting _ visited snapshot nodeId found done rest visits fresh there split =>
      cases reading with
      | nothing =>
          cases rest with
          | nil =>
              cases taken
              rw [List.append_nil] at split
              subst split
              exact .iterating (visits.concat fresh there)
          | cons member rest =>
              simp only [listNodesAccess, accessEntry_of_found there,
                ← NodeEntry.assignAll_concat] at taken
              cases taken
              exact .visiting visits fresh there (by rw [split, List.append_assoc]; rfl)
      | _ => cases rest <;> cases taken

theorem setOffline_carries {nodeId : Bytes}
    (progress : Progress (.setOffline nodeId) start registry locals)
    (taken : registry.setOfflineAccess nodeId locals reading = some (next, result)) :
    Carries (.setOffline nodeId) start next locals reading result := by
  cases progress with
  | begin named =>
      cases reading with
      | nothing =>
          cases taken
          exact .located ⟨rfl, fun blank => by simp [Method.early, blank] at named⟩
      | _ => cases taken
  | located seeks =>
      obtain ⟨rfl, named⟩ := seeks
      cases reading with
      | nothing =>
          rcases located_cases start nodeId with ⟨found, known, there⟩ | ⟨known, unknown⟩
          · rw [known] at taken ⊢
            simp only [setOfflineAccess, accessEntry_of_found there] at taken
            cases taken
            exact .offline named there
          · rw [known] at taken ⊢
            cases taken
            have lookup : start.entries.lookup nodeId = none := unknown
            simp [Carries, labels, operate, perform, NodeRegistry.setOffline, lookup]
      | _ => simp [setOfflineAccess] at taken
  | @offline _ _ found named there =>
      cases reading with
      | clock now =>
          have written : (start.put nodeId { found with status := .offline }).queryNode nodeId =
              some { found with status := .offline } := by rw [queryNode_put, if_pos rfl]
          have lookup : start.entries.lookup nodeId = some found := there
          simp only [setOfflineAccess, accessEntry_of_found written, put_put] at taken
          cases taken
          simp [Carries, labels, operate, perform, NodeRegistry.setOffline, lookup, named,
            Reading.now]
      | _ => cases taken

theorem updateLastSeen_carries {nodeId : Bytes}
    (progress : Progress (.updateLastSeen nodeId) start registry locals)
    (taken : registry.updateLastSeenAccess nodeId locals reading = some (next, result)) :
    Carries (.updateLastSeen nodeId) start next locals reading result := by
  cases progress with
  | begin named =>
      cases reading with
      | nothing =>
          cases taken
          exact .located ⟨rfl, fun blank => by simp [Method.early, blank] at named⟩
      | _ => cases taken
  | located seeks =>
      obtain ⟨rfl, named⟩ := seeks
      cases reading with
      | nothing =>
          rcases located_cases start nodeId with ⟨found, known, there⟩ | ⟨known, unknown⟩
          · have lookup : start.entries.lookup nodeId = some found := there
            rw [known] at taken ⊢
            simp only [updateLastSeenAccess, accessEntry_of_found there] at taken
            split at taken
            · rename_i online
              cases taken
              exact .seen named there online
            · rename_i offline
              cases taken
              simp [Carries, labels, operate, perform, NodeRegistry.updateLastSeen, lookup,
                offline]
          · rw [known] at taken ⊢
            cases taken
            have lookup : start.entries.lookup nodeId = none := unknown
            simp [Carries, labels, operate, perform, NodeRegistry.updateLastSeen, lookup]
      | _ => simp [updateLastSeenAccess] at taken
  | @seen _ _ found named there online =>
      cases reading with
      | clock now =>
          have lookup : start.entries.lookup nodeId = some found := there
          simp only [updateLastSeenAccess, accessEntry_of_found there] at taken
          cases taken
          simp [Carries, labels, operate, perform, NodeRegistry.updateLastSeen, lookup, named,
            online, Reading.now]
      | _ => cases taken

theorem isOffline_carries {nodeId : Bytes}
    (progress : Progress (.isOffline nodeId) start registry locals)
    (taken : registry.isOfflineAccess nodeId locals reading = some (next, result)) :
    Carries (.isOffline nodeId) start next locals reading result := by
  cases progress with
  | begin _ =>
      cases reading with
      | nothing =>
          cases taken
          exact .located rfl
      | _ => cases taken
  | located seeks =>
      cases seeks
      cases reading with
      | nothing =>
          rcases located_cases start nodeId with ⟨found, known, there⟩ | ⟨known, unknown⟩
          · have lookup : start.entries.lookup nodeId = some found := there
            rw [known] at taken ⊢
            simp only [isOfflineAccess, accessEntry_of_found there] at taken
            cases taken
            simp [Carries, labels, operate, NodeRegistry.isOffline, lookup]
          · have lookup : start.entries.lookup nodeId = none := unknown
            rw [known] at taken ⊢
            cases taken
            simp [Carries, labels, operate, NodeRegistry.isOffline, lookup]
      | _ => simp [isOfflineAccess] at taken

theorem contains_carries {nodeId : Bytes}
    (progress : Progress (.contains nodeId) start registry locals)
    (taken : registry.containsAccess nodeId locals reading = some (next, result)) :
    Carries (.contains nodeId) start next locals reading result := by
  cases progress with
  | begin _ =>
      cases reading with
      | nothing =>
          cases taken
          rfl
      | _ => cases taken
  | located seeks => cases seeks

theorem access_carries {method : Method} (progress : Progress method start registry locals)
    (taken : registry.access method locals reading = some (next, result)) :
    Carries method start next locals reading result := by
  cases method with
  | registerNode entry => exact registerNode_carries progress taken
  | queryNode nodeId => exact queryNode_carries progress taken
  | listNodes => exact listNodes_carries progress taken
  | setOffline nodeId => exact setOffline_carries progress taken
  | updateLastSeen nodeId => exact updateLastSeen_carries progress taken
  | isOffline nodeId => exact isOffline_carries progress taken
  | contains nodeId => exact contains_carries progress taken

/-- A reader writes nothing. -/
theorem access_shared {method : Method} (mode : method.mode = .shared)
    (taken : registry.access method locals reading = some (next, result)) : next = registry := by
  have through {nodeId : Bytes} {use : NodeEntry → Accessed}
      (reads : ∀ found, (use found).1 = registry)
      (used : registry.accessEntry nodeId use = some (next, result)) : next = registry := by
    obtain ⟨found, -, same⟩ := Option.map_eq_some_iff.mp used
    rw [← reads found, same]
  cases method with
  | registerNode entry => cases mode
  | setOffline nodeId => cases mode
  | updateLastSeen nodeId => cases mode
  | queryNode nodeId =>
      simp only [access, queryNodeAccess] at taken
      split at taken
      · cases taken; rfl
      · cases taken; rfl
      · cases taken; rfl
      · exact through (fun _ => rfl) taken
      · cases taken; rfl
      · cases taken
  | listNodes =>
      simp only [access, listNodesAccess] at taken
      split at taken
      · cases taken; rfl
      · split_ifs at taken
        cases taken; rfl
      · split_ifs at taken
        cases taken; rfl
      · exact through (fun _ => rfl) taken
      · cases taken; rfl
      · cases taken
  | isOffline nodeId =>
      simp only [access, isOfflineAccess] at taken
      split at taken
      · cases taken; rfl
      · exact through (fun _ => rfl) taken
      · cases taken; rfl
      · cases taken
  | contains nodeId =>
      simp only [access, containsAccess] at taken
      split at taken
      · cases taken; rfl
      · cases taken

end Carries

theorem early_operate {method : Method} {answer : Returned} (early : method.early = some answer)
    (registry : NodeRegistry) :
    operate registry (labels.early method) = some (answer, registry) := by
  cases method with
  | setOffline nodeId =>
      obtain ⟨blank, same⟩ := Option.ite_none_right_eq_some.mp early
      cases same
      simp [labels, operate, perform, NodeRegistry.setOffline, blank]
  | updateLastSeen nodeId =>
      obtain ⟨blank, same⟩ := Option.ite_none_right_eq_some.mp early
      cases same
      simp [labels, operate, perform, NodeRegistry.updateLastSeen, blank]
  | _ => cases early

/-- **Every section is atomic.** -/
theorem sections_atomic : sections.Atomic labels operate Progress where
  early early registry := early_operate early registry
  enters early _ := .begin early
  reads mode taken := access_shared mode taken
  goesOn progress taken := access_carries progress taken
  ends progress taken := access_carries progress taken

/-! ### The threads -/

section Threads

variable {τ : Type} [DecidableEq τ] [Fintype τ]

abbrev RegistryThreads (τ : Type) := SectionState τ NodeRegistry Method Locals Returned

abbrev RegistryTurn (τ : Type) := SectionTurn τ NodeRegistry Method Locals Reading Returned

variable {initial : NodeRegistry} {state : RegistryThreads τ} {trace : List (RegistryTurn τ)}

/-- **The methods are atomic.** For any threads and every interleaving of their accesses to the
registry: the calls, in the order of the accesses that end their sections, are a run of the methods
as single steps with the same answers, which ends in the registry there is once no thread is in a
section; and whenever a method returns, exactly one such access fixed its answer since it was
called. -/
theorem registry_linearizable
    (run : Run sections.step (.start τ Method Locals Returned initial) trace state) :
    (∃ operations registry, Run operate initial operations registry ∧
      operations.map (fun done => (done.event, done.output)) =
        (trace.filterMap (sections.commit labels)).map Prod.snd ∧
      ((∀ thread method locals, state.stages thread ≠ .inside method locals) →
        state.shared = registry)) ∧
    ∀ earlier turn later answer, trace = earlier ++ turn :: later → turn.output = some answer →
      ∃ method since operation,
        lastHit (SectionTurn.callOf turn.event.thread) earlier = some (method, since) ∧
        (since ++ [turn]).filterMap (sections.answerOf labels turn.event.thread) =
          [(operation, answer)] := by
  constructor
  · obtain ⟨operations, registry, ran, beside, same⟩ := Sections.linearizable sections_atomic run
    refine ⟨operations, registry, ran, same, fun quiet => ?_⟩
    exact beside.settled fun thread method locals inside =>
      absurd inside (quiet thread method locals)
  · rintro earlier turn later answer rfl returned
    obtain ⟨before, taken, -⟩ := run.cut
    obtain ⟨method, since, operation, called, -, fixed⟩ :=
      Sections.returned_commit labels before taken returned
    exact ⟨method, since, operation, called, fixed⟩

/-- A node that is being set OFFLINE, one access before its time stamp, and a query that waits for
the mutex. -/
def halfWritten : List (SectionEvent Bool Method Reading) :=
  [.call true (.setOffline (text "vault-01")), .lock true, .access true .nothing,
    .access true .nothing, .call false (.queryNode (text "vault-01")),
    .access true (.clock 7), .unlock true, .lock false] ++
    List.replicate 9 (.access false .nothing) ++ [.unlock false]

/-- A registry with one node. -/
def oneNode : NodeRegistry :=
  (empty.registerNode ⟨text "vault-01", text "Vault 1", text "10.0.0.1", 100, .online, epoch⟩).2

theorem registry_linearizable_halfWritten :
    let trace := execTrace sections.step (.start Bool Method Locals Returned oneNode) halfWritten
    trace.map Transition.event = halfWritten ∧
    ∃ operations registry, Run operate oneNode operations registry ∧
      operations.map (fun done => (done.event, done.output)) =
        (trace.filterMap (sections.commit labels)).map Prod.snd :=
  have possible : (exec sections.step (.start Bool Method Locals Returned oneNode)
      halfWritten).isSome = true := by decide
  have ⟨operations, registry, ran, same, _⟩ :=
    (registry_linearizable (run_of_possible possible)).1
  ⟨execTrace_events possible, operations, registry, ran, same⟩

/-! ### What readers return -/

/-- The write among the operations. -/
def writeOf : Operation × Returned → Option (Call × Answer)
  | (.write call, .wrote answer) => some (call, answer)
  | _ => none

/-- The completed call a step of the methods is. -/
def completedOf (done : Transition NodeRegistry Operation Returned) : Option Completed :=
  (writeOf (done.event, done.output)).map fun (call, answer) =>
    ⟨done.before, call, answer, done.after⟩

/-- The writes of a run of the methods are a run of the writers alone. -/
theorem run_writes {operations : List (Transition NodeRegistry Operation Returned)}
    {registry : NodeRegistry} (run : Run operate initial operations registry) :
    Run registryStep initial (operations.filterMap completedOf) registry := by
  refine run.project id completedOf ?_ ?_
  · rintro ⟨before, operation, answer, after⟩ taken reads
    change operate before operation = some (answer, after) at taken
    cases operation with
    | write call =>
        cases taken
        cases reads
    | listNodes snapshot =>
        simp only [operate] at taken
        split_ifs at taken
        cases taken
        rfl
    | _ =>
        cases taken
        rfl
  · rintro ⟨before, operation, answer, after⟩ completed taken writes
    change operate before operation = some (answer, after) at taken
    cases operation with
    | write call =>
        cases taken
        cases writes
        exact ⟨rfl, rfl, rfl⟩
    | _ => cases writes

theorem map_completedOf (operations : List (Transition NodeRegistry Operation Returned)) :
    (operations.filterMap completedOf).map (fun done => (done.event, done.output)) =
      (operations.map fun done => (done.event, done.output)).filterMap writeOf := by
  rw [List.map_filterMap, List.filterMap_map]
  refine List.filterMap_congr fun done _ => ?_
  rw [completedOf, Option.map_map, Function.comp_apply]
  cases writeOf (done.event, done.output) <;> rfl

/-- **No half-written entry is ever read.** Whatever the interleaving, what a method answers is what
it answers on a registry that refines the history of the writes that were complete before: a query
returns the entry the history records for its id, and a listing has exactly the entries the history
records. -/
theorem reads_history {earlier later : List (RegistryTurn τ)} {turn : RegistryTurn τ} {thread : τ}
    {operation : Operation} {answer : Returned}
    (run : Run sections.step (.start τ Method Locals Returned empty) (earlier ++ turn :: later)
      state)
    (commit : sections.commit labels turn = some (thread, operation, answer)) :
    ∃ history registry next, Run registryStep empty history registry ∧
      history.map (fun done => (done.event, done.output)) =
        ((earlier.filterMap (sections.commit labels)).map Prod.snd).filterMap writeOf ∧
      operate registry operation = some (answer, next) ∧
      (∀ nodeId entry, operation = .queryNode nodeId → answer = .found entry →
        entry = recorded nodeId history) ∧
      ∀ snapshot, answer = .listed snapshot →
        ∀ entry, entry ∈ snapshot ↔ recorded entry.nodeId history = some entry := by
  obtain ⟨before, taken, -⟩ := run.cut
  obtain ⟨operations, registry, ran, beside, same⟩ := Sections.linearizable sections_atomic before
  have writes := run_writes ran
  have agree := queryNode_eq_recorded writes
  rcases beside.step sections_atomic (Sections.disciplined before) taken with
    ⟨silent, -⟩ | ⟨_, _, _, next, made, done, -⟩
  · rw [silent] at commit
    cases commit
  · rw [made] at commit
    cases commit
    refine ⟨_, registry, next, writes, by rw [map_completedOf, same], done, ?_, ?_⟩
    · rintro nodeId entry rfl rfl
      cases done
      exact agree nodeId
    · rintro snapshot rfl entry
      cases operation with
      | listNodes listing =>
          simp only [operate] at done
          split_ifs at done with taken
          cases done
          rw [(keyed_of_run writes).mem_snapshot taken, agree]
      | _ => cases done

/-- A node is registered, and a query has copied all of its entry. -/
def registeredThenCopied : List (SectionEvent Bool Method Reading) :=
  [.call true (.registerNode ⟨text "vault-01", text "Vault 1", text "10.0.0.1", 100, .online,
      epoch⟩), .lock true, .access true .nothing, .access true .nothing, .unlock true,
    .call false (.queryNode (text "vault-01")), .lock false] ++
    List.replicate 8 (.access false .nothing)

theorem reads_history_registered :
    let start := SectionState.start Bool Method Locals Returned empty
    let earlier := execTrace sections.step start registeredThenCopied
    let state := execFinal sections.step start registeredThenCopied
    let next := execFinal sections.step start (registeredThenCopied ++ [.access false .nothing])
    ∃ operation answer, sections.commit labels ⟨state, .access false .nothing, none, next⟩ =
        some (false, operation, answer) ∧ operation = .queryNode (text "vault-01") ∧
      ∃ history registry next', Run registryStep empty history registry ∧
        history.map (fun done => (done.event, done.output)) =
          ((earlier.filterMap (sections.commit labels)).map Prod.snd).filterMap writeOf ∧
        operate registry operation = some (answer, next') := by
  intro start earlier state next
  have taken : sections.step state (.access false .nothing) = some (none, next) := by rfl
  have run : Run sections.step start (earlier ++ [⟨state, .access false .nothing, none, next⟩])
      next := .snoc (run_of_possible (by decide)) taken
  obtain ⟨history, registry, next', ran, same, done, -⟩ := reads_history run rfl
  exact ⟨_, _, rfl, rfl, history, registry, next', ran, same, done⟩

end Threads

end NodeRegistry

end ExodusOps
