/-
**The requests, end to end.**

What a client may expect of a REGISTER, a QUERY_NODE and a LIST_NODES, as statements about payloads
and answers with no mention of the order in which the handlers check things.

* `register_endToEnd` — **REGISTER.** A payload that says what a registration has to say
  (`Registration`) is acknowledged unless its node is ONLINE, in which case it is refused as a
  duplicate; any other payload is refused as malformed. The registry changes with the ACK alone and
  at that node alone.
* `queries_agree` — **QUERY_NODE and LIST_NODES.** A listing has one object per registered id, which
  is the QUERY_NODE answer for the id less its `ref_message_id`; the ids that are not listed are
  those QUERY_NODE does not find.
-/

import ExodusOps.Lib.JsonFlat
import ExodusOps.Server.World
import Mathlib.Data.List.Forall2

namespace ExodusOps

open MessageSerializer

variable {codec : JsonCodec}

/-! ### Which error an answer is -/

theorem ProtocolErrorCode.code_injective : Function.Injective ProtocolErrorCode.code := by
  intro first second
  cases first <;> cases second <;> decide

theorem errorReply_code (messageId : UInt32) (errorCode : ProtocolErrorCode)
    (description : Bytes) :
    (errorReply messageId errorCode description).body.get? (text "error_code") =
      some (.unsigned errorCode.code.toUInt64) := by
  rw [errorReply, buildErrorPayload, Json.get?_build]
  rfl

/-- An answer is one error only. -/
theorem errorReply_injective {messageId : UInt32} {first second : ProtocolErrorCode}
    {description remark : Bytes}
    (same : errorReply messageId first description = errorReply messageId second remark) :
    first = second := by
  have codes := errorReply_code messageId first description
  rw [same, errorReply_code, Option.some.injEq, Json.unsigned.injEq,
    UInt8.toUInt64_inj] at codes
  exact (ProtocolErrorCode.code_injective codes).symm

theorem errorReply_ne_ackReply (messageId : UInt32) (errorCode : ProtocolErrorCode)
    (description : Bytes) (body : Json) :
    errorReply messageId errorCode description ≠ ackReply messageId body := by
  intro same
  have types : MessageType.errorMsg = MessageType.ack := congrArg Reply.messageType same
  exact absurd types (by decide)

theorem buildErrorPayload_flat (messageId : UInt32) (errorCode : ProtocolErrorCode)
    {description : Bytes} (utf8 : Utf8 description) :
    (buildErrorPayload messageId errorCode description).Flat := by
  refine Json.flat_build (List.cons_ne_nil _ _) ?_
  simp only [List.forall_mem_cons, List.not_mem_nil, false_implies, implies_true, and_true]
  exact ⟨⟨utf8_text _, trivial⟩, ⟨utf8_text _, trivial⟩, utf8_text _, utf8⟩

/-! ### Registration -/

/-- What a REGISTER payload has to say. -/
structure Registration where
  nodeId : Bytes
  bunkerName : Bytes
  ipAddress : Bytes
  capacity : UInt64
  named : nodeId ≠ []

namespace Registration

/-- The payload is a JSON object that says it, whatever else it says. -/
def WrittenIn (codec : JsonCodec) (jsonPayload : Bytes) (registration : Registration) : Prop :=
  ∃ members, codec.parse jsonPayload = some (.object members) ∧
    members.lookup (text "node_id") = some (.string registration.nodeId) ∧
    members.lookup (text "bunker_name") = some (.string registration.bunkerName) ∧
    members.lookup (text "ip_address") = some (.string registration.ipAddress) ∧
    members.lookup (text "capacity") = some (.unsigned registration.capacity)

/-- The entry it makes. -/
def entry (registration : Registration) : NodeEntry where
  nodeId := registration.nodeId
  bunkerName := registration.bunkerName
  ipAddress := registration.ipAddress
  capacity := registration.capacity
  status := .online
  lastSeenAt := epoch

end Registration

namespace RegisterHandler

/-- **What the checks accept** are the payloads a registration is written in. -/
theorem request_eq_some_iff {jsonPayload : Bytes} {entry : NodeEntry} :
    request codec jsonPayload = some entry ↔
      ∃ registration : Registration, registration.WrittenIn codec jsonPayload ∧
        registration.entry = entry := by
  constructor
  · intro valid
    obtain ⟨json, parsed, node, bunker, address, size, named, _⟩ := request_fields valid
    rw [request, parsed, Option.bind_some, validate] at valid
    simp only [node, bunker, address, size, if_neg named, Option.some.injEq] at valid
    cases json with
    | object members =>
        exact ⟨⟨entry.nodeId, entry.bunkerName, entry.ipAddress, entry.capacity, named⟩,
          ⟨members, parsed, node, bunker, address, size⟩, valid⟩
    | _ => cases node
  · rintro ⟨registration, ⟨members, parsed, node, bunker, address, size⟩, rfl⟩
    rw [request, parsed, Option.bind_some, validate]
    simp only [Json.get?, node, bunker, address, size, if_neg registration.named]
    rfl

end RegisterHandler

/-- **What the registry says to a registration.** -/
theorem registerNode_registration (registry : NodeRegistry) (registration : Registration) :
    (registry.registerNode registration.entry).1 =
      if registry.isOnline registration.nodeId then .errDuplicate else .ok := by
  have named := registration.named
  unfold NodeRegistry.registerNode NodeRegistry.isOnline NodeRegistry.queryNode Registration.entry
  rw [if_neg named]
  cases registry.entries.lookup registration.nodeId with
  | none => rfl
  | some found => cases status : found.status <;> simp [status]

/-- A payload says one thing. -/
theorem Registration.WrittenIn.unique {jsonPayload : Bytes} {first second : Registration}
    (one : first.WrittenIn codec jsonPayload) (two : second.WrittenIn codec jsonPayload) :
    first = second := by
  have request := RegisterHandler.request_eq_some_iff.mpr ⟨first, one, rfl⟩
  rw [RegisterHandler.request_eq_some_iff.mpr ⟨second, two, rfl⟩] at request
  obtain ⟨_, _, _, _, _⟩ := first
  obtain ⟨_, _, _, _, _⟩ := second
  cases request
  rfl

/-- The node of an ACK can be read off it. -/
theorem ackReply_nodeId {messageId : UInt32} {first second : Bytes}
    (same : ackReply messageId (buildAckPayload messageId first) =
      ackReply messageId (buildAckPayload messageId second)) : first = second := by
  have named : ∀ nodeId, (buildAckPayload messageId nodeId).get? (text "node_id") =
      some (.string nodeId) := by
    intro nodeId
    rw [buildAckPayload, Json.get?_build]
    rfl
  have bodies : buildAckPayload messageId first = buildAckPayload messageId second :=
    congrArg Reply.body same
  have ids := named first
  rw [bodies, named] at ids
  exact (Json.string.inj (Option.some.inj ids)).symm

/-- Filing an ONLINE entry where there is none changes the registry. -/
theorem put_registration_ne {registry : NodeRegistry} {registration : Registration}
    (free : registry.isOnline registration.nodeId = false) :
    registry.put registration.nodeId registration.entry ≠ registry := by
  intro same
  have online : (registry.put registration.nodeId registration.entry).isOnline
      registration.nodeId = true := by
    rw [NodeRegistry.isOnline, NodeRegistry.queryNode_put, if_pos rfl]
    rfl
  rw [same, free] at online
  cases online

/-- **The three ways a REGISTER ends**, by what is written in the payload. -/
inductive Handled (codec : JsonCodec) (registry : NodeRegistry) (messageId : UInt32)
    (jsonPayload : Bytes) : Reply × NodeRegistry → Prop where
  | registered {registration : Registration} : registration.WrittenIn codec jsonPayload →
      registry.isOnline registration.nodeId = false →
        Handled codec registry messageId jsonPayload
          (ackReply messageId (buildAckPayload messageId registration.nodeId),
            registry.put registration.nodeId registration.entry)
  | duplicate {registration : Registration} : registration.WrittenIn codec jsonPayload →
      registry.isOnline registration.nodeId = true →
        Handled codec registry messageId jsonPayload
          (errorReply messageId .errDuplicate
            (text "Node " ++ registration.nodeId ++ text " already registered"), registry)
  | malformed (description : String) :
      (¬ ∃ registration : Registration, registration.WrittenIn codec jsonPayload) →
        Handled codec registry messageId jsonPayload
          (errorReply messageId .errMalformed (text description), registry)

theorem handled_of_handle (codec : JsonCodec) (registry : NodeRegistry) (messageId : UInt32)
    (jsonPayload : Bytes) : Handled codec registry messageId jsonPayload
      (RegisterHandler.handle codec registry messageId jsonPayload) := by
  rcases RegisterHandler.handle_cases codec registry messageId jsonPayload with
    ⟨description, invalid, handled⟩ | ⟨entry, valid, accepted, handled⟩ |
      ⟨entry, valid, refused, handled⟩
  · rw [handled]
    refine .malformed description ?_
    rintro ⟨registration, written⟩
    cases invalid.symm.trans
      (RegisterHandler.request_eq_some_iff.mpr ⟨registration, written, rfl⟩)
  · obtain ⟨registration, written, rfl⟩ := RegisterHandler.request_eq_some_iff.mp valid
    have free := registerNode_registration registry registration
    rw [accepted] at free
    split_ifs at free with online
    rw [handled, NodeRegistry.registerNode_ok accepted]
    exact .registered written (Bool.eq_false_iff.mpr online)
  · obtain ⟨registration, written, rfl⟩ := RegisterHandler.request_eq_some_iff.mp valid
    have taken := registerNode_registration registry registration
    rw [refused] at taken
    split_ifs at taken with online
    rw [handled]
    exact .duplicate written online

namespace Handled

variable {registry : NodeRegistry} {messageId : UInt32} {jsonPayload : Bytes}
  {result : Reply × NodeRegistry}

theorem ack_iff (handled : Handled codec registry messageId jsonPayload result) (nodeId : Bytes) :
    result.1 = ackReply messageId (buildAckPayload messageId nodeId) ↔
      ∃ registration : Registration, registration.WrittenIn codec jsonPayload ∧
        registration.nodeId = nodeId ∧ registry.isOnline nodeId = false := by
  cases handled with
  | @registered registration written free =>
      constructor
      · intro same
        cases ackReply_nodeId same
        exact ⟨registration, written, rfl, free⟩
      · rintro ⟨other, again, rfl, _⟩
        rw [written.unique again]
  | duplicate written online =>
      refine iff_of_false (errorReply_ne_ackReply _ _ _ _) ?_
      rintro ⟨other, again, rfl, free⟩
      rw [written.unique again, free] at online
      cases online
  | malformed description unwritten =>
      refine iff_of_false (errorReply_ne_ackReply _ _ _ _) ?_
      rintro ⟨registration, written, _⟩
      exact unwritten ⟨registration, written⟩

theorem duplicate_iff (handled : Handled codec registry messageId jsonPayload result) :
    (∃ description, result.1 = errorReply messageId .errDuplicate description) ↔
      ∃ registration : Registration, registration.WrittenIn codec jsonPayload ∧
        registry.isOnline registration.nodeId = true := by
  cases handled with
  | registered written free =>
      refine iff_of_false ?_ ?_
      · rintro ⟨description, same⟩
        exact errorReply_ne_ackReply _ _ _ _ same.symm
      · rintro ⟨other, again, online⟩
        rw [← written.unique again, free] at online
        cases online
  | @duplicate registration written online =>
      exact iff_of_true ⟨_, rfl⟩ ⟨registration, written, online⟩
  | malformed description unwritten =>
      refine iff_of_false ?_ ?_
      · rintro ⟨_, same⟩
        cases errorReply_injective same
      · rintro ⟨registration, written, _⟩
        exact unwritten ⟨registration, written⟩

theorem malformed_iff (handled : Handled codec registry messageId jsonPayload result) :
    (∃ description, result.1 = errorReply messageId .errMalformed description) ↔
      ¬ ∃ registration : Registration, registration.WrittenIn codec jsonPayload := by
  cases handled with
  | @registered registration written _ =>
      refine iff_of_false ?_ (not_not_intro ⟨registration, written⟩)
      rintro ⟨description, same⟩
      exact errorReply_ne_ackReply _ _ _ _ same.symm
  | @duplicate registration written _ =>
      refine iff_of_false ?_ (not_not_intro ⟨registration, written⟩)
      rintro ⟨description, same⟩
      cases errorReply_injective same
  | malformed description unwritten => exact iff_of_true ⟨_, rfl⟩ unwritten

/-- **The registry changes with the ACK alone.** -/
theorem changes_iff (handled : Handled codec registry messageId jsonPayload result) :
    result.2 ≠ registry ↔
      ∃ nodeId, result.1 = ackReply messageId (buildAckPayload messageId nodeId) := by
  cases handled with
  | registered _ free => exact iff_of_true (put_registration_ne free) ⟨_, rfl⟩
  | duplicate _ _ | malformed _ _ =>
      refine iff_of_false (not_not_intro rfl) ?_
      rintro ⟨nodeId, same⟩
      exact errorReply_ne_ackReply _ _ _ _ same

/-- **And at that node alone.** -/
theorem queryNode (handled : Handled codec registry messageId jsonPayload result)
    {registration : Registration} (written : registration.WrittenIn codec jsonPayload)
    (free : registry.isOnline registration.nodeId = false) (nodeId : Bytes) :
    result.2.queryNode nodeId =
      if nodeId = registration.nodeId then some registration.entry
      else registry.queryNode nodeId := by
  cases handled with
  | registered again _ =>
      rw [written.unique again]
      exact NodeRegistry.queryNode_put _ _ _ _
  | duplicate again online =>
      rw [written.unique again, online] at free
      cases free
  | malformed _ unwritten => exact absurd ⟨registration, written⟩ unwritten

/-- **The answer is written**, as a text that says the same. -/
theorem written (lawful : codec.Lawful)
    (handled : Handled codec registry messageId jsonPayload result) :
    ∃ frame, result.1.frame codec = some frame ∧
      codec.parse frame.payload = some result.1.body := by
  refine Reply.frame_of_flat lawful _ ?_
  have utf8 : ∀ registration : Registration, registration.WrittenIn codec jsonPayload →
      Utf8 registration.nodeId := by
    rintro registration ⟨members, parsed, node, _⟩
    exact lawful.parse_utf8 parsed node
  cases handled with
  | registered written _ => exact buildAckPayload_flat messageId (utf8 _ written)
  | duplicate written _ =>
      refine buildErrorPayload_flat messageId _ ?_
      exact ((utf8_text _).append (utf8 _ written)).append (utf8_text _)
  | malformed _ _ => exact buildErrorPayload_flat messageId _ (utf8_text _)

end Handled

/-- **REGISTER, end to end.** -/
theorem register_endToEnd (lawful : codec.Lawful) (registry : NodeRegistry) (messageId : UInt32)
    (jsonPayload : Bytes) :
    let handled := RegisterHandler.handle codec registry messageId jsonPayload
    -- which answer
    (∀ nodeId, handled.1 = ackReply messageId (buildAckPayload messageId nodeId) ↔
      ∃ registration : Registration, registration.WrittenIn codec jsonPayload ∧
        registration.nodeId = nodeId ∧ registry.isOnline nodeId = false) ∧
    ((∃ description, handled.1 = errorReply messageId .errDuplicate description) ↔
      ∃ registration : Registration, registration.WrittenIn codec jsonPayload ∧
        registry.isOnline registration.nodeId = true) ∧
    ((∃ description, handled.1 = errorReply messageId .errMalformed description) ↔
      ¬ ∃ registration : Registration, registration.WrittenIn codec jsonPayload) ∧
    -- it is written, as a text that says the same
    (∃ frame, handled.1.frame codec = some frame ∧
      codec.parse frame.payload = some handled.1.body) ∧
    -- which registry
    (handled.2 ≠ registry ↔
      ∃ nodeId, handled.1 = ackReply messageId (buildAckPayload messageId nodeId)) ∧
    (∀ registration : Registration, registration.WrittenIn codec jsonPayload →
      registry.isOnline registration.nodeId = false → ∀ nodeId, handled.2.queryNode nodeId =
        if nodeId = registration.nodeId then some registration.entry
        else registry.queryNode nodeId) ∧
    -- and with what `registerNode` is called
    ∀ entry, RegisterHandler.request codec jsonPayload = some entry → entry.nodeId ≠ [] := by
  have handled := handled_of_handle codec registry messageId jsonPayload
  refine ⟨handled.ack_iff, handled.duplicate_iff, handled.malformed_iff, handled.written lawful,
    handled.changes_iff, fun registration => handled.queryNode, ?_⟩
  intro entry valid
  obtain ⟨registration, _, rfl⟩ := RegisterHandler.request_eq_some_iff.mp valid
  exact registration.named

/-- A new node. -/
theorem register_endToEnd_vault :
    (RegisterHandler.handle Json.flatCodec .empty 7 (registrationPayload Json.flatCodec
        (text "vault-01") (text "North") (text "10.0.0.1") 40)).1 =
      ackReply 7 (buildAckPayload 7 (text "vault-01")) := by
  have valid := request_registrationPayload Json.flatCodec_lawful
    (show text "vault-01" ≠ [] by decide) (utf8_text _) (utf8_text "North") (utf8_text "10.0.0.1")
    40
  obtain ⟨registration, written, entry⟩ := RegisterHandler.request_eq_some_iff.mp valid
  exact ((register_endToEnd Json.flatCodec_lawful .empty 7 _).1 _).mpr
    ⟨registration, written, congrArg NodeEntry.nodeId entry, rfl⟩

/-! ### Queries -/

section Queries

variable (codec) (registry : NodeRegistry) (messageId : UInt32)

/-- A QUERY_NODE that names a node, by whether the registry has it. -/
theorem handleQueryNode_named {jsonPayload nodeId : Bytes}
    (named : extractNodeId codec jsonPayload = some nodeId) :
    QueryHandler.handleQueryNode codec registry messageId jsonPayload =
      match registry.queryNode nodeId with
      | none => errorReply messageId .errNotFound (text "Node " ++ nodeId ++ text " not found")
      | some entry => ackReply messageId (QueryHandler.nodeBody messageId entry) := by
  obtain ⟨json, parsed, member⟩ := extractNodeId_eq_some_iff.mp named
  cases found : registry.queryNode nodeId <;>
    simp only [QueryHandler.handleQueryNode, parsed, member, found]

/-- A QUERY_NODE that names none. -/
theorem handleQueryNode_unnamed {jsonPayload : Bytes}
    (unnamed : extractNodeId codec jsonPayload = none) :
    ∃ description, QueryHandler.handleQueryNode codec registry messageId jsonPayload =
      errorReply messageId .errMalformed (text description) := by
  unfold QueryHandler.handleQueryNode
  cases parsed : codec.parse jsonPayload with
  | none => exact ⟨_, rfl⟩
  | some json =>
      refine ⟨"Missing or invalid field: node_id", ?_⟩
      cases member : json.get? (text "node_id") with
      | none => simp only [member]
      | some value =>
          cases value with
          | string nodeId =>
              cases unnamed.symm.trans (extractNodeId_eq_some_iff.mpr ⟨json, parsed, member⟩)
          | _ => simp only [member]

theorem handleQueryNode_notFound_iff (jsonPayload : Bytes) :
    (∃ description, QueryHandler.handleQueryNode codec registry messageId jsonPayload =
        errorReply messageId .errNotFound description) ↔
      ∃ nodeId, extractNodeId codec jsonPayload = some nodeId ∧
        registry.contains nodeId = false := by
  cases named : extractNodeId codec jsonPayload with
  | none =>
      obtain ⟨description, malformed⟩ := handleQueryNode_unnamed codec registry messageId named
      rw [malformed]
      refine iff_of_false ?_ (by simp)
      rintro ⟨_, same⟩
      cases errorReply_injective same
  | some nodeId =>
      rw [handleQueryNode_named codec registry messageId named]
      cases found : registry.queryNode nodeId with
      | none =>
          refine iff_of_true ⟨_, rfl⟩ ⟨nodeId, rfl, ?_⟩
          rw [Bool.eq_false_iff, Ne, NodeRegistry.contains_iff, found]
          simp
      | some entry =>
          refine iff_of_false ?_ ?_
          · rintro ⟨_, same⟩
            exact errorReply_ne_ackReply _ _ _ _ same.symm
          · rintro ⟨_, same, missing⟩
            cases same
            rw [(NodeRegistry.contains_iff _ _).mpr ⟨entry, found⟩] at missing
            cases missing

end Queries

/-- **LIST_NODES and QUERY_NODE agree**, whatever calls have been made on the registry and in
whatever order it lists its entries. -/
theorem queries_agree {history : List NodeRegistry.Completed} {registry : NodeRegistry}
    (run : Run NodeRegistry.registryStep .empty history registry) {listing : List NodeEntry}
    (taken : registry.IsSnapshot listing) (messageId : UInt32) (jsonPayload : Bytes) :
    ∃ (ids : List Bytes) (nodes : List Json),
      QueryHandler.handle codec registry .listNodes messageId jsonPayload listing =
        ackReply messageId (.build [(text "ref_message_id", .unsigned messageId.toUInt64),
          (text "nodes", .array nodes)]) ∧
      -- one object per registered id
      ids.Nodup ∧ (∀ nodeId, nodeId ∈ ids ↔ registry.contains nodeId = true) ∧
      List.Forall₂ (fun nodeId node =>
        node.get? (text "node_id") = some (.string nodeId) ∧
        -- which is the answer to any QUERY_NODE for the id
        ∀ queryId query, extractNodeId codec query = some nodeId →
          ∃ body, QueryHandler.handle codec registry .queryNode queryId query listing =
              ackReply queryId body ∧ body.without (text "ref_message_id") = node) ids nodes ∧
      -- the others are not found
      (∀ queryId query,
        (∃ description, QueryHandler.handle codec registry .queryNode queryId query listing =
            errorReply queryId .errNotFound description) ↔
          ∃ nodeId, extractNodeId codec query = some nodeId ∧ nodeId ∉ ids) ∧
      ∀ activeNodeId frame now, frame.messageType = .queryNode ∨ frame.messageType = .listNodes →
        (dispatch codec registry activeNodeId frame now listing).registry = registry := by
  have keyed := NodeRegistry.keyed_of_run run
  have listed : ∀ nodeId, nodeId ∈ listing.map NodeEntry.nodeId ↔
      registry.contains nodeId = true := by
    intro nodeId
    simp only [NodeRegistry.contains_iff, keyed.queryNode_iff_mem taken, List.mem_map]
  refine ⟨listing.map NodeEntry.nodeId, listing.map QueryHandler.entryToJson, rfl,
    keyed.snapshot_nodup taken, listed, ?_, ?_, ?_⟩
  · rw [List.forall₂_map_left_iff, List.forall₂_map_right_iff, List.forall₂_same]
    intro entry member
    have found := (keyed.mem_snapshot taken entry).mp member
    refine ⟨?_, fun queryId query named => ⟨QueryHandler.nodeBody queryId entry, ?_,
      QueryHandler.nodeBody_without_ref queryId entry⟩⟩
    · rw [QueryHandler.entryToJson, Json.get?_build, QueryHandler.entryMembers]
      cases entry.status <;> rfl
    · rw [QueryHandler.handle, if_pos rfl, handleQueryNode_named codec registry queryId named,
        found]
  · intro queryId query
    rw [QueryHandler.handle, if_pos rfl, handleQueryNode_notFound_iff]
    simp only [listed, Bool.not_eq_true]
  · intro activeNodeId frame now asked
    have other : frame.messageType ≠ .register := by
      rcases asked with asked | asked <;> rw [asked] <;> decide
    rw [dispatch, if_neg other, if_pos asked]

/-- Two nodes, one of them OFFLINE by now. -/
def twoNodes : List NodeRegistry.Call :=
  [.registerNode ⟨text "vault-01", text "North", text "10.0.0.1", 40, .online, epoch⟩,
    .registerNode ⟨text "vault-02", text "South", text "10.0.0.2", 50, .online, epoch⟩,
    .setOffline (text "vault-01") 9]

/-- They are listed in one order or the other. -/
theorem queries_agree_two :
    ∃ history registry, exec NodeRegistry.registryStep .empty twoNodes = some (history, registry) ∧
      registry.listNodes.length = 2 ∧ ∃ (ids : List Bytes) (nodes : List Json),
        QueryHandler.handle Json.flatCodec registry .listNodes 3 [] registry.listNodes.reverse =
          ackReply 3 (.build [(text "ref_message_id", .unsigned 3),
            (text "nodes", .array nodes)]) ∧
        ids.Nodup ∧ ∀ nodeId, nodeId ∈ ids ↔ registry.contains nodeId = true := by
  refine ⟨_, _, rfl, rfl, ?_⟩
  obtain ⟨ids, nodes, answer, distinct, registered, _⟩ := queries_agree
    (exec_run (show exec NodeRegistry.registryStep .empty twoNodes = some _ from rfl))
    (List.reverse_perm _) 3 []
  exact ⟨ids, nodes, answer, distinct, registered⟩

end ExodusOps
