/-
**The message handlers: `RegisterHandler`, `QueryHandler`, `HeartbeatHandler`.**

A handler takes the request's id and payload and the registry, and produces the answer and the
registry it leaves. The JSON library is a parameter. Answers are kept as JSON values (`Reply`);
`Reply.frame` is the message that goes to the wire, which does not exist when the library cannot
write the value.

* `Answers` — what every answer has: it is an ACK or an ERROR and names its request twice. Each
  handler gives such answers (`RegisterHandler.handle_answers`, `QueryHandler.handle_answers`).
* `RegisterHandler.handle_cases`, `RegisterHandler.handle_registry` — **registration.** The answer
  is an ACK exactly when the request is valid and the registry takes it, and the registry is touched
  by `registerNode` alone.
* `Reply.frame_of_flat` — answers made of well-formed strings are always written.
-/

import ExodusOps.Registry.NodeRegistry
import ExodusOps.Wire.MessageSerializer

namespace ExodusOps

/-! ### Time stamps -/

/-- Year, month and day of a day counted from 1970-01-01, as `gmtime_r` gives them. The year is
taken to start in March, so that the leap day is its last day. -/
def civilFromDays (days : Int) : Int × Int × Int :=
  let shifted := days + 719468
  let era := shifted / 146097
  let dayOfEra := shifted - era * 146097
  let yearOfEra := (dayOfEra - dayOfEra / 1460 + dayOfEra / 36524 - dayOfEra / 146096) / 365
  let dayOfYear := dayOfEra - (365 * yearOfEra + yearOfEra / 4 - yearOfEra / 100)
  let shiftedMonth := (5 * dayOfYear + 2) / 153
  let day := dayOfYear - (153 * shiftedMonth + 2) / 5 + 1
  let month := if shiftedMonth < 10 then shiftedMonth + 3 else shiftedMonth - 9
  (yearOfEra + era * 400 + (if month ≤ 2 then 1 else 0), month, day)

/-- Two decimal digits. -/
def twoDigits (number : Int) : String :=
  if number < 10 then "0" ++ toString number else toString number

/-- `toIso8601`, also `getIso8601Timestamp`: `%Y-%m-%dT%H:%M:%SZ` of the whole seconds. -/
def toIso8601 (moment : Time) : Bytes :=
  let seconds := moment.tdiv 1000000000
  let date := civilFromDays (seconds / 86400)
  let second := seconds % 86400
  text (toString date.1 ++ "-" ++ twoDigits date.2.1 ++ "-" ++ twoDigits date.2.2 ++ "T" ++
    twoDigits (second / 3600) ++ ":" ++ twoDigits (second / 60 % 60) ++ ":" ++
    twoDigits (second % 60) ++ "Z")

/-! ### Answers -/

/-- A message of the server, before its payload is written as text. -/
structure Reply where
  messageType : MessageType
  messageId : UInt32
  body : Json

/-- The message on the wire; `none` when `dump` throws. -/
def Reply.frame (codec : JsonCodec) (reply : Reply) : Option Frame :=
  (codec.dump reply.body).map fun payload => ⟨reply.messageType, reply.messageId, payload⟩

def ackReply (messageId : UInt32) (body : Json) : Reply := ⟨.ack, messageId, body⟩

def errorReply (messageId : UInt32) (errorCode : ProtocolErrorCode) (description : Bytes) : Reply :=
  ⟨.errorMsg, messageId, MessageSerializer.buildErrorPayload messageId errorCode description⟩

/-- **An answer to a request**: an ACK or an ERROR that carries the request's id in its envelope and
in its payload. -/
structure Answers (messageId : UInt32) (reply : Reply) : Prop where
  type : reply.messageType = .ack ∨ reply.messageType = .errorMsg
  envelope_id : reply.messageId = messageId
  ref_message_id :
    reply.body.get? (text "ref_message_id") = some (.unsigned messageId.toUInt64)

theorem errorReply_answers (messageId : UInt32) (errorCode : ProtocolErrorCode)
    (description : Bytes) : Answers messageId (errorReply messageId errorCode description) where
  type := .inr rfl
  envelope_id := rfl
  ref_message_id := by
    rw [errorReply, MessageSerializer.buildErrorPayload, Json.get?_build]
    rfl

/-! ### Registration -/

namespace RegisterHandler

/-- The checks of the required fields, and the entry filled from them. `status` and `last_seen_at`
keep their defaults. -/
def validate (json : Json) : Option NodeEntry :=
  match json.get? (text "node_id"), json.get? (text "bunker_name"), json.get? (text "ip_address"),
      json.get? (text "capacity") with
  | some (.string nodeId), some (.string bunkerName), some (.string ipAddress),
      some (.unsigned capacity) =>
      if nodeId = [] then none
      else some { nodeId := nodeId, bunkerName := bunkerName, ipAddress := ipAddress,
                  capacity := capacity }
  | _, _, _, _ => none

/-- `RegisterHandler::handle`. -/
def handle (codec : JsonCodec) (registry : NodeRegistry) (messageId : UInt32)
    (jsonPayload : Bytes) : Reply × NodeRegistry :=
  match codec.parse jsonPayload with
  | none => (errorReply messageId .errMalformed (text "Invalid JSON payload"), registry)
  | some json =>
      match validate json with
      | none =>
          (errorReply messageId .errMalformed (text
            "Missing or invalid required fields: node_id, bunker_name, ip_address, capacity"),
            registry)
      | some entry =>
          match registry.registerNode entry with
          | (.ok, registry) =>
              (ackReply messageId (MessageSerializer.buildAckPayload messageId entry.nodeId),
                registry)
          | (.errDuplicate, registry) =>
              (errorReply messageId .errDuplicate
                (text "Node " ++ entry.nodeId ++ text " already registered"), registry)

/-- The entry a valid payload asks to register. -/
def request (codec : JsonCodec) (jsonPayload : Bytes) : Option NodeEntry :=
  (codec.parse jsonPayload).bind validate

/-- **What a valid payload says**: every required field, and a time stamp of its own it has not. -/
theorem request_fields {codec : JsonCodec} {jsonPayload : Bytes} {entry : NodeEntry}
    (valid : request codec jsonPayload = some entry) :
    ∃ json, codec.parse jsonPayload = some json ∧
      json.get? (text "node_id") = some (.string entry.nodeId) ∧
      json.get? (text "bunker_name") = some (.string entry.bunkerName) ∧
      json.get? (text "ip_address") = some (.string entry.ipAddress) ∧
      json.get? (text "capacity") = some (.unsigned entry.capacity) ∧
      entry.nodeId ≠ [] ∧ entry.lastSeenAt = epoch := by
  obtain ⟨json, parsed, checked⟩ := Option.bind_eq_some_iff.mp valid
  unfold validate at checked
  split at checked
  · rename_i node bunker address size
    split at checked
    · cases checked
    · rename_i nonempty
      cases checked
      exact ⟨json, parsed, node, bunker, address, size, nonempty, rfl⟩
  · cases checked

variable (codec : JsonCodec)

/-- **The three ways a REGISTER ends.** -/
theorem handle_cases (registry : NodeRegistry) (messageId : UInt32) (jsonPayload : Bytes) :
    (∃ description, request codec jsonPayload = none ∧
      handle codec registry messageId jsonPayload =
        (errorReply messageId .errMalformed (text description), registry)) ∨
    (∃ entry, request codec jsonPayload = some entry ∧ (registry.registerNode entry).1 = .ok ∧
      handle codec registry messageId jsonPayload =
        (ackReply messageId (MessageSerializer.buildAckPayload messageId entry.nodeId),
          (registry.registerNode entry).2)) ∨
    (∃ entry, request codec jsonPayload = some entry ∧
      (registry.registerNode entry).1 = .errDuplicate ∧
      handle codec registry messageId jsonPayload =
        (errorReply messageId .errDuplicate
          (text "Node " ++ entry.nodeId ++ text " already registered"), registry)) := by
  unfold handle request
  cases codec.parse jsonPayload with
  | none => exact .inl ⟨"Invalid JSON payload", rfl, rfl⟩
  | some json =>
      simp only [Option.bind_some]
      cases validate json with
      | none =>
          exact .inl ⟨"Missing or invalid required fields: node_id, bunker_name, ip_address, capacity",
            rfl, rfl⟩
      | some entry =>
          rcases outcome : registry.registerNode entry with ⟨result, next⟩
          cases result with
          | ok => exact .inr (.inl ⟨entry, rfl, by rw [outcome], by simp only [outcome]⟩)
          | errDuplicate =>
              have unchanged := NodeRegistry.registerNode_errDuplicate (congrArg Prod.fst outcome)
              rw [outcome] at unchanged
              refine .inr (.inr ⟨entry, rfl, by rw [outcome], ?_⟩)
              simp only [outcome]
              exact congrArg (Prod.mk _) unchanged

/-- **The registry after a REGISTER**: only a valid request reaches it. -/
theorem handle_registry (registry : NodeRegistry) (messageId : UInt32) (jsonPayload : Bytes) :
    (handle codec registry messageId jsonPayload).2 =
      match request codec jsonPayload with
      | some entry => (registry.registerNode entry).2
      | none => registry := by
  rcases handle_cases codec registry messageId jsonPayload with
    ⟨_, invalid, result⟩ | ⟨entry, valid, _, result⟩ | ⟨entry, valid, refused, result⟩
  · rw [result, invalid]
  · rw [result, valid]
  · rw [result, valid]
    exact (NodeRegistry.registerNode_errDuplicate refused).symm

theorem handle_answers (registry : NodeRegistry) (messageId : UInt32) (jsonPayload : Bytes) :
    Answers messageId (handle codec registry messageId jsonPayload).1 := by
  rcases handle_cases codec registry messageId jsonPayload with
    ⟨_, _, result⟩ | ⟨entry, _, _, result⟩ | ⟨entry, _, _, result⟩
  · rw [result]
    exact errorReply_answers _ _ _
  · rw [result]
    refine ⟨.inl rfl, rfl, ?_⟩
    rw [ackReply, MessageSerializer.buildAckPayload, Json.get?_build]
    rfl
  · rw [result]
    exact errorReply_answers _ _ _

end RegisterHandler

/-! ### Queries -/

namespace QueryHandler

def statusToString : NodeStatus → Bytes
  | .online => text "ONLINE"
  | .offline => text "OFFLINE"

/-- The members both queries give for an entry; the time stamp only when it is OFFLINE. -/
def entryMembers (entry : NodeEntry) : List (Bytes × Json) :=
  [(text "node_id", .string entry.nodeId), (text "bunker_name", .string entry.bunkerName),
    (text "ip_address", .string entry.ipAddress), (text "capacity", .unsigned entry.capacity),
    (text "status", .string (statusToString entry.status))] ++
  if entry.status = .offline then [(text "last_seen_at", .string (toIso8601 entry.lastSeenAt))]
  else []

/-- No member is given twice, with the request's id or without it. -/
theorem entryMembers_distinct (entry : NodeEntry) :
    (text "ref_message_id" :: (entryMembers entry).map Prod.fst).Nodup := by
  have distinct : [text "ref_message_id", text "node_id", text "bunker_name", text "ip_address",
      text "capacity", text "status", text "last_seen_at"].Nodup := by decide
  obtain ⟨nodeId, bunkerName, ipAddress, capacity, status, lastSeenAt⟩ := entry
  cases status with
  | online => exact distinct.sublist (List.sublist_append_left _ [text "last_seen_at"])
  | offline => exact distinct

def entryToJson (entry : NodeEntry) : Json := .build (entryMembers entry)

/-- The object answered to a QUERY_NODE. -/
def nodeBody (messageId : UInt32) (entry : NodeEntry) : Json :=
  .build ((text "ref_message_id", .unsigned messageId.toUInt64) :: entryMembers entry)

def handleQueryNode (codec : JsonCodec) (registry : NodeRegistry) (messageId : UInt32)
    (jsonPayload : Bytes) : Reply :=
  match codec.parse jsonPayload with
  | none => errorReply messageId .errMalformed (text "Invalid JSON payload")
  | some json =>
      match json.get? (text "node_id") with
      | some (.string nodeId) =>
          match registry.queryNode nodeId with
          | none =>
              errorReply messageId .errNotFound (text "Node " ++ nodeId ++ text " not found")
          | some entry =>
              ackReply messageId (nodeBody messageId entry)
      | _ => errorReply messageId .errMalformed (text "Missing or invalid field: node_id")

/-- `handleListNodes`, on the entries `listNodes` returned. -/
def handleListNodes (messageId : UInt32) (entries : List NodeEntry) : Reply :=
  ackReply messageId (.build [(text "ref_message_id", .unsigned messageId.toUInt64),
    (text "nodes", .array (entries.map entryToJson))])

/-- `QueryHandler::handle`. -/
def handle (codec : JsonCodec) (registry : NodeRegistry) (messageType : MessageType)
    (messageId : UInt32) (jsonPayload : Bytes) (listing : List NodeEntry) : Reply :=
  if messageType = .queryNode then handleQueryNode codec registry messageId jsonPayload
  else handleListNodes messageId listing

theorem nodeBody_ref (messageId : UInt32) (entry : NodeEntry) :
    (nodeBody messageId entry).get? (text "ref_message_id") =
      some (.unsigned messageId.toUInt64) := by
  rw [nodeBody, Json.get?_build, entryMembers]
  cases entry.status <;> rfl

/-- **The two queries describe an entry alike**, but for the request's id. -/
theorem nodeBody_without_ref (messageId : UInt32) (entry : NodeEntry) :
    (nodeBody messageId entry).without (text "ref_message_id") = entryToJson entry := by
  have others : ((text "ref_message_id", Json.unsigned messageId.toUInt64) ::
      entryMembers entry).filter (fun member => member.1 ≠ text "ref_message_id") =
        entryMembers entry := by
    rw [List.filter_cons_of_neg (by simp), List.filter_eq_self]
    intro member inside
    have fresh := (List.nodup_cons.mp (entryMembers_distinct entry)).1
    exact decide_eq_true fun same => fresh (List.mem_map.mpr ⟨member, inside, same⟩)
  have kept : ((text "ref_message_id", Json.unsigned messageId.toUInt64) ::
      entryMembers entry).filter (fun member => member.1 ≠ text "ref_message_id") ≠ [] := by
    rw [others]
    exact List.cons_ne_nil _ _
  rw [nodeBody, Json.without_build _ kept, others, entryToJson]

theorem nodeBody_answers (messageId : UInt32) (entry : NodeEntry) :
    Answers messageId (ackReply messageId (nodeBody messageId entry)) := by
  refine ⟨.inl rfl, rfl, ?_⟩
  rw [ackReply, nodeBody_ref]

variable (codec : JsonCodec)

theorem handleQueryNode_answers (registry : NodeRegistry) (messageId : UInt32)
    (jsonPayload : Bytes) :
    Answers messageId (handleQueryNode codec registry messageId jsonPayload) := by
  unfold handleQueryNode
  split
  · exact errorReply_answers _ _ _
  · split
    · split
      · exact errorReply_answers _ _ _
      · exact nodeBody_answers _ _
    · exact errorReply_answers _ _ _

theorem handle_answers (registry : NodeRegistry) (messageType : MessageType) (messageId : UInt32)
    (jsonPayload : Bytes) (listing : List NodeEntry) :
    Answers messageId (handle codec registry messageType messageId jsonPayload listing) := by
  unfold handle
  split
  · exact handleQueryNode_answers codec registry messageId jsonPayload
  · refine ⟨.inl rfl, rfl, ?_⟩
    rw [handleListNodes, ackReply, Json.get?_build]
    rfl

end QueryHandler

/-! ### Heartbeats -/

namespace HeartbeatHandler

/-- `HeartbeatHandler::handle`: whether the node was known and ONLINE. There is no answer. -/
def handle (registry : NodeRegistry) (nodeId : Bytes) (now : Time) : Bool × NodeRegistry :=
  registry.updateLastSeen nodeId now

end HeartbeatHandler

/-! ### Answers that can be written -/

/-- An entry whose texts are well-formed. -/
structure NodeEntry.Utf8 (entry : NodeEntry) : Prop where
  node_id : ExodusOps.Utf8 entry.nodeId
  bunker_name : ExodusOps.Utf8 entry.bunkerName
  ip_address : ExodusOps.Utf8 entry.ipAddress

/-- What a library parses is well-formed, so what it asks to register is. -/
theorem RegisterHandler.request_utf8 {codec : JsonCodec} (lawful : codec.Lawful)
    {jsonPayload : Bytes} {entry : NodeEntry} (valid : request codec jsonPayload = some entry) :
    entry.Utf8 := by
  obtain ⟨json, parsed, node, bunker, address, _⟩ := request_fields valid
  exact ⟨lawful.parse_utf8 parsed node, lawful.parse_utf8 parsed bunker,
    lawful.parse_utf8 parsed address⟩

theorem buildAckPayload_flat (messageId : UInt32) {nodeId : Bytes} (named : Utf8 nodeId) :
    (MessageSerializer.buildAckPayload messageId nodeId).Flat := by
  refine Json.flat_build (List.cons_ne_nil _ _) ?_
  simp only [List.forall_mem_cons, List.not_mem_nil, false_implies, implies_true, and_true]
  exact ⟨⟨utf8_text _, trivial⟩, utf8_text _, named⟩

theorem buildWelcomePayload_flat {serverVersion timestamp sessionId : Bytes}
    (version : Utf8 serverVersion) (stamp : Utf8 timestamp) (session : Utf8 sessionId) :
    (MessageSerializer.buildWelcomePayload serverVersion timestamp sessionId).Flat := by
  refine Json.flat_build (List.cons_ne_nil _ _) ?_
  simp only [List.forall_mem_cons, List.not_mem_nil, false_implies, implies_true, and_true]
  exact ⟨⟨utf8_text _, version⟩, ⟨utf8_text _, stamp⟩, utf8_text _, session⟩

/-- **Flat answers are written**, and read back as they were. -/
theorem Reply.frame_of_flat {codec : JsonCodec} (lawful : codec.Lawful) (reply : Reply)
    (flat : reply.body.Flat) :
    ∃ frame, reply.frame codec = some frame ∧ codec.parse frame.payload = some reply.body := by
  obtain ⟨source, dumped, parsed⟩ := lawful.parse_dump flat
  exact ⟨⟨reply.messageType, reply.messageId, source⟩, by rw [Reply.frame, dumped]; rfl, parsed⟩

/-! ### Requests a client can write -/

/-- The object a client sends to register a node. -/
def registrationBody (nodeId bunkerName ipAddress : Bytes) (capacity : UInt64) : Json :=
  .build [(text "node_id", .string nodeId), (text "bunker_name", .string bunkerName),
    (text "ip_address", .string ipAddress), (text "capacity", .unsigned capacity)]

/-- Its text. -/
def registrationPayload (codec : JsonCodec) (nodeId bunkerName ipAddress : Bytes)
    (capacity : UInt64) : Bytes :=
  (codec.dump (registrationBody nodeId bunkerName ipAddress capacity)).getD []

theorem validate_registrationBody {nodeId : Bytes} (named : nodeId ≠ [])
    (bunkerName ipAddress : Bytes) (capacity : UInt64) :
    RegisterHandler.validate (registrationBody nodeId bunkerName ipAddress capacity) =
      some ⟨nodeId, bunkerName, ipAddress, capacity, .online, epoch⟩ := by
  have node : (registrationBody nodeId bunkerName ipAddress capacity).get? (text "node_id") =
      some (.string nodeId) := by rw [registrationBody, Json.get?_build]; rfl
  have bunker : (registrationBody nodeId bunkerName ipAddress capacity).get?
      (text "bunker_name") = some (.string bunkerName) := by
    rw [registrationBody, Json.get?_build]; rfl
  have address : (registrationBody nodeId bunkerName ipAddress capacity).get?
      (text "ip_address") = some (.string ipAddress) := by
    rw [registrationBody, Json.get?_build]; rfl
  have size : (registrationBody nodeId bunkerName ipAddress capacity).get? (text "capacity") =
      some (.unsigned capacity) := by rw [registrationBody, Json.get?_build]; rfl
  simp only [RegisterHandler.validate, node, bunker, address, size, if_neg named]

/-- **A client can ask for any well-formed entry.** -/
theorem request_registrationPayload {codec : JsonCodec} (lawful : codec.Lawful) {nodeId : Bytes}
    (named : nodeId ≠ []) (utf8 : Utf8 nodeId) {bunkerName ipAddress : Bytes}
    (bunker : Utf8 bunkerName) (address : Utf8 ipAddress) (capacity : UInt64) :
    RegisterHandler.request codec
        (registrationPayload codec nodeId bunkerName ipAddress capacity) =
      some ⟨nodeId, bunkerName, ipAddress, capacity, .online, epoch⟩ := by
  have flat : (registrationBody nodeId bunkerName ipAddress capacity).Flat := by
    refine Json.flat_build (List.cons_ne_nil _ _) ?_
    simp only [List.forall_mem_cons, List.not_mem_nil, false_implies, implies_true, and_true]
    exact ⟨⟨utf8_text _, utf8⟩, ⟨utf8_text _, bunker⟩, ⟨utf8_text _, address⟩, utf8_text _, trivial⟩
  obtain ⟨source, dumped, parsed⟩ := lawful.parse_dump flat
  rw [registrationPayload, dumped, Option.getD_some, RegisterHandler.request, parsed,
    Option.bind_some, validate_registrationBody named]

end ExodusOps
