/-
**The server's answers against its own reader.**

`readFrame` refuses a frame whose payload is longer than 65536 bytes. The cap is meant for requests,
but `buildFrame` has none, and an answer can be longer than the request: it repeats the id of a node
and the request's message id, or lists the whole registry. In every run the messages of the server
are readable (`Readable`) exactly in the steps in which what is repeated leaves room for the rest
(`answers_readable_iff`); how much that is, is a sum over the request and the registry
(`answerSize`).

* `readFrame_oversized` — a longer frame is refused as an I/O error, whatever follows it.
* `step_readable_iff` — **one step**, by the kind of the request.
* `query_answer_unreadable` — the largest QUERY_NODE the server accepts, for a node that is not
  registered, is answered by such a frame.
-/

import ExodusOps.Lib.JsonText
import ExodusOps.Server.World

namespace ExodusOps

open MessageSerializer

/-! ### Readable messages -/

/-- **A message the server could read itself**: it is written and framed, and from any stream that
brings the frame, however cut, `readFrame` returns its payload. -/
def Readable (codec : JsonCodec) (reply : Reply) : Prop :=
  ∃ frame bytes, reply.frame codec = some frame ∧
    buildFrame frame.messageType frame.messageId frame.payload = some bytes ∧
    ∀ (socket : List (Chunk Errno)) (rest : Bytes), Quiet recvFailure socket →
      streamBytes socket = bytes ++ rest →
        ∃ read left, readFrame socket = (.ok read, left) ∧ read.payload = frame.payload

/-- **Readable are the messages of at most 65536 bytes.** -/
theorem readable_iff {codec : JsonCodec} {reply : Reply} {frame : Frame}
    (written : reply.frame codec = some frame) :
    Readable codec reply ↔ frame.payload.length ≤ 65536 := by
  constructor
  · rintro ⟨same, bytes, again, _, readable⟩
    cases written.symm.trans again
    -- a stream of nothing but this frame
    obtain ⟨read, left, accepted, payload⟩ := readable (putBack bytes []) []
      (Quiet.putBack (fun _ member => by cases member) _) (by simp [streamBytes])
    obtain ⟨_, ⟨_, _, _, _, _, small, _⟩, _⟩ := readFrame_ok accepted
    rwa [payload] at small
  · intro small
    refine ⟨frame, wireFrame frame, written, ?_, ?_⟩
    · exact buildFrame_eq frame.messageType frame.messageId frame.payload (by omega)
    · intro socket rest quiet starts
      obtain ⟨left, accepted, _⟩ := readFrame_wireFrame frame small quiet starts
      exact ⟨frame, left, accepted, rfl⟩

/-- **A longer frame is refused** after its length bytes. -/
theorem readFrame_oversized (frame : Frame) (large : 65536 < frame.payload.length)
    (short : frame.payload.length < 2 ^ 32 - 10) {socket : List (Chunk Errno)} {rest : Bytes}
    (quiet : Quiet recvFailure socket) (starts : streamBytes socket = wireFrame frame ++ rest) :
    ∃ left, readFrame socket = (.error .ioError, left) := by
  rw [wireFrame, List.append_assoc] at starts
  obtain ⟨left, first, _⟩ := readExact_quiet_append recvFailure .peerClosed quiet starts
  rw [be32_length, ← MessageSerializer.readExact] at first
  have frameLen : (wordAt (be32 (UInt32.ofNat (10 + frame.payload.length))) 0).toNat =
      10 + frame.payload.length := by
    rw [wordAt_be32_zero]
    exact UInt32.toNat_ofNat_of_lt' (by simp only [UInt32.size]; omega)
  exact ⟨left, readFrame_outside first (.inr (by omega))⟩

/-- The size of a string between quotes, as it is escaped. -/
def quoted (value : Bytes) : Nat := (Json.dumpString value).length

/-- The digits of a number. -/
def digits (value : UInt64) : Nat := (Json.decimal value).length

/-- The size of an entry in a listing. -/
def entrySize (entry : NodeEntry) : Nat :=
  quoted entry.nodeId + quoted entry.bunkerName + quoted entry.ipAddress +
    digits entry.capacity +
    match entry.status with
    | .online => 71
    | .offline => 88 + quoted (toIso8601 entry.lastSeenAt)

theorem quoted_append (before after : Bytes) :
    quoted (before ++ after) + 2 = quoted before + quoted after := by
  simp only [quoted, Json.dumpString, List.flatMap_append, List.length_cons, List.length_append,
    List.length_nil]
  omega

theorem digits_le (value : UInt64) : digits value ≤ 20 := by
  rw [digits, Json.decimal, List.length_map, Nat.length_toDigits_le_iff (by decide) (by decide)]
  exact value.toNat_lt.trans (by decide)

/-- The keys and the constants of the answers, as they are quoted. -/
theorem keySizes :
    (Json.dumpString (text "ref_message_id")).length = 16 ∧
    (Json.dumpString (text "error_code")).length = 12 ∧
    (Json.dumpString (text "description")).length = 13 ∧
    (Json.dumpString (text "node_id")).length = 9 ∧
    (Json.dumpString (text "server_version")).length = 16 ∧
    (Json.dumpString (text "timestamp")).length = 11 ∧
    (Json.dumpString (text "session_id")).length = 12 ∧
    (Json.dumpString (text "bunker_name")).length = 13 ∧
    (Json.dumpString (text "ip_address")).length = 12 ∧
    (Json.dumpString (text "capacity")).length = 10 ∧
    (Json.dumpString (text "status")).length = 8 ∧
    (Json.dumpString (text "last_seen_at")).length = 14 ∧
    (Json.dumpString (text "nodes")).length = 7 ∧
    (Json.dumpString (text "0.1.0")).length = 7 ∧
    (Json.dumpString (text "ONLINE")).length = 8 ∧
    (Json.dumpString (text "OFFLINE")).length = 9 :=
  ⟨rfl, rfl, rfl, rfl, rfl, rfl, rfl, rfl, rfl, rfl, rfl, rfl, rfl, rfl, rfl, rfl⟩

theorem error_size (messageId : UInt32) (errorCode : ProtocolErrorCode) (description : Bytes) :
    (buildErrorPayload messageId errorCode description).Plain ∧
      (buildErrorPayload messageId errorCode description).textSize =
        48 + quoted description + digits errorCode.code.toUInt64 +
          digits messageId.toUInt64 := by
  refine ⟨Json.plain_build (List.cons_ne_nil _ _) (by simp [Json.Plain]), ?_⟩
  rw [buildErrorPayload, Json.build_textSize (List.cons_ne_nil _ _)]
  · simp only [Json.textSize, Json.membersSize, quoted, digits, keySizes]
    omega
  · show [text "ref_message_id", text "error_code", text "description"].Nodup
    decide

/-- An error that names a node. -/
theorem namingError_size (messageId : UInt32) (errorCode : ProtocolErrorCode)
    (nodeId remark : Bytes) :
    (buildErrorPayload messageId errorCode (text "Node " ++ nodeId ++ remark)).textSize =
      51 + quoted nodeId + quoted remark + digits errorCode.code.toUInt64 +
        digits messageId.toUInt64 := by
  have front := quoted_append (text "Node " ++ nodeId) remark
  have back := quoted_append (text "Node ") nodeId
  rw [show quoted (text "Node ") = 7 from rfl] at back
  rw [(error_size _ _ _).2]
  omega

theorem ack_size (messageId : UInt32) (nodeId : Bytes) :
    (buildAckPayload messageId nodeId).Plain ∧
      (buildAckPayload messageId nodeId).textSize =
        30 + quoted nodeId + digits messageId.toUInt64 := by
  refine ⟨Json.plain_build (List.cons_ne_nil _ _) (by simp [Json.Plain]), ?_⟩
  rw [buildAckPayload, Json.build_textSize (List.cons_ne_nil _ _)]
  · simp only [Json.textSize, Json.membersSize, quoted, digits, keySizes]
    omega
  · show [text "ref_message_id", text "node_id"].Nodup
    decide

theorem welcome_size (timestamp sessionId : Bytes) :
    (buildWelcomePayload (text "0.1.0") timestamp sessionId).Plain ∧
      (buildWelcomePayload (text "0.1.0") timestamp sessionId).textSize =
        53 + quoted sessionId + quoted timestamp := by
  refine ⟨Json.plain_build (List.cons_ne_nil _ _) (by simp [Json.Plain]), ?_⟩
  rw [buildWelcomePayload, Json.build_textSize (List.cons_ne_nil _ _)]
  · simp only [Json.textSize, Json.membersSize, quoted, keySizes]
    omega
  · show [text "server_version", text "timestamp", text "session_id"].Nodup
    decide

/-- The members of an entry. -/
theorem entryMembers_size (entry : NodeEntry) :
    (∀ member ∈ QueryHandler.entryMembers entry, member.2.Plain) ∧
      1 + Json.membersSize (QueryHandler.entryMembers entry) = entrySize entry := by
  obtain ⟨nodeId, bunkerName, ipAddress, capacity, status, lastSeenAt⟩ := entry
  cases status with
  | online =>
      refine ⟨by simp [QueryHandler.entryMembers, Json.Plain], ?_⟩
      simp only [QueryHandler.entryMembers, QueryHandler.statusToString, reduceCtorEq, if_false,
        List.append_nil, Json.textSize, Json.membersSize, entrySize, quoted, digits, keySizes]
      omega
  | offline =>
      refine ⟨by simp [QueryHandler.entryMembers, Json.Plain], ?_⟩
      simp only [QueryHandler.entryMembers, QueryHandler.statusToString, if_true,
        List.cons_append, List.nil_append, Json.textSize, Json.membersSize, entrySize, quoted,
        digits, keySizes]
      omega

theorem entryToJson_size (entry : NodeEntry) :
    (QueryHandler.entryToJson entry).Plain ∧
      (QueryHandler.entryToJson entry).textSize = entrySize entry := by
  obtain ⟨plain, size⟩ := entryMembers_size entry
  have nonempty : QueryHandler.entryMembers entry ≠ [] := List.cons_ne_nil _ _
  refine ⟨Json.plain_build nonempty plain, ?_⟩
  rw [QueryHandler.entryToJson,
    Json.build_textSize nonempty
      (List.nodup_cons.mp (QueryHandler.entryMembers_distinct entry)).2, size]

theorem nodeBody_size (messageId : UInt32) (entry : NodeEntry) :
    (QueryHandler.nodeBody messageId entry).Plain ∧
      (QueryHandler.nodeBody messageId entry).textSize =
        18 + entrySize entry + digits messageId.toUInt64 := by
  obtain ⟨plain, size⟩ := entryMembers_size entry
  refine ⟨Json.plain_build (List.cons_ne_nil _ _) (List.forall_mem_cons.mpr ⟨trivial, plain⟩), ?_⟩
  have total : (QueryHandler.nodeBody messageId entry).textSize =
      1 + Json.membersSize ((text "ref_message_id", .unsigned messageId.toUInt64) ::
        QueryHandler.entryMembers entry) :=
    Json.build_textSize (List.cons_ne_nil _ _) (QueryHandler.entryMembers_distinct entry)
  rw [total, Json.membersSize, ← size, Json.textSize, ← digits, keySizes.1]
  omega

/-- A listing. -/
theorem listing_size (messageId : UInt32) (entries : List NodeEntry) :
    (QueryHandler.handleListNodes messageId entries).body.Plain ∧
      ((QueryHandler.handleListNodes messageId entries).body.textSize ≤ 65536 ↔
        29 + (entries.map fun entry => 1 + entrySize entry).sum + digits messageId.toUInt64 ≤
          65536) := by
  have plain : (Json.array (entries.map QueryHandler.entryToJson)).Plain := by
    rw [Json.Plain, Json.itemsPlain_iff]
    intro item inside
    obtain ⟨entry, _, rfl⟩ := List.mem_map.mp inside
    exact (entryToJson_size entry).1
  refine ⟨Json.plain_build (List.cons_ne_nil _ _)
    (List.forall_mem_cons.mpr ⟨trivial, List.forall_mem_singleton.mpr plain⟩), ?_⟩
  have short := digits_le messageId.toUInt64
  have total : (QueryHandler.handleListNodes messageId entries).body.textSize = 1 +
      Json.membersSize [(text "ref_message_id", .unsigned messageId.toUInt64),
        (text "nodes", .array (entries.map QueryHandler.entryToJson))] := by
    refine Json.build_textSize (List.cons_ne_nil _ _) ?_
    show [text "ref_message_id", text "nodes"].Nodup
    decide
  rw [total]
  simp only [Json.membersSize, Json.textSize, digits, keySizes] at short ⊢
  cases entries with
  | nil =>
      simp only [List.map_nil, Json.textSize, List.sum_nil]
      omega
  | cons first rest =>
      have sizes : (rest.map QueryHandler.entryToJson).map (fun item => 1 + item.textSize) =
          rest.map fun entry => 1 + entrySize entry := by
        rw [List.map_map]
        exact List.map_congr_left fun entry _ => congrArg (1 + ·) (entryToJson_size entry).2
      simp only [List.map_cons, Json.textSize, (entryToJson_size first).2, Json.itemsSize_eq_sum,
        sizes, List.sum_cons]
      omega

/-! ### Every run -/

section Runs

variable {codec : JsonCodec} {config : ServerConfig} {world next : World} {event : Event}
  {output : Option (Nat × Reply)}

/-- **The size of an answer by what it repeats**: of a valid REGISTER the id, of a QUERY_NODE the id
or the fields of the entry, of a LIST_NODES those of all entries. The other answers have a fixed
text and the message id of the request; they count as 0. -/
def answerSize (codec : JsonCodec) (world : World) (event : Event) : Nat :=
  match event.action with
  | .welcome conn true => (world.connections[conn]?).elim 0 fun connection =>
      53 + quoted connection.sessionId + quoted (toIso8601 event.now)
  | .frame _ frame listing =>
      let id := digits frame.messageId.toUInt64
      if frame.messageType = .register then
        (RegisterHandler.request codec frame.payload).elim 0 fun entry =>
          (if (world.registry.registerNode entry).1 = .ok then 30 else 73) +
            quoted entry.nodeId + id
      else if frame.messageType = .queryNode then
        (extractNodeId codec frame.payload).elim 0 fun nodeId =>
          (world.registry.queryNode nodeId).elim (64 + quoted nodeId) (18 + entrySize ·) + id
      else if frame.messageType = .listNodes then
        29 + (listing.map fun entry => 1 + entrySize entry).sum + id
      else 0
  | _ => 0

/-- A message that is written is readable when its text is small. -/
theorem readable_iff_textSize (compact : codec.Compact) {reply : Reply}
    (plain : reply.body.Plain) (written : (reply.frame codec).isSome = true) :
    Readable codec reply ↔ reply.body.textSize ≤ 65536 := by
  obtain ⟨frame, written⟩ := Option.isSome_iff_exists.mp written
  obtain ⟨source, dumped, rfl⟩ := Option.map_eq_some_iff.mp written
  rw [readable_iff written, ← compact _ _ plain dumped]

/-- An error with a text of the server's own. -/
theorem error_readable (compact : codec.Compact) {messageId : UInt32}
    {errorCode : ProtocolErrorCode} {description : Bytes} (short : quoted description ≤ 100)
    (written : ((errorReply messageId errorCode description).frame codec).isSome = true) :
    Readable codec (errorReply messageId errorCode description) := by
  have one := digits_le errorCode.code.toUInt64
  have other := digits_le messageId.toUInt64
  rw [readable_iff_textSize compact (error_size _ _ _).1 written, errorReply, (error_size _ _ _).2]
  omega

theorem register_readable_iff (compact : codec.Compact) {registry : NodeRegistry} {frame : Frame}
    (written : ((RegisterHandler.handle codec registry frame.messageId frame.payload).1.frame
      codec).isSome = true) :
    Readable codec (RegisterHandler.handle codec registry frame.messageId frame.payload).1 ↔
      ((RegisterHandler.request codec frame.payload).elim 0 fun entry =>
        (if (registry.registerNode entry).1 = .ok then 30 else 73) + quoted entry.nodeId +
          digits frame.messageId.toUInt64) ≤ 65536 := by
  unfold RegisterHandler.handle RegisterHandler.request at *
  cases parsed : codec.parse frame.payload with
  | none =>
      simp only [parsed] at written ⊢
      exact iff_of_true (error_readable compact (by decide) written) (Nat.zero_le _)
  | some json =>
      cases checked : RegisterHandler.validate json with
      | none =>
          simp only [parsed, checked, Option.bind_some] at written ⊢
          exact iff_of_true (error_readable compact (by decide) written) (Nat.zero_le _)
      | some entry =>
          simp only [parsed, checked, Option.bind_some, Option.elim_some] at written ⊢
          generalize registry.registerNode entry = outcome at written ⊢
          obtain ⟨result, after⟩ := outcome
          cases result with
          | ok =>
              simp only at written ⊢
              rw [readable_iff_textSize compact (ack_size _ _).1 written, ackReply,
                (ack_size _ _).2, if_pos trivial]
          | errDuplicate =>
              simp only at written ⊢
              rw [readable_iff_textSize compact (error_size _ _ _).1 written, errorReply,
                namingError_size, if_neg (by decide),
                show quoted (text " already registered") = 21 from rfl,
                show digits ProtocolErrorCode.errDuplicate.code.toUInt64 = 1 from rfl]
              omega

theorem query_readable_iff (compact : codec.Compact) {registry : NodeRegistry} {frame : Frame}
    (written : ((QueryHandler.handleQueryNode codec registry frame.messageId frame.payload).frame
      codec).isSome = true) :
    Readable codec (QueryHandler.handleQueryNode codec registry frame.messageId frame.payload) ↔
      ((extractNodeId codec frame.payload).elim 0 fun nodeId =>
        (registry.queryNode nodeId).elim (64 + quoted nodeId) (18 + entrySize ·) +
          digits frame.messageId.toUInt64) ≤ 65536 := by
  unfold QueryHandler.handleQueryNode extractNodeId at *
  cases parsed : codec.parse frame.payload with
  | none =>
      simp only [parsed] at written ⊢
      exact iff_of_true (error_readable compact (by decide) written) (Nat.zero_le _)
  | some json =>
      cases named : json.get? (text "node_id") with
      | none =>
          simp only [parsed, named] at written ⊢
          exact iff_of_true (error_readable compact (by decide) written) (Nat.zero_le _)
      | some value =>
          cases value with
          | string nodeId =>
              simp only [parsed, named, Option.elim_some] at written ⊢
              cases found : registry.queryNode nodeId with
              | none =>
                  simp only [found, Option.elim_none] at written ⊢
                  rw [readable_iff_textSize compact (error_size _ _ _).1 written, errorReply,
                    namingError_size, show quoted (text " not found") = 12 from rfl,
                    show digits ProtocolErrorCode.errNotFound.code.toUInt64 = 1 from rfl]
                  omega
              | some entry =>
                  simp only [found, Option.elim_some] at written ⊢
                  rw [readable_iff_textSize compact (nodeBody_size _ _).1 written, ackReply,
                    (nodeBody_size _ _).2]
          | _ =>
              simp only [parsed, named] at written ⊢
              exact iff_of_true (error_readable compact (by decide) written) (Nat.zero_le _)

/-- **An answer to a frame is readable when it fits.** -/
theorem dispatch_readable_iff (compact : codec.Compact) {conn : Nat} {activeNodeId : Bytes}
    {frame : Frame} {now : Time} {listing : List NodeEntry}
    (written : ∀ reply ∈
      (dispatch codec world.registry activeNodeId frame now listing).reply,
        (reply.frame codec).isSome = true) :
    (∀ reply ∈ (dispatch codec world.registry activeNodeId frame now listing).reply,
        Readable codec reply) ↔
      answerSize codec world ⟨now, .frame conn frame listing⟩ ≤ 65536 := by
  by_cases register : frame.messageType = .register
  · simp only [dispatch, answerSize, if_pos register, Option.mem_some_iff, forall_eq'] at written ⊢
    exact register_readable_iff compact written
  by_cases query : frame.messageType = .queryNode
  · have either : frame.messageType = .queryNode ∨ frame.messageType = .listNodes := .inl query
    simp only [dispatch, answerSize, if_neg register, if_pos either, if_pos query,
      QueryHandler.handle, Option.mem_some_iff, forall_eq'] at written ⊢
    exact query_readable_iff compact written
  by_cases list : frame.messageType = .listNodes
  · have either : frame.messageType = .queryNode ∨ frame.messageType = .listNodes := .inr list
    simp only [dispatch, answerSize, if_neg register, if_pos either, if_neg query, if_pos list,
      QueryHandler.handle, Option.mem_some_iff, forall_eq'] at written ⊢
    rw [readable_iff_textSize compact (listing_size _ _).1 written, (listing_size _ _).2]
  have neither : ¬ (frame.messageType = .queryNode ∨ frame.messageType = .listNodes) :=
    not_or.mpr ⟨query, list⟩
  simp only [dispatch, answerSize, if_neg register, if_neg neither, if_neg query,
    if_neg list] at written ⊢
  refine iff_of_true (fun reply sent => ?_) (Nat.zero_le _)
  split at sent
  · cases sent
  · cases sent
    rename_i silent
    exact error_readable compact (by decide) (written _ (by rw [if_neg silent]; rfl))

/-- **A step's message is readable when it fits.** -/
theorem step_readable_iff (compact : codec.Compact)
    (taken : step codec config world event = some (output, next)) :
    (∀ conn reply, output = some (conn, reply) → Readable codec reply) ↔
      answerSize codec world event ≤ 65536 := by
  obtain ⟨now, action⟩ := event
  cases action with
  | accept =>
      cases taken
      exact iff_of_true nofun (Nat.zero_le _)
  | welcome target sent =>
      obtain ⟨connection, found, _, written, rfl, _⟩ := step_welcome_iff.mp taken
      cases sent with
      | false => exact iff_of_true nofun (Nat.zero_le _)
      | true =>
          have size := readable_iff_textSize compact (welcome_size _ _).1 written
          rw [welcomeReply, ackReply, (welcome_size _ _).2] at size
          simp only [answerSize, found, Option.elim_some, ← size, if_true,
            Option.some.injEq, Prod.mk.injEq, and_imp]
          exact ⟨fun readable => readable target _ rfl rfl,
            fun readable _ _ _ same => same ▸ readable⟩
  | configure target applied =>
      obtain ⟨_, _, _, rfl, _⟩ := step_configure_iff.mp taken
      exact iff_of_true nofun (Nat.zero_le _)
  | frame target frame listing =>
      obtain ⟨connection, served, _, _, _, rfl, written, rfl, _⟩ := step_frame_iff.mp taken
      rw [← dispatch_readable_iff compact written]
      constructor
      · intro readable reply sent
        exact readable target reply (by rw [Option.mem_def.mp sent]; rfl)
      · intro readable conn reply sent
        obtain ⟨answered, replied, same⟩ := Option.map_eq_some_iff.mp sent
        cases same
        exact readable reply replied
  | teardown target status =>
      obtain ⟨_, _, _, rfl, _⟩ := step_teardown_iff.mp taken
      exact iff_of_true nofun (Nat.zero_le _)
  | tickStart snapshot =>
      obtain ⟨_, _, rfl, _⟩ := step_tickStart_iff.mp taken
      exact iff_of_true nofun (Nat.zero_le _)
  | tickOffline =>
      obtain ⟨_, _, _, rfl, _⟩ := step_tickOffline_iff.mp taken
      exact iff_of_true nofun (Nat.zero_le _)

/-- **Every message of the server can be read by its own reader**, in a run from an empty registry,
exactly where everything it repeats fits the cap. -/
theorem answers_readable_iff (compact : codec.Compact)
    {trace : List (Transition World Event (Option (Nat × Reply)))}
    (run : Run (step codec config) (.boot .empty) trace world) :
    (∀ turn ∈ trace, ∀ conn reply, turn.output = some (conn, reply) → Readable codec reply) ↔
      ∀ turn ∈ trace, answerSize codec turn.before turn.event ≤ 65536 :=
  forall₂_congr fun _ member => step_readable_iff compact (run.taken member)

end Runs

/-- A registration, its confirmation and the listing, all readable. -/
theorem answers_readable_iff_small :
    ∃ (trace : List (Transition World Event (Option (Nat × Reply)))) (world : World),
      Run (step Json.textCodec .default) (.boot .empty) trace world ∧
      (trace.filterMap fun turn => turn.output).length = 4 ∧
      ∀ turn ∈ trace, ∀ conn reply, turn.output = some (conn, reply) →
        Readable Json.textCodec reply := by
  let payload := registrationPayload Json.textCodec (text "n") (text "vault") (text "::1") 7
  let events : List Event := [⟨0, .accept⟩, ⟨1, .welcome 0 true⟩, ⟨1, .configure 0 true⟩,
    ⟨2, .frame 0 ⟨.register, 1, payload⟩ []⟩, ⟨3, .frame 0 ⟨.queryNode, 2, payload⟩ []⟩,
    ⟨4, .frame 0 ⟨.listNodes, 3, []⟩ [⟨text "n", text "vault", text "::1", 7, .online, epoch⟩]⟩]
  let machine := step Json.textCodec .default
  let trace := execTrace machine (.boot .empty) events
  have facts : (exec machine (.boot .empty) events).isSome = true ∧
      (trace.filterMap fun turn => turn.output).length = 4 ∧
      ∀ turn ∈ trace, answerSize Json.textCodec turn.before turn.event ≤ 65536 := by
    decide +kernel
  have run := run_of_possible facts.1
  exact ⟨trace, _, run, facts.2.1,
    (answers_readable_iff Json.textCodec_compact run).mpr facts.2.2⟩

/-! ### An answer longer than its request -/

/-- The request for one node. -/
def queryPayload (codec : JsonCodec) (nodeId : Bytes) : Bytes :=
  (codec.dump (.build [(text "node_id", .string nodeId)])).getD []

/-- A text of letters. -/
def letters (count : Nat) : Bytes := List.replicate count 65

theorem letters_utf8 (count : Nat) : Utf8 (letters count) := by
  induction count with
  | zero => exact utf8_text ""
  | succ count ih => exact (utf8_text "A").append ih

/-- Letters are written as they are. -/
theorem quoted_letters (count : Nat) : quoted (letters count) = count + 2 := by
  induction count with
  | zero => rfl
  | succ count ih =>
      have more := quoted_append [65] (letters count)
      rw [show quoted [65] = 3 from rfl, ih] at more
      rw [show letters (count + 1) = [65] ++ letters count from rfl]
      omega

theorem queryPayload_letters (count : Nat) :
    (queryPayload Json.textCodec (letters count)).length = count + 14 ∧
      ∃ json, Json.textCodec.parse (queryPayload Json.textCodec (letters count)) = some json ∧
        json.get? (text "node_id") = some (.string (letters count)) := by
  have flat : (Json.build [(text "node_id", .string (letters count))]).Flat :=
    Json.flat_build (List.cons_ne_nil _ _) (by
      rw [List.forall_mem_singleton]
      exact ⟨utf8_text _, letters_utf8 count⟩)
  have plain : (Json.build [(text "node_id", .string (letters count))]).Plain :=
    Json.plain_build (List.cons_ne_nil _ _) (List.forall_mem_singleton.mpr trivial)
  obtain ⟨source, dumped, parsed⟩ := Json.textCodec_lawful.parse_dump flat
  rw [queryPayload, dumped, Option.getD_some]
  refine ⟨?_, _, parsed, by rw [Json.get?_build]; rfl⟩
  rw [Json.textCodec_compact _ _ plain dumped, Json.build_textSize (List.cons_ne_nil _ _)]
  · have size := quoted_letters count
    simp only [Json.membersSize, Json.textSize, quoted, keySizes] at size ⊢
    omega
  · exact List.nodup_singleton _

/-- The answer for a node that is not registered. -/
theorem notFound_letters (messageId : UInt32) (count : Nat) :
    ∃ source, Json.textCodec.dump (buildErrorPayload messageId .errNotFound
        (text "Node " ++ letters count ++ text " not found")) = some source ∧
      count + 66 + digits messageId.toUInt64 = source.length := by
  have utf8 : Utf8 (text "Node " ++ letters count ++ text " not found") :=
    ((utf8_text _).append (letters_utf8 count)).append (utf8_text _)
  have formed : (buildErrorPayload messageId .errNotFound
      (text "Node " ++ letters count ++ text " not found")).WellFormed := by
    refine Json.wellFormed_build (List.forall_mem_cons.mpr ⟨⟨utf8_text _, trivial⟩, ?_⟩)
    refine List.forall_mem_cons.mpr ⟨⟨utf8_text _, trivial⟩, List.forall_mem_singleton.mpr ?_⟩
    exact ⟨utf8_text _, utf8⟩
  obtain ⟨source, dumped⟩ := Option.isSome_iff_exists.mp ((Json.textCodec_writesText _).mpr formed)
  refine ⟨source, dumped, ?_⟩
  rw [Json.textCodec_compact _ _ (error_size _ _ _).1 dumped, namingError_size, quoted_letters,
    show quoted (text " not found") = 12 from rfl,
    show digits ProtocolErrorCode.errNotFound.code.toUInt64 = 1 from rfl]
  omega

/-- **The largest QUERY_NODE there is**, 65536 bytes for a node that is not registered: the answer
quotes the id and is refused by the reader as an I/O error, whatever follows it on the stream. -/
theorem query_answer_unreadable :
    ∃ (trace : List (Transition World Event (Option (Nat × Reply)))) (world : World)
      (turn : Transition World Event (Option (Nat × Reply))) (request : Frame) (reply : Reply)
      (frame : Frame) (bytes : Bytes),
      Run (step Json.textCodec .default) (.boot .empty) trace world ∧ turn ∈ trace ∧
      turn.event.action = .frame 0 request [] ∧ request.payload.length = 65536 ∧
      turn.output = some (0, reply) ∧ reply.frame Json.textCodec = some frame ∧
      buildFrame frame.messageType frame.messageId frame.payload = some bytes ∧
      ∀ (socket : List (Chunk Errno)) (rest : Bytes), Quiet recvFailure socket →
        streamBytes socket = bytes ++ rest →
          ∃ left, readFrame socket = (.error .ioError, left) := by
  -- the size of the id is named, so that nobody computes with it
  obtain ⟨count, large⟩ : ∃ count, count = 65522 := ⟨_, rfl⟩
  let machine := step Json.textCodec .default
  let start : List Event := [⟨0, .accept⟩, ⟨1, .welcome 0 true⟩, ⟨1, .configure 0 true⟩]
  have served : (exec machine (.boot .empty) start).isSome = true := by decide +kernel
  have found : (execFinal machine (.boot .empty) start).connections[0]? =
      some ⟨sessionIdText 1, .serving, []⟩ := by decide +kernel
  have empty : (execFinal machine (.boot .empty) start).registry.entries.keys = [] := by
    decide +kernel
  obtain ⟨size, json, parsed, named⟩ := queryPayload_letters count
  obtain ⟨source, dumped, long⟩ := notFound_letters 7 count
  rw [show digits (7 : UInt32).toUInt64 = 1 from rfl] at long
  let request : Frame := ⟨.queryNode, 7, queryPayload Json.textCodec (letters count)⟩
  let reply := errorReply 7 .errNotFound (text "Node " ++ letters count ++ text " not found")
  have written : reply.frame Json.textCodec = some ⟨.errorMsg, 7, source⟩ := by
    simp only [reply, Reply.frame, errorReply, dumped, Option.map_some]
  have missing : (execFinal machine (.boot .empty) start).registry.queryNode (letters count) =
      none := by
    rw [NodeRegistry.queryNode, AList.lookup_eq_none, AList.mem_keys, empty]
    exact List.not_mem_nil
  have dispatched : dispatch Json.textCodec (execFinal machine (.boot .empty) start).registry []
      request 2 [] = ⟨some reply, [], (execFinal machine (.boot .empty) start).registry⟩ := by
    rw [dispatch, if_neg (fun register => by cases register), if_pos (.inl rfl),
      QueryHandler.handle, if_pos rfl, QueryHandler.handleQueryNode]
    simp only [request, parsed, named, missing, reply]
  have taken : machine (execFinal machine (.boot .empty) start) ⟨2, .frame 0 request []⟩ = _ :=
    step_frame_of found rfl (fun listing => by cases listing) dispatched (by simp [written])
  refine ⟨_, _, _, request, reply, _, _, (run_of_possible served).snoc taken,
    List.mem_append_right _ List.mem_cons_self, rfl, by rw [size, large], rfl, written,
    buildFrame_eq _ _ _ (by simp only [← long]; omega), ?_⟩
  intro socket rest quiet starts
  exact readFrame_oversized _ (by simp only [← long]; omega) (by simp only [← long]; omega) quiet
    starts

end ExodusOps
