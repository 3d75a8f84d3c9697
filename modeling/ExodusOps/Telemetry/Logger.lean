/-
**The log lines: `Logger`.**

Every line is a JSON object with the fields of ADR-005 and those of its event. Texts that come from
outside go through `sanitizeText`: a text with a sensitive word in it is blanked out, a long one is
cut after 512 bytes. The JSON library then writes the line, and throws on ill-formed text.

* `sanitizeText_removes` — **no marker is left**, in whatever letters and wherever it stood, and
  nothing else of a text that had one.
* `sanitizeText_utf8_iff` — the cut is on bytes, so a well-formed text stays well-formed exactly
  when it does not fall into the middle of a character (`CutsWhole`).
* `sanitizeText_hex` — the ids the server makes, of hexadecimal digits, pass unchanged.
* `Entry.line_wellFormed_iff`, `Entry.line_trace_id`, `Entry.line_event` — **a line** can be written
  when its texts are well-formed, and carries the ids it was given.
-/

import ExodusOps.Lib.JsonText
import ExodusOps.Lib.Radix
import ExodusOps.Server.Handlers
import ExodusOps.Telemetry.OtelScope
import Mathlib.Data.List.Forall2
import Mathlib.Data.List.Infix

namespace ExodusOps

/-! ### Sanitising -/

def maxLogFieldLength : Nat := 512

/-- `std::tolower` on each byte, in the C locale. -/
def toLowerCopy (value : Bytes) : Bytes :=
  value.map fun byte => if 65 ≤ byte ∧ byte ≤ 90 then byte + 32 else byte

/-- The words `containsSensitiveMarker` looks for. -/
def blockedMarkers : List Bytes :=
  [text "password", text "passwd", text "token", text "secret", text "authorization",
    text "bearer", text "payload"]

def containsSensitiveMarker (value : Bytes) : Bool :=
  blockedMarkers.any fun marker => decide (marker <:+: toLowerCopy value)

def sanitizeText (value : Bytes) : Bytes :=
  if value = [] then value
  else if containsSensitiveMarker value then text "[REDACTED]"
  else if value.length > maxLogFieldLength then value.take maxLogFieldLength
  else value

/-! ### What is removed -/

/-- The byte is the letter, or its capital. -/
def IsLetter (letter byte : UInt8) : Prop :=
  byte = letter ∨ ((65 ≤ byte ∧ byte ≤ 90) ∧ byte + 32 = letter)

/-- **A word occurs in a text**, in any mixture of capitals and small letters. -/
def Occurs (word value : Bytes) : Prop :=
  ∃ piece, piece <:+: value ∧ List.Forall₂ IsLetter word piece

/-- One of the words occurs in it. -/
def Mentions (value : Bytes) : Prop := ∃ marker ∈ blockedMarkers, Occurs marker value

theorem isLetter_iff {letter byte : UInt8} (small : ¬ (65 ≤ letter ∧ letter ≤ 90)) :
    IsLetter letter byte ↔ letter = if 65 ≤ byte ∧ byte ≤ 90 then byte + 32 else byte := by
  unfold IsLetter
  by_cases capital : 65 ≤ byte ∧ byte ≤ 90
  · rw [if_pos capital, and_iff_right capital, eq_comm (a := letter)]
    constructor
    · rintro (rfl | same)
      · exact absurd capital small
      · exact same
    · exact .inr
  · rw [if_neg capital, eq_comm (a := letter)]
    constructor
    · rintro (same | ⟨upper, _⟩)
      · exact same
      · exact absurd upper capital
    · exact .inl

/-- A word of small letters is spelt by what becomes the word in small letters. -/
theorem forall₂_isLetter_iff {word piece : Bytes}
    (small : ∀ letter ∈ word, ¬ (65 ≤ letter ∧ letter ≤ 90)) :
    List.Forall₂ IsLetter word piece ↔ word = toLowerCopy piece := by
  induction word generalizing piece with
  | nil =>
      rw [List.forall₂_nil_left_iff, toLowerCopy, @eq_comm _ [], List.map_eq_nil_iff]
  | cons letter word ih =>
      obtain ⟨first, others⟩ := List.forall_mem_cons.mp small
      cases piece with
      | nil => exact iff_of_false nofun nofun
      | cons byte piece =>
          rw [List.forall₂_cons, isLetter_iff first, ih others]
          exact List.cons.injEq .. ▸ Iff.rfl

theorem occurs_iff {word value : Bytes} (small : ∀ letter ∈ word, ¬ (65 ≤ letter ∧ letter ≤ 90)) :
    Occurs word value ↔ word <:+: toLowerCopy value := by
  rw [toLowerCopy, List.infix_map_iff]
  refine exists_congr fun piece => and_congr_right fun _ => ?_
  exact forall₂_isLetter_iff small

/-- **What `containsSensitiveMarker` looks for.** -/
theorem containsSensitiveMarker_iff (value : Bytes) :
    containsSensitiveMarker value = true ↔ Mentions value := by
  have small : ∀ marker ∈ blockedMarkers, ∀ letter ∈ marker, ¬ (65 ≤ letter ∧ letter ≤ 90) := by
    decide +kernel
  simp only [containsSensitiveMarker, List.any_eq_true, decide_eq_true_eq]
  refine exists_congr fun marker => and_congr_right fun listed => ?_
  exact (occurs_iff (small marker listed)).symm

/-- A part of a text mentions no more than the text. -/
theorem Mentions.of_infix {part value : Bytes} (inside : part <:+: value)
    (mentions : Mentions part) : Mentions value := by
  obtain ⟨marker, listed, piece, within, spelt⟩ := mentions
  exact ⟨marker, listed, piece, within.trans inside, spelt⟩

/-- **The three ways a text is sanitised.** -/
theorem sanitizeText_cases (value : Bytes) :
    (Mentions value ∧ sanitizeText value = text "[REDACTED]") ∨
      (¬ Mentions value ∧ sanitizeText value = value.take maxLogFieldLength) := by
  rw [← containsSensitiveMarker_iff]
  unfold sanitizeText
  split_ifs with empty marked long
  · subst empty
    exact .inr ⟨by decide +kernel, rfl⟩
  · exact .inl ⟨marked, rfl⟩
  · exact .inr ⟨marked, rfl⟩
  · exact .inr ⟨marked, (List.take_of_length_le (Nat.not_lt.mp long)).symm⟩

theorem sanitizeText_of_mentions {value : Bytes} (mentions : Mentions value) :
    sanitizeText value = text "[REDACTED]" := by
  rcases sanitizeText_cases value with ⟨_, blanked⟩ | ⟨clean, _⟩
  · exact blanked
  · exact absurd mentions clean

example : sanitizeText (text "Bearer 1234") = text "[REDACTED]" := by decide +kernel

/-- A short text that mentions nothing is left as it is. -/
theorem sanitizeText_of_clean {value : Bytes} (clean : ¬ Mentions value)
    (short : value.length ≤ maxLogFieldLength) : sanitizeText value = value := by
  rcases sanitizeText_cases value with ⟨mentions, _⟩ | ⟨_, cut⟩
  · exact absurd mentions clean
  · rw [cut, List.take_of_length_le short]

theorem sanitizeText_clean (value : Bytes) : ¬ Mentions (sanitizeText value) := by
  rcases sanitizeText_cases value with ⟨_, blanked⟩ | ⟨clean, cut⟩
  · rw [blanked, ← containsSensitiveMarker_iff]
    decide +kernel
  · rw [cut]
    exact fun mentions => clean (mentions.of_infix (List.take_prefix _ _).isInfix)

theorem sanitizeText_length (value : Bytes) : (sanitizeText value).length ≤ maxLogFieldLength := by
  rcases sanitizeText_cases value with ⟨_, blanked⟩ | ⟨_, cut⟩
  · rw [blanked]
    decide +kernel
  · rw [cut]
    exact List.length_take_le _ _

/-- **Sanitising removes every marker.** What comes out mentions none of the words, in whatever
letters, has at most 512 bytes and is left alone by a second round; and nothing of a text that
mentions one shows, wherever the word stands in it. -/
theorem sanitizeText_removes (value other : Bytes) :
    ¬ Mentions (sanitizeText value) ∧ (sanitizeText value).length ≤ 512 ∧
      sanitizeText (sanitizeText value) = sanitizeText value ∧
      (Mentions value → Mentions other → sanitizeText value = sanitizeText other) := by
  refine ⟨sanitizeText_clean value, sanitizeText_length value, ?_, ?_⟩
  · exact sanitizeText_of_clean (sanitizeText_clean value) (sanitizeText_length value)
  · intro one two
    rw [sanitizeText_of_mentions one, sanitizeText_of_mentions two]

/-- A word at the cut, and one at the beginning. -/
theorem sanitizeText_removes_straddling :
    sanitizeText (List.replicate 510 97 ++ text "ToKEN") = sanitizeText (text "PASSWORD=1") := by
  have straddles : Mentions (List.replicate 510 97 ++ text "ToKEN") :=
    (containsSensitiveMarker_iff _).mp (by decide +kernel)
  have begins : Mentions (text "PASSWORD=1") :=
    (containsSensitiveMarker_iff _).mp (by decide +kernel)
  exact (sanitizeText_removes _ _).2.2.2 straddles begins

/-! ### What is kept -/

/-- **Nothing is cut in two**: the text is not cut at all, or between two characters. -/
def CutsWhole (value : Bytes) : Prop :=
  value.length ≤ maxLogFieldLength ∨ containsSensitiveMarker value = true ∨
    ∃ front back : List Char, value = (front ++ back).flatMap String.utf8EncodeChar ∧
      (front.flatMap String.utf8EncodeChar).length = maxLogFieldLength

/-- A well-formed text can be cut where one of its characters begins. -/
theorem Utf8.take_iff {value : Bytes} (utf8 : Utf8 value) {count : Nat}
    (inside : count ≤ value.length) :
    Utf8 (value.take count) ↔
      ∃ front back : List Char, value = (front ++ back).flatMap String.utf8EncodeChar ∧
        (front.flatMap String.utf8EncodeChar).length = count := by
  constructor
  · rintro ⟨front, early⟩
    have whole : Utf8 (value.take count ++ value.drop count) := by
      rwa [List.take_append_drop]
    obtain ⟨back, late⟩ := Utf8.of_append ⟨front, early⟩ whole
    refine ⟨front, back, ?_, ?_⟩
    · rw [List.flatMap_append, ← early, ← late, List.take_append_drop]
    · rw [← early, List.length_take, Nat.min_eq_left inside]
  · rintro ⟨front, back, rfl, rfl⟩
    rw [List.flatMap_append, List.take_left]
    exact ⟨front, rfl⟩

/-- **Sanitising keeps a text well-formed** exactly when it cuts no character in two. -/
theorem sanitizeText_utf8_iff {value : Bytes} (utf8 : Utf8 value) :
    Utf8 (sanitizeText value) ↔ CutsWhole value := by
  unfold sanitizeText CutsWhole
  split_ifs with empty marked long
  · rw [empty]
    exact ⟨fun _ => .inl (Nat.zero_le _), fun _ => utf8_text ""⟩
  · exact ⟨fun _ => .inr (.inl marked), fun _ => utf8_text _⟩
  · rw [utf8.take_iff long.le]
    constructor
    · exact fun cut => .inr (.inr cut)
    · rintro (short | listed | cut)
      · exact absurd long (Nat.not_lt.mpr short)
      · exact absurd listed marked
      · exact cut
  · exact ⟨fun _ => .inl (Nat.not_lt.mp long), fun _ => utf8⟩

/-- A short text. -/
structure Plain (value : Bytes) : Prop where
  utf8 : Utf8 value
  short : value.length ≤ maxLogFieldLength

theorem Plain.sanitized {value : Bytes} (plain : Plain value) : Utf8 (sanitizeText value) :=
  (sanitizeText_utf8_iff plain.utf8).mpr (.inl plain.short)

/-- **An id of the server**: hexadecimal digits, and not too many. -/
structure HexId (value : Bytes) : Prop where
  digits : ∀ byte ∈ value, isHexDigit byte = true
  short : value.length ≤ maxLogFieldLength

/-- No word on the list can be spelt with hexadecimal digits. -/
theorem HexId.not_sensitive {value : Bytes} (hex : HexId value) :
    containsSensitiveMarker value = false := by
  have lower : toLowerCopy value = value := by
    refine (List.map_congr_left fun byte member => ?_).trans (List.map_id value)
    have digit := hex.digits byte member
    simp only [isHexDigit, Bool.decide_or, Bool.decide_and, Bool.or_eq_true, Bool.and_eq_true,
      decide_eq_true_eq, UInt8.le_iff_toNat_le] at digit
    refine if_neg fun upper => ?_
    simp only [UInt8.le_iff_toNat_le] at upper
    have digits := (show (57 : UInt8).toNat = 57 from rfl)
    have letters := (show (97 : UInt8).toNat = 97 from rfl)
    have first := (show (65 : UInt8).toNat = 65 from rfl)
    have last := (show (90 : UInt8).toNat = 90 from rfl)
    omega
  have foreign : ∀ marker ∈ blockedMarkers, ∃ byte ∈ marker, isHexDigit byte = false := by
    decide +kernel
  rw [containsSensitiveMarker, lower, List.any_eq_false]
  intro marker member inside
  obtain ⟨byte, written, other⟩ := foreign marker member
  have digit := hex.digits byte ((of_decide_eq_true inside).subset written)
  rw [other] at digit
  cases digit

/-- **The server's ids pass unchanged.** -/
theorem sanitizeText_hex {value : Bytes} (hex : HexId value) : sanitizeText value = value := by
  unfold sanitizeText
  rw [hex.not_sensitive]
  split_ifs with empty sensitive long
  · rfl
  · cases sensitive
  · exact absurd long (Nat.not_lt.mpr hex.short)
  · rfl

theorem HexId.plain {value : Bytes} (hex : HexId value) : Plain value := by
  refine ⟨⟨value.map fun byte => Char.ofNat byte.toNat, ?_⟩, hex.short⟩
  rw [List.flatMap_map]
  refine (List.flatMap_singleton' value).symm.trans (List.flatMap_congr fun byte member => ?_)
  -- a digit is a character of one byte
  have one : ∀ code < 256, isHexDigit (UInt8.ofNat code) = true →
      [UInt8.ofNat code] = String.utf8EncodeChar (Char.ofNat code) := by decide +kernel
  have digit := one byte.toNat byte.toNat_lt
  rw [UInt8.ofNat_toNat] at digit
  exact digit (hex.digits byte member)

/-- Digits in hexadecimal are an id. -/
theorem hexId_of_digits {digits : List Nat} (small : ∀ digit ∈ digits, digit < 16)
    (few : digits.length ≤ maxLogFieldLength) :
    HexId ((digits.map Nat.digitChar).flatMap String.utf8EncodeChar) := by
  rw [encode_digits small]
  exact ⟨isHexDigit_of_mem_map small, by rwa [List.length_map]⟩

/-- **The ids of spans and traces.** -/
theorem generateHexId_hex {draws : List UInt64} (few : draws.length ≤ 2) :
    HexId (generateHexId draws) := by
  let digits := draws.flatMap fun value => (List.range 8).flatMap fun index =>
    [value.toNat / 256 ^ index % 256 / 16, value.toNat / 256 ^ index % 256 % 16]
  have same : generateHexId draws = (digits.map Nat.digitChar).flatMap String.utf8EncodeChar := by
    simp only [generateHexId, digits, List.map_flatMap, List.map_cons, List.map_nil]
  rw [same]
  apply hexId_of_digits
  · intro digit member
    simp only [digits, List.mem_flatMap, List.mem_cons, List.not_mem_nil, or_false] at member
    obtain ⟨value, _, index, _, rfl | rfl⟩ := member <;> omega
  · simp only [digits, List.length_flatMap, List.length_cons, List.length_nil, maxLogFieldLength]
    simp
    omega

/-! ### Lines -/

namespace Logger

inductive Level where
  | info | warn | error | none
  deriving DecidableEq, Repr

/-- The order of the enumeration. -/
def Level.rank : Level → Nat
  | .info => 0
  | .warn => 1
  | .error => 2
  | .none => 3

def levelToString : Level → Bytes
  | .info => text "INFO"
  | .warn => text "WARN"
  | .error => text "ERROR"
  | .none => text "NONE"

/-- The ids of the span a line belongs to. -/
abbrev BaseFields := SpanContext

/-- What a call of the logger puts on its line besides what every line has. -/
structure Entry where
  level : Level
  event : String
  fields : List (Bytes × Json)
  message : String

/-- The names every line begins with. -/
def lineKeys : List String := ["timestamp", "level", "service", "trace_id", "span_id", "event"]

def serviceName : Bytes := text "eop-server"

namespace Entry

/-- The assignments a line is built by. -/
def members (entry : Entry) (now : Time) (base : BaseFields) : List (Bytes × Json) :=
  [(text "timestamp", .string (toIso8601 now)),
    (text "level", .string (levelToString entry.level)),
    (text "service", .string serviceName),
    (text "trace_id", .string (sanitizeText base.traceId)),
    (text "span_id", .string (sanitizeText base.spanId)),
    (text "event", .string (text entry.event))] ++ entry.fields ++
  [(text "message", .string (text entry.message))]

def line (entry : Entry) (now : Time) (base : BaseFields) : Json := .build (entry.members now base)

/-- No field is assigned twice. -/
def Distinct (entry : Entry) : Prop :=
  (lineKeys.map text ++ entry.fields.map Prod.fst ++ [text "message"]).Nodup

/-- Every field of the event can be written. -/
def Writable (entry : Entry) : Prop := ∀ field ∈ entry.fields, Utf8 field.1 ∧ field.2.WellFormed

variable {entry : Entry}

theorem distinct_of_keys (keys : List String) (named : entry.fields.map Prod.fst = keys.map text)
    (apart : ((lineKeys ++ keys ++ ["message"]).map text).Nodup) : entry.Distinct := by
  rw [Distinct, named, ← List.map_append]
  rw [List.map_append] at apart
  exact apart

theorem Distinct.members (distinct : entry.Distinct) (now : Time) (base : BaseFields) :
    ((entry.members now base).map Prod.fst).Nodup := by
  rw [Entry.members, List.map_append, List.map_append]
  exact distinct

/-- **When a line can be written.** -/
theorem line_wellFormed_iff (distinct : entry.Distinct) (now : Time) {base : BaseFields}
    (trace : Plain base.traceId) (span : Plain base.spanId) :
    (entry.line now base).WellFormed ↔ entry.Writable := by
  have level : Utf8 (levelToString entry.level) := by cases entry.level <;> exact utf8_text _
  rw [line, Json.wellFormed_build_iff (distinct.members now base), members,
    List.forall_mem_append, List.forall_mem_append, List.forall_mem_singleton]
  simp only [List.forall_mem_cons, List.not_mem_nil, false_implies, implies_true, and_true]
  refine ⟨fun every => every.1.2, fun writable => ⟨⟨?_, writable⟩, utf8_text _, utf8_text _⟩⟩
  exact ⟨⟨utf8_text _, utf8_text _⟩, ⟨utf8_text _, level⟩, ⟨utf8_text _, utf8_text _⟩,
    ⟨utf8_text _, trace.sanitized⟩, ⟨utf8_text _, span.sanitized⟩, utf8_text _, utf8_text _⟩

/-- **The trace a line belongs to.** -/
theorem line_trace_id (distinct : entry.Distinct) (now : Time) {base : BaseFields}
    (trace : HexId base.traceId) :
    (entry.line now base).get? (text "trace_id") = some (.string base.traceId) := by
  have member : (text "trace_id", .string (sanitizeText base.traceId)) ∈
      entry.members now base := by
    simp [members]
  rw [line, Json.get?_build_of_mem (distinct.members now base) member, sanitizeText_hex trace]

theorem line_event (distinct : entry.Distinct) (now : Time) (base : BaseFields) :
    (entry.line now base).get? (text "event") = some (.string (text entry.event)) := by
  have member : (text "event", .string (text entry.event)) ∈ entry.members now base := by
    simp [members]
  rw [line, Json.get?_build_of_mem (distinct.members now base) member]

end Entry

/-! ### Calls -/

/-- A text from outside. -/
def field (key : String) (value : Bytes) : Bytes × Json := (text key, .string (sanitizeText value))

/-- Nothing is written below the logger's own level. -/
def Level.admits (minLevel level : Level) (entry : Entry) : Option Entry :=
  if minLevel.rank > level.rank then .none else some entry

def logConnected (minLevel : Level) (clientIp sessionId : Bytes) (activeConnections : UInt32) :
    Option Entry :=
  minLevel.admits .info ⟨.info, "clientConnected",
    [field "client_ip" clientIp, field "session_id" sessionId,
      (text "active_connections", .unsigned activeConnections.toUInt64)],
    "New client connection established"⟩

/-- The lines about a node in a session. -/
def nodeEntry (level : Level) (event : String) (nodeId sessionId : Bytes)
    (more : List (Bytes × Json)) (message : String) : Entry :=
  ⟨level, event, field "node_id" nodeId :: field "session_id" sessionId :: more, message⟩

def logDisconnected (minLevel : Level) (nodeId sessionId : Bytes) (connectionDurationMs : Int64)
    (reason : Bytes) : Option Entry :=
  minLevel.admits .info (nodeEntry .info "clientDisconnected" nodeId sessionId
    [(text "connection_duration_ms", .integer connectionDurationMs.toInt), field "reason" reason]
    "Client connection closed")

def logNodeRegistered (minLevel : Level) (nodeId sessionId : Bytes) : Option Entry :=
  minLevel.admits .info
    (nodeEntry .info "node_registered" nodeId sessionId [] "Node registered successfully")

def logHeartbeatReceived (minLevel : Level) (nodeId sessionId : Bytes) : Option Entry :=
  minLevel.admits .info
    (nodeEntry .info "heartbeat_received" nodeId sessionId [] "Heartbeat received")

def logHeartbeatUnknownNode (minLevel : Level) (nodeId sessionId : Bytes) : Option Entry :=
  minLevel.admits .warn (nodeEntry .warn "heartbeat_unknown_node" nodeId sessionId []
    "Heartbeat received for unknown node")

/-- The only line about a node that has no session. -/
def logNodeOffline (minLevel : Level) (nodeId : Bytes) : Option Entry :=
  minLevel.admits .warn ⟨.warn, "node_offline", [field "node_id" nodeId],
    "Node marked OFFLINE — heartbeat timeout"⟩

/-- The only call that does not look at the level. -/
def logNodeRegisterError (nodeId sessionId : Bytes) (reason : String) : Option Entry :=
  some (nodeEntry .warn "node_register_error" nodeId sessionId [field "reason" (text reason)]
    "Node registration failed")

def logNodeQueried (minLevel : Level) (nodeId sessionId : Bytes) (result : String) : Option Entry :=
  let eventLevel := if result = "OK" then Level.info else .warn
  minLevel.admits eventLevel (nodeEntry eventLevel "node_queried" nodeId sessionId
    [field "result" (text result)]
    (if result = "OK" then "Node query succeeded" else "Node not found"))

def logNodesListed (minLevel : Level) (sessionId : Bytes) (nodeCount : Nat) : Option Entry :=
  minLevel.admits .info ⟨.info, "nodes_listed",
    [field "session_id" sessionId, (text "node_count", .unsigned (.ofNat nodeCount))],
    "Node list returned"⟩

end Logger

end ExodusOps
