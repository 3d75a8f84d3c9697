/-
**What the peer of a connection gets to read.**

The runs of `transmit` are the runs of the server with what `send` does to each frame it writes.
Only `workerLoop` looks at what `sendAll` returns: if the welcome does not get out whole the
connection is closed. The handlers and `handleConnection` drop the result and go on, so an answer
that breaks off in the middle is followed by the next one as soon as `send` works again. As long as
it does not, the stream is well framed and nothing is written behind a fragment
(`output_wellFramed`); `answer_behind_fragment` is a connection on which it does.
-/

import ExodusOps.Lib.JsonFlat
import ExodusOps.Server.World
import ExodusOps.Wire.Grammar
import ExodusOps.Wire.SendAll

namespace ExodusOps

open MessageSerializer

variable {codec : JsonCodec} {config : ServerConfig}

/-! ### The server and its sockets -/

/-- The server, and the bytes its sockets have accepted so far. -/
structure Wires where
  world : World
  written : Nat → Bytes

def Wires.boot (registry : NodeRegistry) : Wires := ⟨.boot registry, fun _ => []⟩

/-- A step of the server, and what the calls of `send` in it return. -/
structure WireEvent where
  event : Event
  results : List SendResult

/-- A frame given to `sendAll`, and what of it was accepted. -/
structure Transmission where
  conn : Nat
  bytes : Bytes
  wrote : Bytes
  deriving DecidableEq

abbrev WireTurn := Transition Wires WireEvent (Option Transmission)

/-- The message a step tries to send: `workerLoop` tries to send the welcome whatever comes of
it. -/
def attempted (world : World) (event : Event) (output : Option (Nat × Reply)) :
    Option (Nat × Reply) :=
  match event.action with
  | .welcome conn _ => (world.connections[conn]?).map fun connection =>
      (conn, welcomeReply (world.messageCounter + 1) event.now connection.sessionId)
  | _ => output

/-- What `sendAll` returned is only looked at for the welcome. -/
def heeds (event : Event) (done : Bool) : Bool :=
  match event.action with
  | .welcome _ sent => sent == done
  | _ => true

/-- **One step of the server with its calls of `send`.** -/
def transmit (codec : JsonCodec) (config : ServerConfig) (state : Wires) (wire : WireEvent) :
    Option (Option Transmission × Wires) := do
  let (output, world) ← step codec config state.world wire.event
  match attempted state.world wire.event output with
  | none => some (none, { state with world := world })
  | some (conn, reply) => do
      let frame ← reply.frame codec
      let bytes ← buildFrame frame.messageType frame.messageId frame.payload
      let (done, wrote) ← sendAll bytes wire.results
      guard (heeds wire.event done)
      some (some ⟨conn, bytes, wrote⟩,
        ⟨world, Function.update state.written conn (state.written conn ++ wrote)⟩)

/-! ### Well-framed streams -/

/-- **Complete frames and at most one truncated frame at the end.** -/
def WellFramed (stream : Bytes) : Prop :=
  ∃ frames : List Frame, (∀ frame ∈ frames, frame.payload.length < 2 ^ 32 - 10) ∧
    stream <+: (frames.map wireFrame).flatten

/-- Complete frames only. -/
def WholeFrames (stream : Bytes) : Prop :=
  ∃ frames : List Frame, (∀ frame ∈ frames, frame.payload.length < 2 ^ 32 - 10) ∧
    stream = (frames.map wireFrame).flatten

theorem WellFramed.starts {stream received : Bytes} (framed : WellFramed stream)
    (starts : received <+: stream) : WellFramed received := by
  obtain ⟨frames, short, whole⟩ := framed
  exact ⟨frames, short, starts.trans whole⟩

theorem WholeFrames.wellFramed {stream : Bytes} (whole : WholeFrames stream) :
    WellFramed stream := by
  obtain ⟨frames, short, rfl⟩ := whole
  exact ⟨frames, short, List.prefix_rfl⟩

/-- One more frame behind complete ones, or the beginning of it. -/
theorem WholeFrames.append {stream : Bytes} (whole : WholeFrames stream) {frame : Frame}
    (short : frame.payload.length < 2 ^ 32 - 10) : WholeFrames (stream ++ wireFrame frame) := by
  obtain ⟨frames, all, rfl⟩ := whole
  refine ⟨frames ++ [frame], ?_, by simp⟩
  intro one member
  rcases List.mem_append.mp member with old | last
  · exact all one old
  · rw [List.mem_singleton.mp last]
    exact short

/-- What comes behind a complete frame is well framed too. -/
theorem WellFramed.behind {frame : Frame} (short : frame.payload.length < 2 ^ 32 - 10)
    {rest : Bytes} (framed : WellFramed (wireFrame frame ++ rest)) : WellFramed rest := by
  obtain ⟨frames, all, starts⟩ := framed
  have size := wireFrame_length frame
  cases frames with
  | nil =>
      have none := congrArg List.length (List.prefix_nil.mp starts)
      rw [List.length_append, size, List.length_nil] at none
      omega
  | cons first others =>
      rw [List.map_cons, List.flatten_cons] at starts
      have four : 4 ≤ (wireFrame frame ++ rest).length := by rw [List.length_append]; omega
      -- both frames have the length that the first word says
      have length : (wireFrame frame).length = (wireFrame first).length := by
        have mine := frameLength_of_starts short List.prefix_rfl four
        have other := frameLength_of_starts (all first List.mem_cons_self) starts four
        rw [size, wireFrame_length]
        omega
      obtain ⟨later, whole⟩ := starts
      rw [List.append_assoc] at whole
      refine ⟨others, fun one member => all one (List.mem_cons_of_mem _ member), later, ?_⟩
      exact (List.append_inj whole length).2

/-- A well-framed stream begins with a length of at least ten. -/
theorem WellFramed.frameLength {stream : Bytes} (framed : WellFramed stream)
    (four : 4 ≤ stream.length) : 10 ≤ (wordAt stream 0).toNat := by
  obtain ⟨frames, all, starts⟩ := framed
  cases frames with
  | nil =>
      have none := congrArg List.length (List.prefix_nil.mp starts)
      rw [List.length_nil] at none
      omega
  | cons first others =>
      rw [List.map_cons, List.flatten_cons] at starts
      rw [frameLength_of_starts (all first List.mem_cons_self) starts four]
      exact Nat.le_add_right _ _

/-! ### Sends that fail -/

/-- The step answers a frame. -/
def answers (turn : WireTurn) : Bool :=
  match turn.event.event.action with
  | .frame _ _ _ => true
  | _ => false

/-- The frame broke off in the middle. -/
def Transmission.Broken (sent : Transmission) : Prop := sent.wrote ≠ [] ∧ sent.wrote ≠ sent.bytes

instance (sent : Transmission) : Decidable sent.Broken :=
  inferInstanceAs (Decidable (_ ∧ _))

/-- **`send` does not recover**: where it has failed in the middle of an answer, it accepts nothing
on that connection later on. And the frame is not so long that its length word overflows. -/
def FailsForGood (earlier : List WireTurn) (turn : WireTurn) : Prop :=
  ∀ sent ∈ turn.output, sent.bytes.length < 2 ^ 32 + 4 ∧
    (accepts turn.event.results = true → ∀ before ∈ earlier, answers before = true →
      ∀ old ∈ before.output, old.conn = sent.conn → breaksOff before.event.results = false)

instance (earlier : List WireTurn) (turn : WireTurn) : Decidable (FailsForGood earlier turn) :=
  inferInstanceAs (Decidable (∀ sent ∈ turn.output, _))

/-! ### One step -/

section Step

variable {state next : Wires} {wire : WireEvent} {output : Option Transmission}

/-- **Inversion**: a step writes nothing, or part of one frame on one connection. -/
theorem transmit_cases (taken : transmit codec config state wire = some (output, next)) :
    ∃ sent world, step codec config state.world wire.event = some (sent, world) ∧
      next.world = world ∧
      ((output = none ∧ next.written = state.written) ∨
      ∃ conn reply frame done wrote, attempted state.world wire.event sent = some (conn, reply) ∧
        sendAll (wireFrame frame) wire.results = some (done, wrote) ∧
        heeds wire.event done = true ∧
        output = some ⟨conn, wireFrame frame, wrote⟩ ∧
        next.written = Function.update state.written conn (state.written conn ++ wrote)) := by
  obtain ⟨⟨sent, world⟩, stepped, sending⟩ := Option.bind_eq_some_iff.mp taken
  refine ⟨sent, world, stepped, ?_⟩
  simp only at sending
  split at sending
  · cases sending
    exact ⟨rfl, .inl ⟨rfl, rfl⟩⟩
  · rename_i conn reply tries
    obtain ⟨frame, framed, sending⟩ := Option.bind_eq_some_iff.mp sending
    obtain ⟨bytes, built, sending⟩ := Option.bind_eq_some_iff.mp sending
    obtain ⟨⟨done, wrote⟩, called, sending⟩ := Option.bind_eq_some_iff.mp sending
    obtain ⟨_, heeded, same⟩ := Option.bind_eq_some_iff.mp sending
    rw [Option.guard_eq_some'] at heeded
    cases same
    obtain ⟨payload, short, rfl⟩ := buildFrame_some built
    exact ⟨rfl, .inr ⟨conn, reply, _, done, wrote, tries, called, heeded, rfl, rfl⟩⟩

/-- What is written of a frame is what `sendAll` writes. -/
theorem sendAll_of_transmit (taken : transmit codec config state wire = some (output, next))
    {sent : Transmission} (member : sent ∈ output) :
    ∃ done, sendAll sent.bytes wire.results = some (done, sent.wrote) := by
  obtain ⟨_, _, _, _, ⟨rfl, _⟩ | ⟨_, _, _, done, _, _, called, _, rfl, _⟩⟩ := transmit_cases taken
  · cases member
  · cases member
    exact ⟨done, called⟩

/-- A frame that broke off: a `send` failed behind one that accepted something. -/
theorem breaksOff_of_broken (taken : transmit codec config state wire = some (output, next))
    {sent : Transmission} (member : sent ∈ output) (broken : sent.Broken) :
    breaksOff wire.results = true := by
  obtain ⟨done, called⟩ := sendAll_of_transmit taken member
  obtain ⟨accepted, failed⟩ := sendAll_results called
  have gaveUp : done = false := Bool.eq_false_of_not_eq_true fun all =>
    broken.2 ((sendAll_starts called).2.mp all)
  rw [breaksOff, accepted broken.1, failed gaveUp]
  rfl

/-- **Who is written to**: a connection that is being welcomed and is closed unless the welcome gets
out, or one that is served. -/
theorem attempted_cases {world after : World} {event : Event} {sent : Option (Nat × Reply)}
    (stepped : step codec config world event = some (sent, after)) {conn : Nat} {reply : Reply}
    (tries : attempted world event sent = some (conn, reply)) :
    (world.phase conn = some .dequeued ∧
      (heeds event false = true → after.phase conn = some .returned)) ∨
    (world.phase conn = some .serving ∧
      ∃ frame listing, event.action = .frame conn frame listing) := by
  have phase := step_phase stepped conn
  obtain ⟨now, action⟩ := event
  cases action with
  | welcome target told =>
      obtain ⟨connection, found, dequeued, _⟩ := step_welcome_iff.mp stepped
      simp only [attempted, found, Option.map_some, Option.some.injEq, Prod.mk.injEq] at tries
      obtain ⟨rfl, _⟩ := tries
      refine .inl ⟨by rw [World.phase_eq found, dequeued], fun heeded => ?_⟩
      rw [phase, eq_of_beq heeded]
      exact if_pos rfl
  | frame target frame listing =>
      obtain ⟨connection, served, found, serving, _, _, _, rfl, _⟩ := step_frame_iff.mp stepped
      obtain ⟨_, _, same⟩ := Option.map_eq_some_iff.mp tries
      cases same
      exact .inr ⟨by rw [World.phase_eq found, serving], frame, listing, rfl⟩
  | accept =>
      cases stepped
      cases tries
  | configure target applied =>
      obtain ⟨_, _, _, rfl, _⟩ := step_configure_iff.mp stepped
      cases tries
  | teardown target status =>
      obtain ⟨_, _, _, rfl, _⟩ := step_teardown_iff.mp stepped
      cases tries
  | tickStart snapshot =>
      obtain ⟨_, _, rfl, _⟩ := step_tickStart_iff.mp stepped
      cases tries
  | tickOffline =>
      obtain ⟨_, _, _, rfl, _⟩ := step_tickOffline_iff.mp stepped
      cases tries

end Step

/-! ### Runs -/

section Runs

variable {state next : Wires} {wire : WireEvent} {output : Option Transmission}
  {registry : NodeRegistry} {trace : List WireTurn}

/-- A frame broke off on the connection, and nothing will come behind it: the connection is closed,
or the frame was an answer. -/
def Severed (trace : List WireTurn) (state : Wires) (conn : Nat) : Prop :=
  state.world.phase conn = some .returned ∨
    ∃ turn ∈ trace, answers turn = true ∧ ∃ old ∈ turn.output, old.conn = conn ∧ old.Broken

/-- **Nothing is written on a severed connection.** -/
theorem Severed.silent (run : Run (transmit codec config) (.boot registry) trace state)
    (taken : transmit codec config state wire = some (output, next))
    (forGood : FailsForGood trace ⟨state, wire, output, next⟩) {conn : Nat}
    (severed : Severed trace state conn) :
    next.written conn = state.written conn ∧
      Severed (trace ++ [⟨state, wire, output, next⟩]) next conn := by
  obtain ⟨sent, world, stepped, rfl, wrote⟩ := transmit_cases taken
  constructor
  · rcases wrote with ⟨_, same⟩ | ⟨target, reply, frame, done, wrote, tries, called, _, rfl, grown⟩
    · rw [same]
    · by_cases ours : conn = target
      · subst ours
        have nothing : wrote = [] := by
          rcases severed with returned | ⟨other, member, asked, old, found, mine, broken⟩
          · rcases attempted_cases stepped tries with ⟨dequeued, _⟩ | ⟨serving, _⟩
            · cases dequeued.symm.trans returned
            · cases serving.symm.trans returned
          · by_contra some
            have accepted := (sendAll_results called).1 some
            have whole := (forGood _ rfl).2 accepted other member asked old found mine
            cases whole.symm.trans (breaksOff_of_broken (run.taken member) found broken)
        rw [grown, Function.update_self, nothing, List.append_nil]
      · rw [grown, Function.update_of_ne ours]
  · rcases severed with returned | ⟨other, member, broken⟩
    · exact .inl (returned_kept stepped returned)
    · exact .inr ⟨other, List.mem_append_left _ member, broken⟩

/-- **A frame that breaks off severs its connection.** -/
theorem severed_of_broken (taken : transmit codec config state wire = some (output, next))
    {sent : Transmission} (member : sent ∈ output) (broken : sent.Broken) :
    Severed (trace ++ [⟨state, wire, output, next⟩]) next sent.conn := by
  have here := member
  obtain ⟨_, world, stepped, rfl, ⟨rfl, _⟩ | ⟨conn, reply, frame, done, wrote, tries, called,
    heeded, rfl, _⟩⟩ := transmit_cases taken
  · cases member
  · cases member
    rcases attempted_cases stepped tries with ⟨_, closes⟩ | ⟨_, asked, listing, action⟩
    · have failed : done = false := Bool.eq_false_of_not_eq_true fun all =>
        broken.2 ((sendAll_starts called).2.mp all)
      exact .inl (closes (failed ▸ heeded))
    · refine .inr ⟨_, List.mem_append_right _ List.mem_cons_self, ?_, _, here, rfl, broken⟩
      rw [answers, action]

/-- What has been written on a connection: complete frames, or else a last one that broke off. -/
def Standing (trace : List WireTurn) (state : Wires) (conn : Nat) : Prop :=
  WholeFrames (state.written conn) ∨
    (WellFramed (state.written conn) ∧ Severed trace state conn)

theorem Standing.wellFramed {conn : Nat} (standing : Standing trace state conn) :
    WellFramed (state.written conn) := by
  rcases standing with whole | ⟨framed, _⟩
  · exact whole.wellFramed
  · exact framed

theorem Standing.step (run : Run (transmit codec config) (.boot registry) trace state)
    (taken : transmit codec config state wire = some (output, next))
    (forGood : FailsForGood trace ⟨state, wire, output, next⟩) {conn : Nat}
    (standing : Standing trace state conn) :
    Standing (trace ++ [⟨state, wire, output, next⟩]) next conn := by
  rcases standing with whole | ⟨framed, severed⟩
  · obtain ⟨_, _, _, _, ⟨_, same⟩ | ⟨target, _, frame, _, wrote, _, called, _, rfl, grown⟩⟩ :=
      transmit_cases taken
    · exact .inl (by rwa [same])
    · by_cases ours : conn = target
      · subst ours
        have payload : frame.payload.length < 2 ^ 32 - 10 := by
          have short := (forGood _ rfl).1
          simp only [wireFrame_length] at short
          omega
        rw [Standing, grown, Function.update_self]
        by_cases complete : wrote = wireFrame frame
        · rw [complete]
          exact .inl (whole.append payload)
        · by_cases nothing : wrote = []
          · rw [nothing, List.append_nil]
            exact .inl whole
          · refine .inr ⟨(whole.append payload).wellFramed.starts ?_, ?_⟩
            · exact (List.prefix_append_right_inj _).mpr (sendAll_starts called).1
            · exact severed_of_broken taken rfl ⟨nothing, complete⟩
      · refine .inl ?_
        rwa [grown, Function.update_of_ne ours]
  · obtain ⟨same, still⟩ := severed.silent run taken forGood
    refine .inr ⟨?_, still⟩
    rwa [same]

theorem standing_of_run (run : Run (transmit codec config) (.boot registry) trace state)
    (forGood : EveryStep FailsForGood [] trace) (conn : Nat) : Standing trace state conn := by
  induction run with
  | nil => exact .inl ⟨[], by simp, rfl⟩
  | snoc previous taken ih =>
      obtain ⟨earlier, last⟩ := everyStep_concat.mp forGood
      exact (ih earlier).step previous taken last

/-- Behind a frame that broke off nothing has been written. -/
theorem silent_of_run (run : Run (transmit codec config) (.boot registry) trace state)
    (forGood : EveryStep FailsForGood [] trace) :
    ∀ turn ∈ trace, ∀ sent ∈ turn.output, sent.Broken →
      state.written sent.conn = turn.after.written sent.conn ∧ Severed trace state sent.conn := by
  induction run with
  | nil => exact List.forall_mem_nil _
  | snoc previous taken ih =>
      obtain ⟨earlier, last⟩ := everyStep_concat.mp forGood
      refine List.forall_mem_append.mpr ⟨fun turn member sent wrote broken => ?_,
        List.forall_mem_singleton.mpr fun sent wrote broken => ?_⟩
      · obtain ⟨same, severed⟩ := ih earlier turn member sent wrote broken
        obtain ⟨still, after⟩ := severed.silent previous taken last
        exact ⟨still.trans same, after⟩
      · exact ⟨rfl, severed_of_broken taken wrote broken⟩

end Runs

/-- **The output stays well framed** on every connection, in every run in which `send` accepts
nothing on a connection where it has failed in the middle of an answer: whatever part of it the peer
has received is a sequence of complete frames with at most one truncated frame at the end, and
behind a frame that broke off nothing more is written. -/
theorem output_wellFramed {registry : NodeRegistry} {trace : List WireTurn} {finish : Wires}
    (run : Run (transmit codec config) (.boot registry) trace finish)
    (forGood : EveryStep FailsForGood [] trace) :
    (∀ conn received, received <+: finish.written conn → WellFramed received) ∧
    ∀ turn ∈ trace, ∀ sent ∈ turn.output, sent.Broken →
      finish.written sent.conn = turn.after.written sent.conn :=
  ⟨fun conn _ starts => (standing_of_run run forGood conn).wellFramed.starts starts,
    fun turn member sent wrote broken =>
      (silent_of_run run forGood turn member sent wrote broken).1⟩

/-- `send` accepts one byte at a time. -/
def bytewise : List SendResult := List.replicate 400 (.sent 1)

/-- A connection is welcomed and asks two questions the server does not understand. The answer to
the first breaks off after three bytes, with no buffer space left (`ENOBUFS`). -/
def twoAnswers (second : List SendResult) : List WireEvent :=
  [⟨⟨0, .accept⟩, []⟩, ⟨⟨1, .welcome 0 true⟩, bytewise⟩, ⟨⟨2, .configure 0 true⟩, []⟩,
    ⟨⟨3, .frame 0 ⟨.ack, 7, []⟩ []⟩, [.sent 1, .failed .eintr, .sent 2, .failed (.other 105)]⟩,
    ⟨⟨4, .frame 0 ⟨.ack, 8, []⟩ []⟩, second⟩]

/-- The connection stays broken: the second answer does not get a byte out, and the stream ends
with the three of the first. -/
theorem output_wellFramed_reset :
    ∃ trace finish, Run (transmit Json.flatCodec .default) (.boot .empty) trace finish ∧
      (trace.filterMap fun turn => turn.output.map fun sent => sent.wrote.length) = [107, 3, 0] ∧
      (∀ received, received <+: finish.written 0 → WellFramed received) ∧
      ∃ turn ∈ trace, ∃ sent ∈ turn.output, sent.Broken ∧
        finish.written sent.conn = turn.after.written sent.conn := by
  let events := twoAnswers [.failed .econnreset]
  let machine := transmit Json.flatCodec .default
  let trace := execTrace machine (.boot .empty) events
  have facts : (exec machine (.boot .empty) events).isSome = true ∧
      EveryStep FailsForGood [] trace ∧
      (trace.filterMap fun turn => turn.output.map fun sent => sent.wrote.length) =
        [107, 3, 0] ∧
      ∃ turn ∈ trace, ∃ sent ∈ turn.output, sent.Broken := by decide +kernel
  obtain ⟨possible, forGood, wrote, turn, member, sent, output, broken⟩ := facts
  have run := run_of_possible possible
  have framed := output_wellFramed run forGood
  exact ⟨trace, _, run, wrote, framed.1 0, turn, member, sent, output, broken,
    framed.2 turn member sent output broken⟩

/-- **An answer behind a fragment**: the second one gets out whole, and behind the welcome the peer
reads a frame of length zero. -/
theorem answer_behind_fragment :
    ∃ trace finish, Run (transmit Json.flatCodec .default) (.boot .empty) trace finish ∧
      ¬ WellFramed (finish.written 0) := by
  let events := twoAnswers bytewise
  let machine := transmit Json.flatCodec .default
  let trace := execTrace machine (.boot .empty) events
  let finish := execFinal machine (.boot .empty) events
  let welcome := (welcomeReply 1 1 (sessionIdText 1)).frame Json.flatCodec
  have facts : (exec machine (.boot .empty) events).isSome = true ∧
      (welcome.map fun frame => (decide (frame.payload.length < 2 ^ 32 - 10),
        decide (finish.written 0 = wireFrame frame ++ (finish.written 0).drop 107),
        decide (4 ≤ ((finish.written 0).drop 107).length))) = some (true, true, true) ∧
      wordAt ((finish.written 0).drop 107) 0 = 0 := by decide +kernel
  obtain ⟨possible, welcomed, zero⟩ := facts
  obtain ⟨frame, _, fields⟩ := Option.map_eq_some_iff.mp welcomed
  obtain ⟨short, split, four⟩ := by simpa only [Prod.mk.injEq, decide_eq_true_eq] using fields
  refine ⟨trace, finish, run_of_possible possible, fun framed => ?_⟩
  rw [split] at framed
  have ten := (framed.behind short).frameLength four
  rw [zero] at ten
  exact absurd ten (by decide)

end ExodusOps
