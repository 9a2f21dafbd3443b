import Rillnet.Registrations
import Rillnet.ClientValues
import Rillnet.ServerValues

/-!
# Remote calls

To an application a request is a call of a handler on the other side. The session says
where frames go, and the two connections which value each frame carries; together they say
what the callers and the handlers see of each other, beside the calls that were made and
the values that handlers returned.
-/

namespace Rillnet

section Calls

variable {τ : Type} [DecidableEq τ] {ν : τ → Type}
variable (registry : MessageRegistry τ) (codec : Codec τ ν)

/-- The frame's payload is the encoding of the value. -/
structure Frame.Conveys (frame : Frame) (call : Sigma ν) : Prop where
  version : frame.header.version = currentProtocolVersion
  encodes : (codec.encode call.1 call.2).ok = true
  payload : ∃ id, registry.messageType call.1 currentProtocolVersion = some id ∧
    frame.payload = writeBe32 id.value ++ (codec.encode call.1 call.2).payload.getD []

section Conveying

variable {registry codec} {frame : Frame} {call : Sigma ν}

theorem encodeMessage_conveys {stream : StreamId} {frameType : FrameType} {flags : FrameFlags}
    (encoded : (encodeMessage registry codec call.1 call.2 stream frameType flags).frame =
      some frame) : frame.Conveys registry codec call := by
  obtain ⟨id, named, encodes, payload⟩ := encodeMessage_payload registry codec encoded
  have framed := encodeMessage_frame registry codec call.1 call.2 stream frameType flags frame encoded
  exact ⟨framed.1, encodes, id, named, payload⟩

theorem Invocation.replyFrame_conveys {object : Invocation ν}
    (sends : object.replyFrame registry codec call.1 call.2 = some frame) :
    frame.Conveys registry codec call := by
  obtain ⟨encoded, produced, rfl⟩ := Option.map_eq_some_iff.mp sends
  have conveys : encoded.Conveys registry codec call := encodeMessage_conveys produced
  exact ⟨conveys.version, conveys.encodes, conveys.payload⟩

section Decoding

variable (conveys : frame.Conveys registry codec call) (sound : registry.Sound)
variable (roundTrips : codec.RoundTrips)
include conveys sound roundTrips

/-- A frame is decoded to the value it conveys, or refused as one of another type. -/
theorem Frame.Conveys.decodes (type : τ) :
    (∃ value, call = ⟨type, value⟩ ∧ decodeMessage registry codec type frame = .success value) ∨
      decodeMessage registry codec type frame =
        .failure .unknownMessageType "payload message type does not match Message" := by
  obtain ⟨id, named, payload⟩ := conveys.payload
  have peeked : peekMessageType frame.payload = some id := by
    rw [payload]
    exact peekMessageType_writeBe32 id _
  by_cases same : registry.messageType type frame.header.version = some id
  · left
    obtain rfl : call.1 = type := sound.injective named (conveys.version ▸ same)
    have size : (writeBe32 id.value).length = messageTypeSize := rfl
    refine ⟨call.2, rfl, ?_⟩
    rw [decodeMessage_named registry codec peeked same, payload, List.drop_left' size]
    exact roundTrips call.1 call.2 conveys.encodes
  · exact Or.inr (decodeMessage_unnamed registry codec peeked same)

theorem Frame.Conveys.decoded {type : τ} {value : ν type}
    (decoded : (decodeMessage registry codec type frame).value = some value) :
    call = ⟨type, value⟩ := by
  rcases conveys.decodes sound roundTrips type with ⟨other, same, result⟩ | refused
  · rw [result] at decoded
    obtain rfl := Option.some.inj decoded
    exact same
  · simp [refused, DecodeResult.failure] at decoded

theorem Frame.Conveys.readable {type : τ}
    (readable : (decodeMessage registry codec type frame).ok = true) :
    ∃ value, (decodeMessage registry codec type frame).value = some value := by
  rcases conveys.decodes sound roundTrips type with ⟨value, -, result⟩ | refused
  · exact ⟨value, by rw [result]; rfl⟩
  · simp [refused, DecodeResult.failure, DecodeResult.ok] at readable

end Decoding

end Conveying

/-- A session with the calls that made a request and the values that handlers returned. -/
structure Dialog (ν : τ → Type) where
  session : Session ν
  asked : List (Nat × Sigma ν) := []
  answered : List (Nat × Sigma ν) := []

namespace Dialog

def create (clientLimits serverLimits : WriteQueueLimits) (maximumStreamId : UInt64) :
    Dialog ν where
  session := Session.create clientLimits serverLimits maximumStreamId

/-- One step of the session, with what its applications said in it. -/
def step (dialog : Dialog ν) (event : SessionEvent ν) : Option (Dialog ν) :=
  (dialog.session.step registry codec event).map fun after => {
    session := after
    asked := match event with
      | .client move => dialog.session.client.recordCall after.client move dialog.asked
      | _ => dialog.asked
    answered := match event with
      | .server move => ServerConnection.recordReturn move dialog.answered
      | _ => dialog.answered }

/-- The dialogs reached in the runs of the session that a guard allows. -/
def Reachable (guard : Session ν → SessionEvent ν → Prop) (clientLimits serverLimits : WriteQueueLimits)
    (maximumStreamId : UInt64) : Dialog ν → Prop :=
  Reachability.Reaches (step registry codec) (fun dialog => guard dialog.session)
    (create clientLimits serverLimits maximumStreamId)

/-- The two connections and the values they were given and gave. -/
structure Sound (dialog : Dialog ν) : Prop where
  asks : dialog.session.client.Asks registry codec dialog.asked
  answers : dialog.session.server.Answers registry codec dialog.answered
  sourced : ∀ dossier ∈ dialog.session.server.desk.dossiers, dossier.Sourced registry codec

section Runs

variable {registry codec} {dialog after : Dialog ν} {event : SessionEvent ν}
variable {guard : Session ν → SessionEvent ν → Prop} {clientLimits serverLimits : WriteQueueLimits}
variable {maximumStreamId : UInt64}

theorem step_session (stepped : dialog.step registry codec event = some after) :
    dialog.session.step registry codec event = some after.session := by
  obtain ⟨session, moved, rfl⟩ := Option.map_eq_some_iff.mp stepped
  exact moved

/-- In every step one of the two sides moves, and only what its application said is added. -/
theorem step_moves (stepped : dialog.step registry codec event = some after) :
    (∃ move, Session.ClientMove registry codec dialog.session after.session move ∧
      after.asked = dialog.session.client.recordCall after.session.client move dialog.asked ∧
      after.answered = dialog.answered) ∨
    (∃ move, Session.ServerMove registry codec dialog.session after.session move ∧
      after.asked = dialog.asked ∧
      after.answered = ServerConnection.recordReturn move dialog.answered) := by
  obtain ⟨session, went, rfl⟩ := Option.map_eq_some_iff.mp stepped
  unfold Session.step at went
  split at went
  · simp at went
  · rename_i move other
    obtain ⟨client, moved, rfl⟩ := Option.map_eq_some_iff.mp went
    have quiet : move.input = [] := by
      cases move with
      | received bytes => exact absurd rfl (other bytes)
      | _ => rfl
    exact Or.inl ⟨move, ⟨moved, rfl, rfl, by simp [quiet], id⟩, rfl, rfl⟩
  · simp at went
  · rename_i move other
    obtain ⟨server, moved, rfl⟩ := Option.map_eq_some_iff.mp went
    have quiet : move.input = [] := by
      cases move with
      | received bytes => exact absurd rfl (other bytes)
      | _ => rfl
    exact Or.inr ⟨move, ⟨moved, rfl, rfl, by simp [quiet], id⟩, rfl, rfl⟩
  · obtain ⟨full, read⟩ := Option.ite_none_right_eq_some.mp went
    obtain ⟨server, moved, rfl⟩ := Option.map_eq_some_iff.mp read
    obtain ⟨bytes, bound⟩ := Session.transferred_read full
    exact Or.inr ⟨_, ⟨moved, rfl, rfl, bytes, bound⟩, rfl, rfl⟩
  · obtain ⟨full, read⟩ := Option.ite_none_right_eq_some.mp went
    obtain ⟨client, moved, rfl⟩ := Option.map_eq_some_iff.mp read
    obtain ⟨bytes, bound⟩ := Session.transferred_read full
    exact Or.inl ⟨_, ⟨moved, rfl, rfl, bytes, bound⟩, rfl, rfl⟩

theorem Reachable.session
    (reachable : Reachable registry codec guard clientLimits serverLimits maximumStreamId dialog) :
    Session.Reachable registry codec guard clientLimits serverLimits maximumStreamId
      dialog.session :=
  Reachability.Reaches.project Dialog.session
    (fun _ _ _ allowed stepped => ⟨allowed, step_session stepped⟩) reachable

theorem create_sound (clientLimits serverLimits : WriteQueueLimits) (maximumStreamId : UInt64) :
    (create clientLimits serverLimits maximumStreamId : Dialog ν).Sound registry codec where
  asks := ClientConnection.create_asks clientLimits maximumStreamId
  answers := ServerConnection.create_answers serverLimits
  sourced := nofun

theorem Reachable.sound
    (reachable : Reachable registry codec guard clientLimits serverLimits maximumStreamId dialog) :
    dialog.Sound registry codec := by
  apply Reachability.Reaches.invariant_of_reached (Sound registry codec)
    (create_sound clientLimits serverLimits maximumStreamId) ?_ reachable
  intro before event after reached sound _ stepped
  have session := Reachable.session reached
  have joined := Session.Reachable.joined session
  rcases step_moves stepped with ⟨move, moved, asked, answered⟩ | ⟨move, moved, asked, answered⟩
  · constructor
    · rw [asked]
      exact sound.asks.step joined.consistent (Session.Reachable.clientRun session).indexed
        moved.stepped
    · rw [moved.server, answered]
      exact sound.answers
    · rw [moved.server]
      exact sound.sourced
  · constructor
    · rw [moved.client, asked]
      exact sound.asks
    · rw [answered]
      exact sound.answers.step joined.server.sound moved.stepped
    · exact (before.session.server.step_desk joined.server.sound move after.session.server
        moved.stepped).sourced sound.sourced

end Runs

section Views

variable (dialog : Dialog ν)

/-- The application's handler was called with this value. -/
def Runs (invocation : Nat) (call : Sigma ν) : Prop :=
  ∃ object, dialog.session.server.invocations[invocation]? = some object ∧
    object.argument.map (Sigma.mk object.handler.request) = some call

/-- The handler coroutine was spawned for the frame of the request. -/
def Serves (invocation request : Nat) : Prop :=
  ∃ object asker, dialog.session.server.invocations[invocation]? = some object ∧
    dialog.session.client.requests[request]? = some asker ∧
    asker.requestIndex = some object.inbound ∧ asker.stream = object.stream

/-- The reply of the handler coroutine was delivered to the request. -/
def Replies (invocation request : Nat) : Prop :=
  ∃ object asker position frame, dialog.session.server.invocations[invocation]? = some object ∧
    dialog.session.client.requests[request]? = some asker ∧ object.reply = some position ∧
    (position, frame) ∈ asker.delivered ∧ object.stream = asker.stream

/-- A wait for the response to the request returned the value. -/
def Yields (request : Nat) (value : Sigma ν) : Prop :=
  ∃ asker wait result given, dialog.session.client.requests[request]? = some asker ∧
    (wait, result) ∈ asker.returned ∧ result.value = some given ∧ value = ⟨asker.response, given⟩

/-- What callers and handlers see of each other. A handler runs for a request, on what the
request asked, and never twice for one; what a wait returns is what a handler returned
that had run, whose reply went to no other request. -/
structure Truthful : Prop where
  asked : (dialog.asked.map Prod.fst).Nodup
  answered : (dialog.answered.map Prod.fst).Nodup
  runs : ∀ invocation call, dialog.Runs invocation call →
    ∃ request, dialog.Serves invocation request ∧ (request, call) ∈ dialog.asked
  once : ∀ first second request, dialog.Serves first request → dialog.Serves second request →
    first = second
  ran : ∀ invocation value, (invocation, value) ∈ dialog.answered →
    ∃ call, dialog.Runs invocation call
  yields : ∀ request value, dialog.Yields request value →
    ∃ invocation, dialog.Replies invocation request ∧ (invocation, value) ∈ dialog.answered
  single : ∀ request value other, dialog.Yields request value → dialog.Yields request other →
    value = other
  unshared : ∀ invocation first second, dialog.Replies invocation first →
    dialog.Replies invocation second → first = second

end Views

section Values

variable {registry codec} {dialog : Dialog ν}

omit [DecidableEq τ] in
/-- A coroutine spawned for a request is on the stream of the request. -/
theorem served_stream (joined : dialog.session.Joined)
    (indexed : dialog.session.client.ledger.Indexed) {invocation request : Nat}
    {object : Invocation ν} {asker : PendingRequest ν}
    (present : dialog.session.server.invocations[invocation]? = some object)
    (found : dialog.session.client.requests[request]? = some asker)
    (index : asker.requestIndex = some object.inbound) : asker.stream = object.stream := by
  have seen := (joined.server.sound.inbound invocation object present).1
  obtain ⟨frame, accepted, framed⟩ := indexed.framed request asker object.inbound found index
  obtain rfl : frame = object.frame :=
    Option.some.inj (accepted.symm.trans (getElem?_initial joined.up_dispatched seen))
  exact framed.stream.symm

omit [DecidableEq τ] in
/-- Every coroutine was spawned for a request. -/
theorem served (joined : dialog.session.Joined)
    (indexed : dialog.session.client.ledger.Indexed) {invocation : Nat} {object : Invocation ν}
    (present : dialog.session.server.invocations[invocation]? = some object) :
    ∃ (request : Nat) (asker : PendingRequest ν),
      dialog.session.client.requests[request]? = some asker ∧
      asker.requestIndex = some object.inbound ∧ asker.stream = object.stream := by
  obtain ⟨seen, -, plain⟩ := joined.server.sound.inbound invocation object present
  have sent := getElem?_initial joined.up_dispatched seen
  obtain ⟨request, asker, found, index⟩ := indexed.covered object.inbound object.frame sent plain
  exact ⟨request, asker, found, index, served_stream joined indexed present found index⟩

section Sides

variable (sound : dialog.Sound registry codec) (joined : dialog.session.Joined)
include sound joined

/-- The request that a coroutine was spawned for conveys what the request asked. -/
theorem Sound.conveyed {invocation request : Nat} {object : Invocation ν} {asker : PendingRequest ν}
    (present : dialog.session.server.invocations[invocation]? = some object)
    (found : dialog.session.client.requests[request]? = some asker)
    (index : asker.requestIndex = some object.inbound) :
    ∃ call, (request, call) ∈ dialog.asked ∧ object.frame.Conveys registry codec call := by
  obtain ⟨frame, accepted, call, member, encoded⟩ :=
    sound.asks.indexed request asker object.inbound found index
  have seen := (joined.server.sound.inbound invocation object present).1
  obtain rfl : frame = object.frame :=
    Option.some.inj (accepted.symm.trans (getElem?_initial joined.up_dispatched seen))
  exact ⟨call, member, encodeMessage_conveys encoded⟩

/-- A coroutine whose handler returned had been given a value. -/
theorem Sound.ran (indexed : dialog.session.client.ledger.Indexed) {invocation : Nat}
    {value : Sigma ν} (member : (invocation, value) ∈ dialog.answered)
    (registered : registry.Sound) (roundTrips : codec.RoundTrips) :
    ∃ call, dialog.Runs invocation call := by
  obtain ⟨object, present, begun, -, readable, -⟩ := sound.answers.returned _ member
  obtain ⟨request, asker, found, index, -⟩ := served joined indexed present
  obtain ⟨call, -, conveys⟩ := sound.conveyed joined present found index
  have filed : object.dossier ∈ dialog.session.server.desk.dossiers :=
    List.mem_map_of_mem (List.mem_of_getElem? present)
  have given := object.argument_of_sourced (sound.sourced _ filed) readable begun
  obtain ⟨argument, decoded⟩ := conveys.readable registered roundTrips readable
  exact ⟨_, object, present, by rw [given, decoded]; rfl⟩

/-- A coroutine runs on what its request asked. -/
theorem Sound.asked {invocation request : Nat} {object : Invocation ν} {asker : PendingRequest ν}
    (present : dialog.session.server.invocations[invocation]? = some object)
    (found : dialog.session.client.requests[request]? = some asker)
    (index : asker.requestIndex = some object.inbound) {call : Sigma ν}
    (runs : object.argument.map (Sigma.mk object.handler.request) = some call)
    (registered : registry.Sound) (roundTrips : codec.RoundTrips) :
    (request, call) ∈ dialog.asked := by
  obtain ⟨argument, given, rfl⟩ := Option.map_eq_some_iff.mp runs
  obtain ⟨asked, member, conveys⟩ := sound.conveyed joined present found index
  have filed : object.dossier ∈ dialog.session.server.desk.dossiers :=
    List.mem_map_of_mem (List.mem_of_getElem? present)
  have decoded := object.value_of_sourced (sound.sourced _ filed) given
  exact conveys.decoded registered roundTrips decoded ▸ member

/-- The reply at a position conveys what the coroutine returned. -/
theorem Sound.returned {invocation position : Nat} {object : Invocation ν} {frame : Frame}
    (present : dialog.session.server.invocations[invocation]? = some object)
    (replied : object.reply = some position)
    (dispatched : dialog.session.client.dispatched[position]? = some frame) :
    ∃ value, (invocation, value) ∈ dialog.answered ∧ frame.Conveys registry codec value := by
  obtain ⟨sent, value, accepted, member, sends⟩ :=
    sound.answers.replied invocation object position present replied
  have received := getElem?_initial joined.down_dispatched dispatched
  obtain rfl : sent = frame := Option.some.inj (accepted.symm.trans received)
  exact ⟨value, member, Invocation.replyFrame_conveys sends⟩

end Sides

section Reached

variable {guard : Session ν → SessionEvent ν → Prop} {clientLimits serverLimits : WriteQueueLimits}
variable {maximumStreamId : UInt64}

/-- A value that a wait returned was decoded from a delivered frame. -/
theorem Reachable.yielded
    (reachable : Reachable registry codec guard clientLimits serverLimits maximumStreamId dialog)
    (registered : registry.Sound) (roundTrips : codec.RoundTrips) {request : Nat} {value : Sigma ν}
    (yields : dialog.Yields request value) :
    ∃ asker position frame, dialog.session.client.requests[request]? = some asker ∧
      (position, frame) ∈ asker.delivered ∧
      ∀ call, frame.Conveys registry codec call → call = value := by
  obtain ⟨asker, wait, result, given, found, member, valued, rfl⟩ := yields
  obtain ⟨position, frame, delivered, rfl⟩ :=
    ((Session.Reachable.clientRun (Reachable.session reachable)).sourced found).decoded wait result
      member (by simp [valued])
  exact ⟨asker, position, frame, found, delivered,
    fun call conveys => conveys.decoded registered roundTrips valued⟩

/-- A frame delivered to a request is a reply, and conveys what its coroutine returned. -/
theorem Reachable.replied
    (reachable : Reachable registry codec guard clientLimits serverLimits maximumStreamId dialog)
    {request position : Nat} {asker : PendingRequest ν} {frame : Frame}
    (found : dialog.session.client.requests[request]? = some asker)
    (delivered : (position, frame) ∈ asker.delivered) :
    ∃ invocation value, dialog.Replies invocation request ∧ (invocation, value) ∈ dialog.answered ∧
      frame.Conveys registry codec value := by
  have joined := Session.Reachable.joined (Reachable.session reachable)
  have routed := (Session.Reachable.clientRun (Reachable.session reachable)).routed
  obtain ⟨dispatched, -, -, plain, stream⟩ :=
    routed.routed request asker position frame found delivered
  have accepted := getElem?_initial joined.down_dispatched dispatched
  rcases joined.server.sound.answers position frame accepted with
    ⟨asking, -, status, rfl⟩ | ⟨invocation, object, present, replied⟩
  · rw [makeErrorFrame_errs] at plain
    simp at plain
  · obtain ⟨value, member, conveys⟩ :=
      (Reachable.sound reachable).returned joined present replied dispatched
    obtain ⟨-, reply, taken, framed⟩ :=
      joined.server.sound.reply invocation object position present replied
    obtain rfl : reply = frame := Option.some.inj (taken.symm.trans accepted)
    exact ⟨invocation, value, ⟨object, asker, position, reply, present, found, replied, delivered,
      framed.stream.symm.trans stream⟩, member, conveys⟩

end Reached

end Values

section Results

variable (history : List (Registration τ)) (clientLimits serverLimits : WriteQueueLimits)
variable (maximumStreamId : UInt64) (dialog : Dialog ν)

/-- Remote calls. In every run, whatever is cancelled, times out, is refused or fails on
either side, what callers and handlers see of each other is truthful. -/
theorem remote_calls (roundTrips : codec.RoundTrips)
    (reachable : Reachable (.registered codec history) codec Reachability.unguarded clientLimits
      serverLimits maximumStreamId dialog) : dialog.Truthful := by
  have registered := MessageRegistry.registered_sound codec history
  have session := Reachable.session reachable
  have sound := Reachable.sound reachable
  have joined := Session.Reachable.joined session
  have indexed := (Session.Reachable.clientRun session).indexed
  have routed := (Session.Reachable.clientRun session).routed
  constructor
  · exact sound.asks.once
  · exact sound.answers.once
  · rintro invocation call ⟨object, present, runs⟩
    obtain ⟨request, asker, found, index, stream⟩ := served joined indexed present
    exact ⟨request, ⟨object, asker, present, found, index, stream⟩,
      sound.asked joined present found index runs registered roundTrips⟩
  · rintro first second request ⟨one, asker, presentOne, found, indexOne, -⟩
      ⟨other, same, presentOther, foundSame, indexOther, -⟩
    obtain rfl : asker = same := Option.some.inj (found.symm.trans foundSame)
    exact joined.server.sound.distinct first second one other presentOne presentOther
      (Option.some.inj (indexOne.symm.trans indexOther))
  · exact fun invocation value member => sound.ran joined indexed member registered roundTrips
  · intro request value yields
    obtain ⟨asker, position, frame, found, delivered, conveyed⟩ :=
      reachable.yielded registered roundTrips yields
    obtain ⟨invocation, returned, replies, member, conveys⟩ := reachable.replied found delivered
    exact ⟨invocation, replies, conveyed returned conveys ▸ member⟩
  · intro request value other yields yieldsOther
    obtain ⟨asker, position, frame, found, delivered, conveyed⟩ :=
      reachable.yielded registered roundTrips yields
    obtain ⟨same, place, again, foundSame, deliveredAgain, conveyedOther⟩ :=
      reachable.yielded registered roundTrips yieldsOther
    obtain rfl : asker = same := Option.some.inj (found.symm.trans foundSame)
    have single := routed.single request asker found
    obtain ⟨index, within, entry⟩ := List.mem_iff_getElem.mp delivered
    obtain ⟨here, withinHere, entryHere⟩ := List.mem_iff_getElem.mp deliveredAgain
    obtain rfl : index = here := by omega
    obtain ⟨-, rfl⟩ := Prod.mk.inj (entry.symm.trans entryHere)
    obtain ⟨-, returned, -, -, conveys⟩ := reachable.replied found delivered
    exact (conveyed returned conveys).symm.trans (conveyedOther returned conveys)
  · rintro invocation first second
      ⟨object, one, position, frame, present, foundOne, replied, deliveredOne, -⟩
      ⟨same, other, place, again, presentSame, foundOther, repliedSame, deliveredOther, -⟩
    obtain rfl : object = same := Option.some.inj (present.symm.trans presentSame)
    obtain rfl : position = place := Option.some.inj (replied.symm.trans repliedSame)
    exact routed.distinct first second one other position frame again foundOne foundOther deliveredOne
      deliveredOther

/-- A run in which the reply to a cancelled request completes the next one. -/
def crossedCalls : Option (Dialog fun _ : Unit => UInt8) :=
  Reachability.run (step byteRegistry byteCodec)
    (fun dialog => Reachability.unguarded dialog.session) (create {} {} 0xFFFFFFFFFFFFFFFF)
    (Session.firstReply ++ [.client (.cancel 0 "operation cancelled"), .client (.asyncWait 0),
      .client (.resumeWait 0 0), .client (.startRequest () 6 () none), .clientReads 23,
      .client .dispatchNext, .client .dispatchNext, .client (.asyncWait 1), .client (.resumeWait 1 0)])

/-- The second request, which asked with six, is given the nine of the only handler that
has returned. -/
theorem remote_calls_crossed :
    ∃ dialog, crossedCalls = some dialog ∧ dialog.Truthful ∧
      dialog.asked = [(0, ⟨(), 5⟩), (1, ⟨(), 6⟩)] ∧ dialog.answered.map Prod.fst = [0] ∧
      dialog.Yields 1 ⟨(), 9⟩ ∧ dialog.Replies 0 1 := by
  have reads : crossedCalls.bind (fun dialog =>
      dialog.session.client.requests[1]?.map fun asker =>
        (dialog.asked, dialog.answered.map Prod.fst,
          asker.returned.map fun entry => entry.2.value)) =
      some ([(0, ⟨(), 5⟩), (1, ⟨(), 6⟩)], [0], [some 9]) := by
    decide +kernel
  obtain ⟨dialog, reached, read⟩ := Option.bind_eq_some_iff.mp reads
  obtain ⟨asker, found, facts⟩ := Option.map_eq_some_iff.mp read
  obtain ⟨asked, facts⟩ := Prod.mk.inj facts
  obtain ⟨answered, returned⟩ := Prod.mk.inj facts
  have truthful : dialog.Truthful :=
    remote_calls byteCodec [⟨(), currentProtocolVersion, ⟨7⟩⟩] {} {} 0xFFFFFFFFFFFFFFFF dialog
      (podCodec_roundTrips _ _ _ (fun _ _ => rfl) (fun _ _ => rfl))
      (Reachability.run_reaches _ _ _ _ _ reached)
  have yields : dialog.Yields 1 ⟨(), 9⟩ := by
    obtain ⟨⟨wait, result⟩, member, valued⟩ :=
      List.mem_map.mp (returned ▸ List.mem_singleton_self (some 9))
    exact ⟨asker, wait, result, 9, found, member, valued, rfl⟩
  obtain ⟨invocation, replies, member⟩ := truthful.yields 1 ⟨(), 9⟩ yields
  have listed : invocation ∈ dialog.answered.map Prod.fst := List.mem_map_of_mem member
  rw [answered] at listed
  obtain rfl : invocation = 0 := List.mem_singleton.mp listed
  exact ⟨dialog, reached, truthful, asked, answered, yields, replies⟩

/-- Remote calls compose. In every run that starts no request on a stream on which an
earlier one can still be answered, a value that a wait returns is what the handler returned
that ran for this request, on what the request asked. -/
theorem remote_calls_compose (roundTrips : codec.RoundTrips)
    (reachable : Reachable (.registered codec history) codec Session.unrecycled clientLimits
      serverLimits maximumStreamId dialog) (request : Nat) (value : Sigma ν)
    (yields : dialog.Yields request value) :
    ∃ invocation call, (request, call) ∈ dialog.asked ∧ dialog.Serves invocation request ∧
      dialog.Runs invocation call ∧ (invocation, value) ∈ dialog.answered := by
  have registered := MessageRegistry.registered_sound codec history
  have session := Reachable.session reachable
  have sound := Reachable.sound reachable
  have joined := Session.Reachable.joined session
  have indexed := (Session.Reachable.clientRun session).indexed
  obtain ⟨asker, position, frame, found, delivered, conveyed⟩ :=
    reachable.yielded registered roundTrips yields
  obtain ⟨invocation, object, present, replied, index⟩ :=
    (Session.Reachable.correlated session).delivered request asker position frame found delivered
  have dispatched :=
    ((Session.Reachable.clientRun session).routed.routed request asker position frame found
      delivered).1
  obtain ⟨returned, member, conveys⟩ := sound.returned joined present replied dispatched
  obtain rfl := conveyed returned conveys
  obtain ⟨call, ran, there, runs⟩ := sound.ran joined indexed member registered roundTrips
  obtain rfl : ran = object := Option.some.inj (there.symm.trans present)
  exact ⟨invocation, call, sound.asked joined present found index runs registered roundTrips,
    ⟨ran, asker, present, found, index, served_stream joined indexed present found index⟩,
    ⟨ran, present, runs⟩, member⟩

/-- A run in which the caller of the first request is given its response. -/
def returnedCall : Option (Dialog fun _ : Unit => UInt8) :=
  Reachability.run (step byteRegistry byteCodec) (fun dialog => Session.unrecycled dialog.session)
    (create {} {} 0xFFFFFFFFFFFFFFFF)
    (Session.firstReply ++ [.clientReads 23, .client .dispatchNext, .client .dispatchNext,
      .client (.asyncWait 0), .client (.resumeWait 0 0)])

/-- The caller is given what the handler returned for five. -/
theorem remote_calls_compose_returned :
    ∃ dialog, returnedCall = some dialog ∧ dialog.Yields 0 ⟨(), 9⟩ ∧
      ∃ invocation, dialog.Serves invocation 0 ∧ dialog.Runs invocation ⟨(), 5⟩ ∧
        (invocation, ⟨(), 9⟩) ∈ dialog.answered := by
  have reads : returnedCall.bind (fun dialog =>
      dialog.session.client.requests[0]?.map fun asker =>
        (dialog.asked, asker.returned.map fun entry => entry.2.value)) =
      some ([(0, ⟨(), 5⟩)], [some 9]) := by
    decide +kernel
  obtain ⟨dialog, reached, read⟩ := Option.bind_eq_some_iff.mp reads
  obtain ⟨asker, found, facts⟩ := Option.map_eq_some_iff.mp read
  obtain ⟨asked, returned⟩ := Prod.mk.inj facts
  have yields : dialog.Yields 0 ⟨(), 9⟩ := by
    obtain ⟨⟨wait, result⟩, member, valued⟩ :=
      List.mem_map.mp (returned ▸ List.mem_singleton_self (some 9))
    exact ⟨asker, wait, result, 9, found, member, valued, rfl⟩
  obtain ⟨invocation, call, member, serves, runs, answered⟩ :=
    remote_calls_compose byteCodec [⟨(), currentProtocolVersion, ⟨7⟩⟩] {} {} 0xFFFFFFFFFFFFFFFF dialog
      (podCodec_roundTrips _ _ _ (fun _ _ => rfl) (fun _ _ => rfl))
      (Reachability.run_reaches _ _ _ _ _ reached) 0 ⟨(), 9⟩ yields
  obtain rfl : call = ⟨(), 5⟩ := by simpa [asked] using member
  exact ⟨dialog, reached, yields, invocation, serves, runs, answered⟩

end Results

end Dialog

end Calls

end Rillnet
