import Rillnet.ClientClosing

/-!
# Routing of inbound frames

Whatever a peer sends, a frame reaches an operation only while the map holds the
operation and it is active, and it completes the operation. So an operation gets
at most one frame, a frame goes to at most one operation, and once the connection
has failed nothing is delivered any more.
-/

namespace Rillnet

section Routing

variable {τ : Type} {ν : τ → Type}

namespace Ledger

/-- Every delivery was routed by the rules. -/
structure Routed (ledger : Ledger ν) : Prop where
  single : ∀ (request : Nat) (object : PendingRequest ν),
    ledger.requests[request]? = some object → object.delivered.length ≤ 1
  decided : ∀ (request : Nat) (object : PendingRequest ν),
    ledger.requests[request]? = some object → object.delivered ≠ [] →
    object.operation.state ≠ .active
  routed : ∀ (request : Nat) (object : PendingRequest ν) (position : Nat) (frame : Frame),
    ledger.requests[request]? = some object → (position, frame) ∈ object.delivered →
    ledger.dispatched[position]? = some frame ∧ frame.header.type = .response ∧
      hasFlag frame.header.flags .cancel = false ∧ hasFlag frame.header.flags .error = false ∧
      frame.header.stream = object.stream
  distinct : ∀ (first second : Nat) (one other : PendingRequest ν) (position : Nat)
    (frame frame' : Frame), ledger.requests[first]? = some one →
    ledger.requests[second]? = some other → (position, frame) ∈ one.delivered →
    (position, frame') ∈ other.delivered → first = second

variable [DecidableEq τ] {registry : MessageRegistry τ} {codec : Codec τ ν}
variable {permits : Ledger ν → Change → Prop} {before after : Ledger ν}

/-- What is delivered after a change was delivered before, or is the frame
dispatched by the change. -/
theorem Step.deliveries (step : Step registry codec permits before after) {request : Nat}
    {new : PendingRequest ν} (found : after.requests[request]? = some new) :
    new.delivered = [] ∨
    ∃ object, before.requests[request]? = some object ∧ new.stream = object.stream ∧
      (object.operation.state ≠ .active → new.operation.state ≠ .active) ∧
      (new.delivered = object.delivered ∨
        ∃ position frame, object.operation.state = .active ∧ new.operation.state ≠ .active ∧
          before.Answers permits after request position frame ∧
          new.delivered = object.delivered ++ [(position, frame)]) := by
  rcases step.origin found with ⟨object, present, evolves⟩ | ⟨stream, response, deadline, rfl⟩
  · right
    refine ⟨object, present, evolves.stream, ?_, ?_⟩
    · intro inactive
      rw [(evolves.decided inactive).1]
      exact inactive
    · rcases evolves.delivered with same | ⟨position, frame, active, answers, joined, completed⟩
      · exact Or.inl same
      · exact Or.inr ⟨position, frame, active, by simp [completed], answers, joined⟩
  · exact Or.inl rfl

omit [DecidableEq τ] in
/-- An old delivery has an old position. -/
theorem Routed.position_lt (routed : before.Routed) {request position : Nat}
    {object : PendingRequest ν} {frame : Frame} (found : before.requests[request]? = some object)
    (member : (position, frame) ∈ object.delivered) : position < before.dispatched.length :=
  (List.getElem?_eq_some_iff.mp (routed.routed request object position frame found member).1).1

/-- Where a delivery after a change comes from. -/
theorem Step.delivery (step : Step registry codec permits before after) {request position : Nat}
    {new : PendingRequest ν} {frame : Frame} (found : after.requests[request]? = some new)
    (member : (position, frame) ∈ new.delivered) :
    ∃ object, before.requests[request]? = some object ∧ new.stream = object.stream ∧
      ((position, frame) ∈ object.delivered ∨
        before.Answers permits after request position frame) := by
  rcases step.deliveries found with none | ⟨object, present, stream, -, same | added⟩
  · rw [none] at member
    exact absurd member List.not_mem_nil
  · exact ⟨object, present, stream, Or.inl (same ▸ member)⟩
  · obtain ⟨where_, what, -, -, answers, joined⟩ := added
    rw [joined] at member
    rcases List.mem_append.mp member with old | last
    · exact ⟨object, present, stream, Or.inl old⟩
    · obtain ⟨rfl, rfl⟩ : position = where_ ∧ frame = what := by simpa using last
      exact ⟨object, present, stream, Or.inr answers⟩

/-- Every change routes by the rules. -/
theorem Step.routed (step : Step registry codec permits before after)
    (consistent : before.Consistent) (routed : before.Routed) : after.Routed := by
  constructor
  · intro request new found
    rcases step.deliveries found with none | ⟨object, present, -, -, same | added⟩
    · simp [none]
    · rw [same]
      exact routed.single request object present
    · obtain ⟨position, frame, active, -, -, joined⟩ := added
      have first : object.delivered = [] := by
        by_contra some
        exact routed.decided request object present some active
      simp [joined, first]
  · intro request new found some
    rcases step.deliveries found with none | ⟨object, present, -, stays, same | added⟩
    · exact absurd none some
    · exact stays (routed.decided request object present (same ▸ some))
    · obtain ⟨position, frame, -, inactive, -, -⟩ := added
      exact inactive
  · intro request new position frame found member
    obtain ⟨object, present, stream, old | answers⟩ := step.delivery found member
    · obtain ⟨dispatched, response, cancel, error, same⟩ :=
        routed.routed request object position frame present old
      exact ⟨getElem?_initial step.dispatched dispatched, response, cancel, error,
        same.trans stream.symm⟩
    · obtain ⟨listed, foundListed, sameStream, -⟩ := consistent.entry _ _ answers.entry
      obtain rfl : object = listed := Option.some.inj (present.symm.trans foundListed)
      refine ⟨?_, answers.response, answers.plain.1, answers.plain.2,
        sameStream.symm.trans stream.symm⟩
      rw [answers.dispatched, answers.position]
      simp
  · intro first second one other position frame frame' foundOne foundOther memberOne memberOther
    obtain ⟨oldOne, presentOne, -, earlierOne | answersOne⟩ := step.delivery foundOne memberOne
    · obtain ⟨oldOther, presentOther, -, earlierOther | answersOther⟩ :=
        step.delivery foundOther memberOther
      · exact routed.distinct first second oldOne oldOther position frame frame' presentOne
          presentOther earlierOne earlierOther
      · have bound := routed.position_lt presentOne earlierOne
        rw [answersOther.position] at bound
        omega
    · obtain ⟨oldOther, presentOther, -, earlierOther | answersOther⟩ :=
        step.delivery foundOther memberOther
      · have bound := routed.position_lt presentOther earlierOther
        rw [answersOne.position] at bound
        omega
      · have same : frame = frame' := by
          have lists := answersOne.dispatched.symm.trans answersOther.dispatched
          simpa using lists
        have entry := answersOne.entry
        rw [same, answersOther.entry] at entry
        exact (Option.some.inj entry).symm

theorem Steps.routed (steps : Steps registry codec permits before after)
    (consistent : before.Consistent) (routed : before.Routed) : after.Routed := by
  induction steps with
  | refl => exact routed
  | tail earlier step inductionHypothesis =>
    exact step.routed (Steps.consistent earlier consistent) inductionHypothesis

end Ledger

namespace ClientConnection

variable [DecidableEq τ] {registry : MessageRegistry τ} {codec : Codec τ ν}
variable {guard : ClientConnection ν → ClientEvent ν → Prop} {limits : WriteQueueLimits}
variable {maximumStreamId : UInt64} {client : ClientConnection ν}

theorem Reachable.routed
    (reachable : Reachable registry codec guard limits maximumStreamId client) :
    client.ledger.Routed := by
  apply Reachability.Reaches.invariant_of_reached (fun client => client.ledger.Routed) ?_ ?_
    reachable
  · exact ⟨by simp [create, ledger], by simp [create, ledger], by simp [create, ledger],
      by simp [create, ledger]⟩
  · intro before event after reached routed _ stepped
    have consistent := Reachable.consistent reached
    exact (before.step_steps event after consistent stepped).routed consistent routed

/-- A step delivers a frame only by dispatching it to an active operation that
the map holds. -/
theorem step_delivery (consistent : client.ledger.Consistent) {event : ClientEvent ν}
    {after : ClientConnection ν} (stepped : client.step registry codec event = some after)
    {request position : Nat} {new : PendingRequest ν} {frame : Frame}
    (found : after.requests[request]? = some new) (member : (position, frame) ∈ new.delivered) :
    (∃ object, client.requests[request]? = some object ∧ (position, frame) ∈ object.delivered) ∨
    ∃ object rest, client.requests[request]? = some object ∧ event = .dispatchNext ∧
      client.reader = .dispatching (frame :: rest) ∧ position = client.dispatched.length ∧
      object.operation.state = .active ∧
      client.pending.lookup frame.header.stream = some request := by
  rcases (client.step_steps event after consistent stepped).delivered found member with
    old | ⟨middle, last, object, present, active, answers⟩
  · exact Or.inl old
  · right
    obtain ⟨rest, event_eq, reading, rfl⟩ : ∃ rest, event = .dispatchNext ∧
        client.reader = .dispatching (frame :: rest) ∧ middle = client.ledger := by
      cases answers.permitted with
      | completes frame rest request reading => exact ⟨rest, rfl, reading, rfl⟩
    exact ⟨object, rest, present, event_eq, reading, answers.position, active, answers.entry⟩

/-- Once the connection has failed nothing more is delivered. -/
theorem Reachable.halted
    (reachable : Reachable registry codec guard limits maximumStreamId client)
    {later : ClientConnection ν}
    (continues : Reachability.Reaches (step registry codec) guard client later)
    (violated : client.violations ≠ []) :
    later.violations ≠ [] ∧ ∀ (request position : Nat) (new : PendingRequest ν) (frame : Frame),
      later.requests[request]? = some new → (position, frame) ∈ new.delivered →
      ∃ object, client.requests[request]? = some object ∧ (position, frame) ∈ object.delivered := by
  apply Reachability.Reaches.invariant_of_reached (fun later => later.violations ≠ [] ∧
    ∀ (request position : Nat) (new : PendingRequest ν) (frame : Frame),
      later.requests[request]? = some new → (position, frame) ∈ new.delivered →
      ∃ object, client.requests[request]? = some object ∧ (position, frame) ∈ object.delivered)
    ?_ ?_ continues
  · exact ⟨violated, fun _ _ new _ found member => ⟨new, found, member⟩⟩
  · rintro before event after reached ⟨violated, old⟩ _ stepped
    have earlier : Reachable registry codec guard limits maximumStreamId before :=
      Reachability.Reaches.trans reachable reached
    refine ⟨(before.step_turn event after earlier.consistent stepped).violations violated, ?_⟩
    intro request position new frame found member
    rcases step_delivery earlier.consistent stepped found member with
      ⟨object, present, delivered⟩ | ⟨object, rest, -, -, reading, -⟩
    · exact old request position object frame present delivered
    · have reading : before.shell.reader = .dispatching (frame :: rest) := reading
      exact absurd (earlier.orderly.unviolated (by simp [reading]) (by simp [reading])) violated

/-- Once a malformed header was found, only frames decoded ahead of it are
delivered. -/
theorem Reachable.erred
    (reachable : Reachable registry codec guard limits maximumStreamId client)
    {later : ClientConnection ν}
    (continues : Reachability.Reaches (step registry codec) guard client later)
    (error : client.decoder.error ≠ none) :
    (later.decoder.error ≠ none ∧ later.reader.batch ⊆ client.reader.batch) ∧
    ∀ (request position : Nat) (new : PendingRequest ν) (frame : Frame),
      later.requests[request]? = some new → (position, frame) ∈ new.delivered →
      (∃ object, client.requests[request]? = some object ∧ (position, frame) ∈ object.delivered) ∨
        frame ∈ client.reader.batch := by
  apply Reachability.Reaches.invariant_of_reached (fun later =>
    (later.decoder.error ≠ none ∧ later.reader.batch ⊆ client.reader.batch) ∧
    ∀ (request position : Nat) (new : PendingRequest ν) (frame : Frame),
      later.requests[request]? = some new → (position, frame) ∈ new.delivered →
      (∃ object, client.requests[request]? = some object ∧ (position, frame) ∈ object.delivered) ∨
        frame ∈ client.reader.batch) ?_ ?_ continues
  · exact ⟨⟨error, List.Subset.refl _⟩, fun _ _ new _ found member => Or.inl ⟨new, found, member⟩⟩
  · rintro before event after reached ⟨⟨error, fewer⟩, old⟩ _ stepped
    have earlier : Reachable registry codec guard limits maximumStreamId before :=
      Reachability.Reaches.trans reachable reached
    obtain ⟨still, shrinks⟩ :=
      (before.step_turn event after earlier.consistent stepped).batch earlier.orderly error
    refine ⟨⟨still, fun frame member => fewer (shrinks member)⟩, ?_⟩
    intro request position new frame found member
    rcases step_delivery earlier.consistent stepped found member with
      ⟨object, present, delivered⟩ | ⟨object, rest, -, -, reading, -⟩
    · exact old request position object frame present delivered
    · right
      apply fewer
      rw [reading]
      exact List.mem_cons_self

variable (registry codec) in
/-- Safe routing against any peer. Every operation is delivered at most one
frame, a plain response on its own stream, and no dispatched frame goes to two
operations. Each delivery happens in a step that dispatches the frame while the
map holds the operation and it is active, and never after a violation: then
nothing is delivered in any later state. After a malformed header nothing is read
any more, and only the frames decoded ahead of it are left to dispatch. -/
theorem safe_routing (limits : WriteQueueLimits) (maximumStreamId : UInt64)
    (client : ClientConnection ν)
    (reachable : Reachable registry codec Reachability.unguarded limits maximumStreamId client) :
    (∀ (request : Nat) (object : PendingRequest ν), client.requests[request]? = some object →
      object.delivered.length ≤ 1 ∧
      ∀ (position : Nat) (frame : Frame), (position, frame) ∈ object.delivered →
        client.dispatched[position]? = some frame ∧ frame.header.type = .response ∧
        hasFlag frame.header.flags .cancel = false ∧ hasFlag frame.header.flags .error = false ∧
        frame.header.stream = object.operation.stream) ∧
    (∀ (first second : Nat) (one other : PendingRequest ν) (position : Nat) (frame frame' : Frame),
      client.requests[first]? = some one → client.requests[second]? = some other →
      (position, frame) ∈ one.delivered → (position, frame') ∈ other.delivered →
      first = second) ∧
    (∀ (event : ClientEvent ν) (after : ClientConnection ν) (request position : Nat)
      (new : PendingRequest ν) (frame : Frame), client.step registry codec event = some after →
      after.requests[request]? = some new → (position, frame) ∈ new.delivered →
      (∃ object, client.requests[request]? = some object ∧ (position, frame) ∈ object.delivered) ∨
      ∃ object rest, client.requests[request]? = some object ∧ event = .dispatchNext ∧
        client.reader = .dispatching (frame :: rest) ∧ position = client.dispatched.length ∧
        object.operation.state = .active ∧
        client.pending.lookup frame.header.stream = some request ∧ client.violations = []) ∧
    (client.violations ≠ [] →
      ∀ later, Reachability.Reaches (step registry codec) Reachability.unguarded client later →
      ∀ (request position : Nat) (new : PendingRequest ν) (frame : Frame),
        later.requests[request]? = some new → (position, frame) ∈ new.delivered →
        ∃ object, client.requests[request]? = some object ∧
          (position, frame) ∈ object.delivered) ∧
    (client.decoder.error ≠ none →
      (client.reader = .finished ∨ ∃ frames, client.reader = .dispatching frames) ∧
      ∀ later, Reachability.Reaches (step registry codec) Reachability.unguarded client later →
      ∀ (request position : Nat) (new : PendingRequest ν) (frame : Frame),
        later.requests[request]? = some new → (position, frame) ∈ new.delivered →
        (∃ object, client.requests[request]? = some object ∧
          (position, frame) ∈ object.delivered) ∨ frame ∈ client.reader.batch) := by
  refine ⟨?_, reachable.routed.distinct, ?_, ?_, ?_⟩
  · intro request object found
    exact ⟨reachable.routed.single request object found, fun position frame member =>
      reachable.routed.routed request object position frame found member⟩
  · intro event after request position new frame stepped found member
    rcases step_delivery reachable.consistent stepped found member with
      old | ⟨object, rest, present, event_eq, reading, position_eq, active, entry⟩
    · exact Or.inl old
    · refine Or.inr ⟨object, rest, present, event_eq, reading, position_eq, active, entry, ?_⟩
      have reading : client.shell.reader = .dispatching (frame :: rest) := reading
      exact reachable.orderly.unviolated (by simp [reading]) (by simp [reading])
  · intro violated later continues
    exact (reachable.halted continues violated).2
  · intro error
    exact ⟨reachable.orderly.erred error, fun later continues =>
      (reachable.erred continues error).2⟩

/-- A run in which a hostile peer sends the response to a request and then a
second frame on its stream. -/
def answeredTwice : Option (ClientConnection fun _ : Unit => UInt8) :=
  Reachability.run (step byteRegistry byteCodec) Reachability.unguarded
    (create {} 0xFFFFFFFFFFFFFFFF)
    [.run, .startWriter, .startReader, .startRequest () 5 () none,
      .received (encodeFrame nineOnFirst ++ encodeFrame nineOnFirst), .dispatchNext, .dispatchNext]

/-- The first frame was delivered, the second failed the connection, and nothing
is delivered afterwards. -/
theorem safe_routing_duplicate :
    ∃ client object, answeredTwice = some client ∧ client.requests[0]? = some object ∧
      object.delivered = [(0, nineOnFirst)] ∧
      ∀ later, Reachability.Reaches (step byteRegistry byteCodec) Reachability.unguarded client
        later → ∀ (position : Nat) (new : PendingRequest fun _ : Unit => UInt8) (frame : Frame),
        later.requests[0]? = some new → (position, frame) ∈ new.delivered →
        (position, frame) = (0, nineOnFirst) := by
  have reads : answeredTwice.bind (fun client => client.requests[0]?.map fun object =>
      (client.violations, object.delivered)) =
      some ([(.unknownStream, "response received for an unknown stream")], [(0, nineOnFirst)]) := by
    decide +kernel
  obtain ⟨client, reached, read⟩ := Option.bind_eq_some_iff.mp reads
  obtain ⟨object, found, facts⟩ := Option.map_eq_some_iff.mp read
  obtain ⟨violations, delivered⟩ : client.violations =
      [(.unknownStream, "response received for an unknown stream")] ∧
      object.delivered = [(0, nineOnFirst)] := by
    simpa using facts
  obtain ⟨-, -, -, halted, -⟩ := safe_routing byteRegistry byteCodec {} 0xFFFFFFFFFFFFFFFF client
    (Reachability.run_reaches _ _ _ _ _ reached)
  refine ⟨client, object, reached, found, delivered, ?_⟩
  intro later continues position new frame reread member
  obtain ⟨old, present, before⟩ :=
    halted (by simp [violations]) later continues 0 position new frame reread member
  obtain rfl : object = old := Option.some.inj (found.symm.trans present)
  rw [delivered] at before
  exact List.mem_singleton.mp before

end ClientConnection

end Routing

end Rillnet
