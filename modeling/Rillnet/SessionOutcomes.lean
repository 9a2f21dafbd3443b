import Rillnet.SessionRest

/-!
# The outcomes of a session that was served

When no wait is aborted, the channel and the operation of a request tell the same story. So
in a session at rest every request has one of three outcomes: it waits for a handler of the
application, the response was returned to its first wait, or a failure was returned to every
wait.
-/

namespace Rillnet

section Outcomes

variable {τ : Type} {ν : τ → Type} [DecidableEq τ]
variable {registry : MessageRegistry τ} {codec : Codec τ ν}

/-- The executor of the client aborts a wait. -/
def SessionEvent.abortsWait : SessionEvent ν → Bool
  | .client event => event.abortsWait
  | _ => false

/-- No wait is aborted by the executor of the client. -/
def Session.unaborted (_ : Session ν) (event : SessionEvent ν) : Prop := event.abortsWait = false

instance (session : Session ν) (event : SessionEvent ν) : Decidable (session.unaborted event) :=
  inferInstanceAs (Decidable (event.abortsWait = false))

omit [DecidableEq τ] in
/-- Serving aborts no wait. -/
theorem SessionEvent.serves_unaborted {event : SessionEvent ν} (serving : event.serves = true) :
    event.abortsWait = false := by
  cases event with
  | client event => cases event <;> first | rfl | simp [serves, ClientEvent.serves] at serving
  | _ => rfl

/-- The client of a session without aborted waits runs without them. -/
theorem Session.Reachable.unabortedRun {clientLimits serverLimits : WriteQueueLimits}
    {maximumStreamId : UInt64} {session : Session ν}
    (reachable : Reachable registry codec unaborted clientLimits serverLimits maximumStreamId
      session) :
    ClientConnection.Reachable registry codec ClientConnection.unaborted clientLimits
      maximumStreamId session.client := by
  apply Reachability.Reaches.invariant (fun session : Session ν =>
    ClientConnection.Reachable registry codec ClientConnection.unaborted clientLimits
      maximumStreamId session.client) ?_ ?_ reachable
  · exact .start
  intro before event after reached allowed stepped
  rcases step_moves stepped with ⟨move, kind, moved⟩ | ⟨move, -, moved⟩
  · refine .next reached ?_ moved.stepped
    rcases kind with rfl | ⟨bytes, rfl⟩
    · exact allowed
    · rfl
  · rw [moved.client]
    exact reached

/-- A response won, and nothing of it is under way. -/
def PendingRequest.Delivered (registry : MessageRegistry τ) (codec : Codec τ ν)
    (request : PendingRequest ν) (dispatched : List Frame) : Prop :=
  request.operation.state = .completed ∧
    ∃ position frame, request.delivered = [(position, frame)] ∧
      dispatched[position]? = some frame ∧
      (0 < request.waits →
        request.returned = [(0, decodeMessage registry codec request.response frame)])

/-- Something else won, and every wait returned it. -/
def PendingRequest.Refused (request : PendingRequest ν) : Prop :=
  (request.operation.state = .failed ∨ request.operation.state = .cancelled) ∧
    ∃ result : OperationResult, request.operation.result = some result ∧ result.status ≠ .ok ∧
      ∀ wait < request.waits, (wait, .failure result.status result.message) ∈ request.returned

namespace Survey

variable {survey : Survey ν}
variable {clientLimits serverLimits : WriteQueueLimits} {maximumStreamId : UInt64}

/-- A request of a client at rest that is not undecided was delivered or refused. -/
theorem outcome_of_rests (rests : survey.session.client.Rests)
    (reachable : ClientConnection.Reachable registry codec ClientConnection.unaborted clientLimits
      maximumStreamId survey.session.client) {request : Nat} {object : PendingRequest ν}
    (found : survey.session.client.requests[request]? = some object) :
    object.Undecided ∨ object.Delivered registry codec survey.session.client.dispatched ∨
      object.Refused := by
  have whole := ClientConnection.Reachable.faithful reachable
  have quiet := rests.quiet request object found
  rcases (whole.faithful request object found).phase with
    undecided | ⟨position, frame, completed, -, -, delivered, stage⟩ |
    ⟨result, inactive, committed, bad, -, -, -, -, -, returned, heard⟩
  · exact Or.inl undecided
  · right
    left
    refine ⟨completed, position, frame, delivered,
      whole.recorded request object position frame found (by simp [delivered]), ?_⟩
    intro waited
    rcases stage with ⟨nobody, -⟩ | ⟨-, -, -, posted, -⟩ | ⟨-, -, -, -, returned⟩
    · omega
    · simp [quiet] at posted
    · exact returned
  · right
    right
    refine ⟨inactive, result, committed, bad, ?_⟩
    intro wait begun
    rcases heard wait begun with resumed | heard
    · simp [quiet] at resumed
    · obtain ⟨entry, member, rfl⟩ := List.mem_map.mp heard
      rw [← returned entry member]
      exact member

variable (registry codec) in
/-- Every call comes to an end. Where no wait is aborted, take any end of serving a session with
both sides running and both transports open. The `start_request` of every request has returned,
and there are three cases. Nothing was decided, no wait has returned, and a handler of the
application has the request or the server gave it up. Or a response was dispatched for the
request, and the first wait, if there was one, returned what it decodes to. Or the request
failed or was cancelled, and every wait returned the reason. -/
theorem calls_return (clientLimits serverLimits : WriteQueueLimits) (maximumStreamId : UInt64)
    (survey : Survey ν)
    (reachable : Reachable registry codec Session.unaborted clientLimits serverLimits
      maximumStreamId survey) (listens : survey.Listens) (count : Nat) (final : Survey ν)
    (ends : Loop.Ends (Serves registry codec) survey count final)
    (clientOpen : final.session.client.transportOpen = true)
    (serverOpen : final.session.server.transportOpen = true) (request : Nat)
    (object : PendingRequest ν) (found : final.session.client.requests[request]? = some object) :
    object.owner ≠ .starting ∧
    ((object.Undecided ∧ ∃ position, object.requestIndex = some position ∧
        ((∃ (invocation : Nat) (handler : Invocation ν),
          final.session.server.invocations[invocation]? = some handler ∧
          handler.inbound = position ∧ handler.stage = .handling) ∨
        position ∈ final.abandoned)) ∨
      object.Delivered registry codec final.session.client.dispatched ∨ object.Refused) := by
  obtain ⟨reached, clientAwaits, serverAwaits, rests⟩ := rests_of_ends
    (fun _ _ serving => SessionEvent.serves_unaborted serving) reachable listens ends clientOpen
    serverOpen
  obtain ⟨returned, attended⟩ :=
    rests.attended reached clientOpen serverOpen clientAwaits serverAwaits found
  refine ⟨returned, ?_⟩
  rcases outcome_of_rests rests.client (Session.Reachable.unabortedRun reached.session) found with
    undecided | decided
  · exact Or.inl ⟨undecided, attended undecided.2.1⟩
  · exact Or.inr decided

end Survey

end Outcomes

namespace Survey

/-- The first request was sent with a wait on it, and its handler replies. -/
def replied : Option (Survey fun _ : Unit => UInt8) :=
  Reachability.run (step byteRegistry byteCodec)
    (fun survey event => survey.session.unaborted event) (create {} {} 0xFFFFFFFFFFFFFFFF)
    [.client .run, .client .startWriter, .client .startReader, .server (.handle () ()), .server .run,
      .server .startWriter, .server .startReader, .client (.startRequest () 5 () none),
      .client (.asyncWait 0), .client .resumeWriter, .serverReads 23, .server .dispatchNext,
      .server (.startHandler 0), .server (.handlerReturns 0 () 9)]

/-- The reply is sent, read and dispatched, and the wait returns. -/
def hear (survey : Survey fun _ : Unit => UInt8) : Option (Survey fun _ : Unit => UInt8) :=
  Reachability.run (step byteRegistry byteCodec) (fun _ event => event.serves = true) survey
    [.client .writeCompleted, .server .dispatchNext, .server .resumeWriter, .server .writeCompleted,
      .clientReads 23, .client .dispatchNext, .client .dispatchNext, .client (.resumeWait 0 0)]

/-- When the session of the first reply rests, the wait has returned the decoded response. -/
theorem calls_return_replied :
    ∃ survey count final object, replied = some survey ∧
      Loop.Ends (Serves byteRegistry byteCodec) survey count final ∧
      final.session.client.requests[0]? = some object ∧ ∃ (position : Nat) (frame : Frame),
      final.session.client.dispatched[position]? = some frame ∧
      object.returned = [(0, decodeMessage byteRegistry byteCodec object.response frame)] := by
  have reads : replied.bind (fun survey => (hear survey).bind fun final =>
      final.session.client.requests[0]?.map fun object =>
        (decide (survey.session.client.reader = .awaiting ∧
            survey.session.server.reader ≠ .notStarted ∧ survey.session.server.reader ≠ .finished ∧
            final.session.client.reader = .awaiting ∧ final.session.server.reader = .awaiting ∧
            final.session.client.transportOpen = true ∧ final.session.server.transportOpen = true),
          final.still, object.operation.state, object.waits)) =
      some (true, true, .completed, 1) := by
    decide +kernel
  obtain ⟨survey, started, read⟩ := Option.bind_eq_some_iff.mp reads
  obtain ⟨final, served, read⟩ := Option.bind_eq_some_iff.mp read
  obtain ⟨object, found, facts⟩ := Option.map_eq_some_iff.mp read
  simp only [Prod.mk.injEq, decide_eq_true_iff] at facts
  obtain ⟨⟨client, asks, reading, clientAwaits, serverAwaits, clientOpen, serverOpen⟩, still,
    completed, waits⟩ := facts
  obtain ⟨count, rounds⟩ := rounds_of_served (Reachability.run_reaches _ _ _ _ _ served)
  have ends : Loop.Ends (Serves byteRegistry byteCodec) survey count final :=
    ⟨rounds, (rests_of_still still).over clientAwaits serverAwaits⟩
  obtain ⟨-, ⟨undecided, -⟩ | ⟨-, position, frame, -, dispatched, returned⟩ | ⟨inactive, -⟩⟩ :=
    calls_return byteRegistry byteCodec {} {} 0xFFFFFFFFFFFFFFFF survey
      (Reachability.run_reaches _ _ _ _ _ started)
      ⟨.of_busy (Or.inl client), ⟨asks, fun finished => absurd finished reading⟩⟩ count final ends
      clientOpen serverOpen 0 object found
  · simp [undecided.1] at completed
  · exact ⟨survey, count, final, object, started, ends, found, position, frame, dispatched,
      returned (by omega)⟩
  · simp [completed] at inactive

end Survey

end Rillnet
