import Rillnet.SidesInStep

/-!
# Sessions in which nobody is accused

The runs in which two endpoints stay in step: no stream is used for a second request,
no request is given up that was answered or that the server has done with, no wait
returns from a live request, no frame is dispatched after the client closed its
transport, and the server neither ends its work on a stream while the cancellation is
on its way nor answers a request that the client does not list any more, or with a
status that a client does not accept.

In these runs neither side reports a protocol error or fails the connection, and a
frame touches nothing but the operation on its own stream.
-/

namespace Rillnet

section NoAccusations

variable {τ : Type} {ν : τ → Type}

namespace ClientConnection

variable (client : ClientConnection ν)

/-- The client does not read any more, or only what had arrived before. -/
def deaf : Bool := decide (client.reader = .finished) || !client.transportOpen

theorem deaf_iff :
    client.deaf = true ↔ client.reader = .finished ∨ client.transportOpen = false := by
  simp [deaf]

@[simp] theorem markTerminal_requests (frame : Frame) :
    (client.markTerminal frame).requests = client.requests := by
  unfold markTerminal
  split <;> rfl

/-- A frame that is not to blame is routed to the request on its stream. -/
theorem dispatch_routes (frame : Frame) (consistent : client.ledger.Consistent)
    (blameless : ¬ client.ledger.Blames frame) :
    ∃ request object new, client.requests[request]? = some object ∧
      object.stream = frame.header.stream ∧
      (client.dispatch frame).requests = client.requests.set request new := by
  obtain ⟨response, listed, unmarked, decodable⟩ := blameless_frame blameless
  obtain ⟨request, entry⟩ := Option.ne_none_iff_exists'.mp listed
  obtain ⟨object, found, same, active, -⟩ := consistent.entry frame.header.stream request entry
  have sane := consistent.sane request object found
  have still := client.listed_of_consistent consistent found
  suffices written : ∃ new, (client.dispatch frame).requests = client.requests.set request new by
    obtain ⟨new, written⟩ := written
    exact ⟨request, object, new, found, same, written⟩
  unfold dispatch
  rw [if_neg (not_not.mpr response)]
  simp only [entry, unmarked, if_false]
  split
  · obtain ⟨operation, offered, -, -, after⟩ :=
      client.cancelPending_active "operation cancelled by peer" found sane still active
    rw [markTerminal_requests]
    exact ⟨_, congrArg Ledger.requests after⟩
  · split
    · rename_i errs
      obtain ⟨status, decoded⟩ := Option.ne_none_iff_exists'.mp (decodable errs)
      obtain ⟨operation, -, after⟩ := client.failRequest_active status
        "peer rejected the operation" true (decodeErrorStatus_failure frame status decoded) found
        sane still active
      simp only [decoded]
      rw [markTerminal_requests]
      exact ⟨_, congrArg Ledger.requests after⟩
    · obtain ⟨wins, delivered⟩ := client.deliver_ledger frame found sane still active
      simp only [wins, if_true]
      exact ⟨_, congrArg Ledger.requests delivered⟩

/-- A frame that is not to blame leaves the requests on other streams alone. -/
theorem dispatch_spares {frame : Frame} {rest : List Frame} (consistent : client.ledger.Consistent)
    (blameless : ¬ client.ledger.Blames frame) {request : Nat} {object : PendingRequest ν}
    (found : client.requests[request]? = some object)
    (elsewhere : object.stream ≠ frame.header.stream) :
    (client.dispatchFrame frame rest).requests[request]? = some object := by
  obtain ⟨owner, owned, new, present, same, written⟩ := dispatch_routes (client.notify
    { type := .messageTransferred, stream := frame.header.stream, inbound := true }) frame
    consistent blameless
  have different : request ≠ owner := by
    rintro rfl
    obtain rfl : object = owned := Option.some.inj (found.symm.trans present)
    exact elsewhere same
  have present : client.requests[owner]? = some owned := present
  have written : (client.dispatchFrame frame rest).requests = client.requests.set owner new :=
    written
  rw [written, getElem?_set_found new present, if_neg different]
  exact found

end ClientConnection

namespace ServerConnection

variable (server : ServerConnection ν)

@[simp] theorem markTerminal_invocations (frame : Frame) :
    (server.markTerminal frame).invocations = server.invocations := by
  unfold markTerminal
  split <;> rfl

/-- A frame is routed to the operation on its stream, or to a new one. -/
theorem dispatch_routes (frame : Frame) :
    (server.dispatch frame).invocations = server.invocations ∨
    (∃ invocation object new, server.operations.lookup frame.header.stream = some invocation ∧
      server.invocations[invocation]? = some object ∧
      (server.dispatch frame).invocations = server.invocations.set invocation new) ∨
    ∃ new, (server.dispatch frame).invocations = server.invocations ++ [new] := by
  have refused : ∀ status, ((server.sendOperationError frame.header.stream status).markTerminal
      frame).invocations = server.invocations := fun status => markTerminal_invocations _ frame
  have failed : ∀ status message, (server.failConnection status message).invocations =
      server.invocations := by
    intro status message
    exact congrArg Book.invocations (server.failConnection_book status message)
  unfold dispatch
  split
  · exact Or.inl (refused _)
  split
  · exact Or.inl (failed _ _)
  split
  · exact Or.inl (failed _ _)
  split
  · split
    · rename_i invocation entry
      rw [markTerminal_invocations]
      unfold callOperation
      split
      · exact Or.inl rfl
      · rename_i object found
        exact Or.inr (Or.inl ⟨invocation, object, _, entry, found, rfl⟩)
    · exact Or.inl (failed _ _)
  · split
    · exact Or.inl (refused _)
    · split
      · exact Or.inl (refused _)
      · unfold spawnHandler
        split
        · exact Or.inl rfl
        · exact Or.inr (Or.inr ⟨_, rfl⟩)

/-- A frame leaves the handlers on other streams alone. -/
theorem dispatch_spares {frame : Frame} {rest : List Frame} (sound : server.book.Sound)
    {invocation : Nat} {object : Invocation ν}
    (found : server.invocations[invocation]? = some object)
    (elsewhere : object.stream ≠ frame.header.stream) :
    (server.dispatchFrame frame rest).invocations[invocation]? = some object := by
  rcases dispatch_routes (server.notify
    { type := .messageTransferred, stream := frame.header.stream, inbound := true }) frame with
    same | ⟨owner, owned, new, entry, present, written⟩ | ⟨new, joined⟩
  · have same : (server.dispatchFrame frame rest).invocations = server.invocations := same
    rw [same]
    exact found
  · have present : server.invocations[owner]? = some owned := present
    have written : (server.dispatchFrame frame rest).invocations =
      server.invocations.set owner new := written
    obtain ⟨listed, again, stream, -⟩ := sound.entry frame.header.stream owner entry
    obtain rfl : owned = listed := Option.some.inj (present.symm.trans again)
    have different : invocation ≠ owner := by
      rintro rfl
      obtain rfl : object = owned := Option.some.inj (found.symm.trans present)
      exact elsewhere stream
    rw [written, getElem?_set_found new present, if_neg different]
    exact found
  · have joined : (server.dispatchFrame frame rest).invocations = server.invocations ++ [new] :=
      joined
    rw [joined]
    exact getElem?_append_found found

/-- A server that came to its shutdown goes on to drain. -/
theorem step_draining [DecidableEq τ] {registry : MessageRegistry τ} {codec : Codec τ ν}
    {event : ServerEvent ν} {after : ServerConnection ν}
    (stepped : server.step registry codec event = some after)
    (draining : server.isShuttingDown = true) : after.isShuttingDown = true := by
  have winding : server.shell.lifecycle = .draining ∨ server.shell.lifecycle = .closing ∨
      server.shell.lifecycle = .closed := by
    simpa [isShuttingDown, shell, or_assoc] using draining
  have still := (server.step_turn event after stepped).winds winding
  simpa [isShuttingDown, shell, or_assoc] using still

end ServerConnection

namespace Session

variable (session : Session ν)

/-- The frames on their way to the server. -/
def upward : List Frame :=
  underway session.client.writeQueue.accepted session.server.dispatched

/-- The frames on their way to the client. -/
def downward : List Frame :=
  underway session.server.writeQueue.accepted session.client.dispatched

/-- A request may be given up: it is over already, or it was not answered yet and the
server drains, has not read it, or works on it. -/
def mayAbandon (request : Nat) : Bool :=
  session.client.requests[request]?.all fun object =>
    object.operation.isTerminal ||
      ((framesOn session.downward object.stream).isEmpty &&
        (session.server.isShuttingDown || !(framesOn session.upward object.stream).isEmpty ||
          (session.server.operations.lookup object.stream).isSome))

/-- The server may end its work on a stream and give some frames to the queue: no
cancellation is on its way, and the client waits for an answer that it can read. -/
def mayConclude (stream : StreamId) (offered : List Frame) : Bool :=
  (session.server.isShuttingDown ||
      !decide (ClientConnection.cancellationFrame stream ∈ session.upward)) &&
    (offered.isEmpty || session.client.deaf ||
      ((session.client.pending.lookup stream).isSome &&
        (framesOn session.downward stream).isEmpty && offered.all Frame.readable))

section Runs

variable [DecidableEq τ] (registry : MessageRegistry τ) (codec : Codec τ ν)

/-- No stream is used for a second request; a request is given up, and the work on a
stream ended, only where the other side still expects it; a wait returns only once its
operation is over; and the client dispatches nothing after it closed its transport. -/
def keepsInStep : SessionEvent ν → Bool
  | .client (.startRequest ..) =>
    session.client.isShuttingDown || session.client.streamIds.allocate.2.stream.all fun stream =>
      (framesOn session.client.writeQueue.accepted stream).isEmpty
  | .client (.cancel request _) | .client (.timerHandler request)
  | .client (.destroyHandle request) => session.mayAbandon request
  | .client (.resumeWait request _) => session.client.isTerminal request
  | .client .dispatchNext => session.client.reader.batch.isEmpty || session.client.transportOpen
  | .server event =>
    (session.server.conclusion registry codec event).all fun (stream, offered) =>
      session.mayConclude stream offered
  | _ => true

variable {session registry codec} {before after : Session ν}

omit [DecidableEq τ] in
theorem Joined.linked (joined : session.Joined) :
    Linked session.client.ledger session.server.book where
  consistent := joined.consistent
  sound := joined.server.sound
  up := joined.up_dispatched
  down := joined.down_dispatched

omit [DecidableEq τ] in
/-- What the guard says of a live request that may be given up. -/
theorem mayAbandon_live {request : Nat} {object : PendingRequest ν}
    (allowed : session.mayAbandon request = true)
    (found : session.client.requests[request]? = some object)
    (active : object.operation.state = .active) :
    framesOn session.downward object.stream = [] ∧
      (session.server.isShuttingDown = true ∨ framesOn session.upward object.stream ≠ [] ∨
        (session.server.operations.lookup object.stream).isSome) := by
  have live := object.operation.isTerminal_active active
  simpa [mayAbandon, found, live, or_assoc] using allowed

omit [DecidableEq τ] in
theorem mayConclude_iff {stream : StreamId} {offered : List Frame} :
    session.mayConclude stream offered = true ↔
      (session.server.isShuttingDown = true ∨
        ClientConnection.cancellationFrame stream ∉ session.upward) ∧
      (offered = [] ∨ session.client.deaf = true ∨
        ((session.client.pending.lookup stream).isSome = true ∧
          framesOn session.downward stream = [] ∧ ∀ frame ∈ offered, frame.readable = true)) := by
  simp [mayConclude, or_assoc, and_assoc]

/-- What holds of two endpoints in step: neither reported or found a fault of the other. -/
structure Unaccused (session : Session ν) : Prop where
  inStep : InStep (session.server.isShuttingDown = true) (session.client.deaf = true)
    session.client.ledger session.server.book
  client : session.client.accusations = ([], [])
  server : session.server.accusations = ([], [], [])

section Client

variable (joined : before.Joined) (unaccused : before.Unaccused)
include joined unaccused

omit [DecidableEq τ] in
/-- The frame a client dispatches finds it ready. -/
theorem Unaccused.clientBlameless (usable : before.client.transportOpen = true) {frame : Frame}
    {rest : List Frame} (reading : before.client.reader = .dispatching (frame :: rest)) :
    ¬ before.client.ledger.Blames frame := by
  apply unaccused.inStep.client_blameless joined.linked
  · simp [ClientConnection.deaf, usable, reading]
  · exact (joined.down_next reading).trans joined.server_sent

omit [DecidableEq τ] in
/-- The frame a server dispatches finds it ready. -/
theorem Unaccused.serverBlameless (serving : before.server.isShuttingDown = false) {frame : Frame}
    {rest : List Frame} (reading : before.server.reader = .dispatching (frame :: rest)) :
    ¬ before.server.book.Blames frame := by
  apply unaccused.inStep.server_blameless joined.linked
  · simp [serving]
  · exact (joined.up_next reading).trans joined.client_sent

/-- What an event of the client permits where it keeps the sides in step. -/
theorem Unaccused.clientKeeps {event : ClientEvent ν}
    (allowed : before.keepsInStep registry codec (.client event) = true) (ledger : Ledger ν) :
    ClientKeepsStep (before.server.isShuttingDown = true) (after.client.deaf = true)
      before.server.book (before.client.Brings registry codec after.client event) ledger := by
  have usable : event = .dispatchNext → ∀ frame rest,
      before.client.reader = .dispatching (frame :: rest) → before.client.transportOpen = true := by
    rintro rfl frame rest reading
    simpa [keepsInStep, reading, Reader.batch] using allowed
  constructor
  · intro stream brings
    cases brings with
    | registers type value response deadline stream serving allocation =>
      simpa [keepsInStep, serving, allocation, StreamIdAllocation.success,
        ClientConnection.ledger] using allowed
  · rintro request object ⟨⟩ found active
    have terminal : object.operation.isTerminal = true := by
      simpa [keepsInStep, ClientConnection.isTerminal,
        show before.client.requests[request]? = some object from found] using allowed
    rw [object.operation.isTerminal_active active] at terminal
    simp at terminal
  · intro request object brings found
    cases brings with
    | cancels request message owned present handle =>
      obtain rfl : owned = object := Option.some.inj (present.symm.trans found)
      exact ⟨by simp [handle], mayAbandon_live allowed present⟩
    | discards request owned present handle =>
      obtain rfl : owned = object := Option.some.inj (present.symm.trans found)
      exact ⟨by simp [handle], mayAbandon_live allowed present⟩
    | timesOut request owned present expired =>
      obtain rfl : { owned with timer := .done } = object := by
        have written := getElem?_set_found { owned with timer := .done } present request
        rw [if_pos rfl] at written
        exact Option.some.inj (written.symm.trans found)
      have guarded := mayAbandon_live allowed present
      refine ⟨?_, guarded⟩
      intro starting
      have idle := (unaccused.inStep.exchanged.dormant request owned present starting).1.timer
      simp [idle] at expired
  · intro request frame brings
    rcases brings with brings | brings
    · cases brings with
      | completes frame rest request reading =>
        exact (joined.down_next reading).trans joined.server_sent
    · cases brings with
      | rejects frame rest request reading =>
        exact (joined.down_next reading).trans joined.server_sent
  · intro brings
    cases brings with
    | fails event ledger idle stops => exact after.client.deaf_iff.mpr stops
    | failsBlaming frame rest ledger reading blames =>
      exact absurd blames (unaccused.clientBlameless joined (usable rfl frame rest reading) reading)
  · intro frame brings
    cases brings with
    | accuses frame rest ledger reading blames =>
      exact absurd blames (unaccused.clientBlameless joined (usable rfl frame rest reading) reading)

/-- A step of the client that keeps the sides in step leaves both unaccused. -/
theorem Unaccused.clientMove {event : ClientEvent ν}
    (allowed : before.keepsInStep registry codec (.client event) = true)
    (moved : ClientMove registry codec before after event) : after.Unaccused := by
  have linked := joined.linked
  have turn := before.client.step_turn event after.client joined.consistent moved.stepped
  have steps := before.client.step_steps event after.client joined.consistent moved.stepped
  have down := (moved.joined joined).down_dispatched
  rw [moved.server] at down
  have deafens : before.client.deaf = true → after.client.deaf = true := by
    rw [before.client.deaf_iff, after.client.deaf_iff]
    exact turn.stops
  refine ⟨?_, ?_, ?_⟩
  · rw [moved.server]
    exact (unaccused.inStep.mono id deafens).clientSteps linked steps down
      (unaccused.clientKeeps joined allowed)
  · rw [← unaccused.client]
    refine before.client.step_accusations event after.client joined.consistent ?_ joined.down.2
      moved.stepped
    intro frame rest reading
    -- while frames are left the client does nothing but dispatch them
    obtain rfl : event = .dispatchNext := by
      by_contra other
      have stepped := moved.stepped
      cases event with
      | dispatchNext => exact other rfl
      | _ => simp [ClientConnection.step, reading] at stepped
    apply unaccused.clientBlameless joined _ reading
    simpa [keepsInStep, reading, Reader.batch] using allowed
  · rw [moved.server]
    exact unaccused.server

omit unaccused in
/-- What an event of the server permits where it keeps the sides in step. -/
theorem Joined.serverKeeps {event : ServerEvent ν}
    (allowed : before.keepsInStep registry codec (.server event) = true) :
    ServerKeepsStep (before.server.isShuttingDown = true) (before.client.deaf = true)
      before.client.ledger before.server.book (before.server.Brings registry codec event) := by
  have concludes : ∀ stream offered,
      before.server.Brings registry codec event (.concludes stream offered) →
      before.mayConclude stream offered = true := by
    intro stream offered brings
    cases brings with
    | concludes stream offered concluded => simpa [keepsInStep, concluded] using allowed
  constructor
  · intro frame brings
    cases brings with
    | reads frame rest dispatches reading => exact (joined.up_next reading).trans joined.client_sent
  · intro stream offered brings
    exact (mayConclude_iff.mp (concludes stream offered brings)).1
  · intro stream offered brings
    exact (mayConclude_iff.mp (concludes stream offered brings)).2

/-- A step of the server that keeps the sides in step leaves both unaccused. -/
theorem Unaccused.serverMove {event : ServerEvent ν}
    (allowed : before.keepsInStep registry codec (.server event) = true)
    (moved : ServerMove registry codec before after event) : after.Unaccused := by
  refine ⟨?_, ?_, ?_⟩
  · rw [moved.client]
    refine InStep.mono ?_ (before.server.step_draining moved.stepped) id
    rcases before.server.step_book joined.server.sound event after.server moved.stepped with
      same | step
    · rw [same]
      exact unaccused.inStep
    · exact unaccused.inStep.serverStep joined.linked step (joined.serverKeeps allowed)
  · rw [moved.client]
    exact unaccused.client
  · rw [← unaccused.server]
    exact before.server.step_accusations event after.server
      (fun frame rest reading serving => unaccused.serverBlameless joined serving reading)
      joined.up.2
      moved.stepped

end Client

variable {clientLimits serverLimits : WriteQueueLimits} {maximumStreamId : UInt64}

omit [DecidableEq τ] in
theorem create_unaccused :
    (create clientLimits serverLimits maximumStreamId : Session ν).Unaccused := by
  refine ⟨⟨⟨?_, ?_, ?_, ?_⟩, ?_, ?_, ?_, ?_, ?_⟩, rfl, rfl⟩
  · exact fun stream => .unused
  all_goals simp [create, ClientConnection.create, ServerConnection.create, ClientConnection.ledger,
    ServerConnection.book, WriteQueue.create, underway]

theorem Reachable.unaccused
    (reachable : Reachable registry codec
      (fun session event => session.keepsInStep registry codec event = true) clientLimits
      serverLimits maximumStreamId session) : session.Unaccused := by
  apply Reachability.Reaches.invariant_of_reached Unaccused create_unaccused ?_ reachable
  intro before event after reached unaccused allowed stepped
  have joined := Reachable.joined reached
  rcases step_moves stepped with ⟨move, rfl | ⟨bytes, rfl⟩, moved⟩ |
    ⟨move, rfl | ⟨bytes, rfl⟩, moved⟩
  · exact unaccused.clientMove joined allowed moved
  · exact unaccused.clientMove joined rfl moved
  · exact unaccused.serverMove joined allowed moved
  · exact unaccused.serverMove joined rfl moved

variable (registry codec) in
/-- Two endpoints never accuse each other. In every run that keeps the sides in step
neither side has reported a protocol error, failed its connection or found a malformed
header, and a frame that one of them dispatches next leaves every operation on another
stream as it is. -/
theorem endpoints_never_accuse (clientLimits serverLimits : WriteQueueLimits)
    (maximumStreamId : UInt64) (session : Session ν)
    (reachable : Reachable registry codec
      (fun session event => session.keepsInStep registry codec event = true) clientLimits
      serverLimits maximumStreamId session) :
    session.client.accusations = ([], []) ∧ session.server.accusations = ([], [], []) ∧
    session.client.decoder.error = none ∧ session.server.decoder.error = none ∧
    (∀ after frame rest, session.keepsInStep registry codec (.client .dispatchNext) = true →
      session.step registry codec (.client .dispatchNext) = some after →
      session.client.reader = .dispatching (frame :: rest) →
      ∀ (request : Nat) (object : PendingRequest ν),
        session.client.requests[request]? = some object → object.stream ≠ frame.header.stream →
        after.client.requests[request]? = some object) ∧
    (∀ after frame rest, session.keepsInStep registry codec (.server .dispatchNext) = true →
      session.step registry codec (.server .dispatchNext) = some after →
      session.server.reader = .dispatching (frame :: rest) →
      ∀ (invocation : Nat) (object : Invocation ν),
        session.server.invocations[invocation]? = some object →
        object.stream ≠ frame.header.stream →
        after.server.invocations[invocation]? = some object) := by
  have joined := Reachable.joined reachable
  have unaccused := Reachable.unaccused reachable
  refine ⟨unaccused.client, unaccused.server, joined.down.2, joined.up.2, ?_, ?_⟩
  · intro after frame rest allowed stepped reading request object found elsewhere
    obtain ⟨client, moved, rfl⟩ := Option.map_eq_some_iff.mp stepped
    have usable : session.client.transportOpen = true := by
      simpa [keepsInStep, reading, Reader.batch] using allowed
    simp only [ClientConnection.step, reading, Option.some.injEq] at moved
    subst moved
    exact session.client.dispatch_spares joined.consistent
      (unaccused.clientBlameless joined usable reading) found elsewhere
  · intro after frame rest _ stepped reading invocation object found elsewhere
    obtain ⟨server, moved, rfl⟩ := Option.map_eq_some_iff.mp stepped
    simp only [ServerConnection.step, reading, Option.some.injEq] at moved
    subst moved
    exact session.server.dispatch_spares joined.server.sound found elsewhere

end Runs

/-- A second request is started, the first one is cancelled, and then the reply to the
first one, which was on its way, is read. -/
def crossedReply : Option (Session fun _ : Unit => UInt8) :=
  Reachability.run (step byteRegistry byteCodec) Reachability.unguarded
    (create {} {} 0xFFFFFFFFFFFFFFFF)
    (firstReply ++ [.client (.startRequest () 6 () none), .client (.cancel 0 "operation cancelled"),
      .clientReads 23])

/-- The client fails the connection over the reply, and with it the second request. -/
theorem endpoints_never_accuse_fails :
    ∃ (session after : Session fun _ : Unit => UInt8) (frame : Frame)
      (object failed : PendingRequest fun _ : Unit => UInt8),
      Reachable byteRegistry byteCodec Reachability.unguarded {} {} 0xFFFFFFFFFFFFFFFF session ∧
      session.client.reader = .dispatching [frame] ∧
      session.step byteRegistry byteCodec (.client .dispatchNext) = some after ∧
      after.client.violations =
        [(.unknownStream, "response received for an unknown stream")] ∧
      session.client.requests[1]? = some object ∧ object.stream ≠ frame.header.stream ∧
      object.operation.state = .active ∧
      after.client.requests[1]? = some failed ∧ failed.operation.state = .failed := by
  have reads : crossedReply.bind (fun session =>
      (session.step byteRegistry byteCodec (.client .dispatchNext)).bind fun after =>
        session.client.reader.batch.head?.bind fun frame =>
          session.client.requests[1]?.bind fun object =>
            after.client.requests[1]?.map fun failed =>
              (decide (session.client.reader = .dispatching [frame]), after.client.violations,
                decide (object.stream ≠ frame.header.stream), object.operation.state,
                failed.operation.state)) =
      some (true, [(.unknownStream, "response received for an unknown stream")], true, .active,
        .failed) := by
    decide +kernel
  obtain ⟨session, reached, read⟩ := Option.bind_eq_some_iff.mp reads
  obtain ⟨after, stepped, read⟩ := Option.bind_eq_some_iff.mp read
  obtain ⟨frame, -, read⟩ := Option.bind_eq_some_iff.mp read
  obtain ⟨object, found, read⟩ := Option.bind_eq_some_iff.mp read
  obtain ⟨failed, present, facts⟩ := Option.map_eq_some_iff.mp read
  obtain ⟨reading, violations, elsewhere, active, ended⟩ :
      session.client.reader = .dispatching [frame] ∧
      after.client.violations =
        [(.unknownStream, "response received for an unknown stream")] ∧
      object.stream ≠ frame.header.stream ∧ object.operation.state = .active ∧
      failed.operation.state = .failed := by
    simpa using facts
  exact ⟨session, after, frame, object, failed, Reachability.run_reaches _ _ _ _ _ reached, reading,
    stepped, violations, found, elsewhere, active, present, ended⟩

/-- The first request is answered, and the second one is cancelled while its handler runs;
the server has read the cancellation. -/
def answeredAndCancelled : Option (Session fun _ : Unit => UInt8) :=
  Reachability.run (step byteRegistry byteCodec)
    (fun session event => session.keepsInStep byteRegistry byteCodec event = true)
    (create {} {} 0xFFFFFFFFFFFFFFFF)
    (firstReply ++ [.client (.startRequest () 6 () none), .client .writeCompleted,
      .client .resumeWriter, .clientReads 23, .client .dispatchNext, .client .dispatchNext,
      .serverReads 23, .server .dispatchNext, .server .dispatchNext,
      .client (.cancel 1 "operation cancelled"), .client .writeCompleted, .client .resumeWriter,
      .serverReads 18])

/-- The cancellation is dispatched without an accusation and leaves the first handler
alone. -/
theorem endpoints_never_accuse_cancelled :
    ∃ session after object, answeredAndCancelled = some session ∧
      session.client.accusations = ([], []) ∧ session.server.accusations = ([], [], []) ∧
      session.step byteRegistry byteCodec (.server .dispatchNext) = some after ∧
      session.server.invocations[0]? = some object ∧
      after.server.invocations[0]? = some object := by
  have reads : answeredAndCancelled.bind (fun session =>
      (session.step byteRegistry byteCodec (.server .dispatchNext)).bind fun after =>
        session.server.reader.batch.head?.bind fun frame =>
          session.server.invocations[0]?.map fun object =>
            (decide (session.server.reader = .dispatching [frame]),
              session.keepsInStep byteRegistry byteCodec (.server .dispatchNext),
              decide (object.stream ≠ frame.header.stream))) = some (true, true, true) := by
    decide +kernel
  obtain ⟨session, reached, read⟩ := Option.bind_eq_some_iff.mp reads
  obtain ⟨after, stepped, read⟩ := Option.bind_eq_some_iff.mp read
  obtain ⟨frame, -, read⟩ := Option.bind_eq_some_iff.mp read
  obtain ⟨object, found, facts⟩ := Option.map_eq_some_iff.mp read
  obtain ⟨reading, allowed, elsewhere⟩ :
      session.server.reader = .dispatching [frame] ∧
      session.keepsInStep byteRegistry byteCodec (.server .dispatchNext) = true ∧
      object.stream ≠ frame.header.stream := by
    simpa using facts
  obtain ⟨client, server, -, -, -, spares⟩ := endpoints_never_accuse byteRegistry byteCodec {} {}
    0xFFFFFFFFFFFFFFFF session (Reachability.run_reaches _ _ _ _ _ reached)
  exact ⟨session, after, object, reached, client, server, stepped, found,
    spares after frame [] allowed stepped reading 0 object found elsewhere⟩

end Session

end NoAccusations

end Rillnet
