import Rillnet.ClientSteps
import Rillnet.ServerSteps

/-!
# Accusations

A connection holds against its peer the protocol errors it reports to its observer
and the violations it closes the transport for. Nothing but `fail_connection`, the
refused operation of a second request on a stream, and a malformed header adds to
them, so a step adds nothing unless the frame it dispatches is to blame or the
decoder found an error.
-/

namespace Rillnet

/-- The event reports a protocol error. -/
def DiagnosticsEvent.accuses (event : DiagnosticsEvent) : Bool :=
  decide (event.type = .protocolError)

section Accusing

variable {τ : Type} {ν : τ → Type}

namespace ClientConnection

/-- The protocol errors reported, and the violations. -/
def accusations (client : ClientConnection ν) :
    List DiagnosticsEvent × List (StatusCode × String) :=
  (client.diagnostics.filter DiagnosticsEvent.accuses, client.violations)

/-- A completion handler reports no protocol error. -/
theorem completionEvent_fair (stream : StreamId) (result : OperationResult) :
    (completionEvent stream result).accuses = false := by
  unfold completionEvent DiagnosticsEvent.accuses
  dsimp only
  split
  · rfl
  · split <;> rfl

variable (client : ClientConnection ν) (request : Nat)

/-- An event that reports no protocol error adds no accusation. -/
theorem notify_accusations (event : DiagnosticsEvent) (fair : event.accuses = false) :
    (client.notify event).accusations = client.accusations := by
  simp [accusations, notify, fair]

/-- Writing the object of a request adds no accusation. -/
@[simp] theorem modifyRequest_accusations (change : PendingRequest ν → PendingRequest ν) :
    (client.modifyRequest request change).accusations = client.accusations := rfl

/-- A transition of the lifecycle adds no accusation. -/
@[simp] theorem transition_accusations (next : ConnectionState) :
    (client.transition next).accusations = client.accusations := rfl

/-- A cancellation is offered to the queue, and nobody is told of it. -/
@[simp] theorem sendCancellation_accusations (stream : StreamId) :
    (client.sendCancellation stream).accusations = client.accusations := rfl

/-- The end of an operation is reported as a completion, a cancellation or a timeout, and
never as a protocol error. -/
@[simp] theorem finishOperation_accusations
    (call : Operation StreamId → Operation StreamId × Bool) :
    (client.finishOperation request call).1.accusations = client.accusations := by
  unfold finishOperation
  split
  · rfl
  · rename_i object _
    have fair : ((Operation.notified (call object.operation)).toList.map fun report =>
        completionEvent report.1 report.2).filter DiagnosticsEvent.accuses = [] := by
      rw [List.filter_eq_nil_iff]
      intro event member
      obtain ⟨report, -, rfl⟩ := List.mem_map.mp member
      simp [completionEvent_fair]
    simp [accusations, fair]

/-- Entering a request in the map adds no accusation. -/
@[simp] theorem emplacePending_accusations (stream : StreamId) :
    (client.emplacePending stream request).accusations = client.accusations := by
  unfold emplacePending
  split <;> rfl

/-- Leaving the map reports nothing. -/
@[simp] theorem cleanupPending_accusations (release : Bool) :
    (client.cleanupPending request release).accusations = client.accusations := by
  unfold cleanupPending
  split
  · rfl
  · dsimp only
    split <;> split <;> rfl

/-- A request that is given up is ended by the client, without an accusation. -/
@[simp] theorem abandonPending_accusations :
    (client.abandonPending request).accusations = client.accusations := by
  simp [abandonPending]

/-- A deadline that passes is reported as a timeout, not as a protocol error. -/
@[simp] theorem timeoutPending_accusations :
    (client.timeoutPending request).accusations = client.accusations := by
  unfold timeoutPending
  dsimp only
  split <;> simp

/-- A request that the application cancels is reported as cancelled. -/
@[simp] theorem cancelPending_accusations (message : String) :
    (client.cancelPending request message).1.accusations = client.accusations := by
  unfold cancelPending
  dsimp only
  split <;> simp

/-- A handle that is destroyed cancels at most its own request. -/
@[simp] theorem discardPending_accusations :
    (client.discardPending request).accusations = client.accusations := by
  unfold discardPending
  dsimp only
  rw [cleanupPending_accusations]
  split <;> simp

/-- A failed request reports its status to its own observers only. -/
@[simp] theorem failRequest_accusations (status : StatusCode) (message : String)
    (release : Bool) :
    (client.failRequest request status message release).accusations = client.accusations := by
  simp [failRequest]

/-- No round of the loop that fails the requests accuses anyone; the caller did so before. -/
theorem failPendingLoop_accusations (status : StatusCode) (message : String) (fuel : Nat)
    (client : ClientConnection ν) :
    (failPendingLoop status message fuel client).accusations = client.accusations := by
  induction fuel generalizing client with
  | zero => rfl
  | succ fuel inductionHypothesis =>
    unfold failPendingLoop
    split
    · rfl
    · rw [inductionHypothesis, failRequest_accusations]

/-- Failing every request adds no accusation of its own. -/
@[simp] theorem failPending_accusations (status : StatusCode) (message : String) :
    (client.failPending status message).accusations = client.accusations :=
  failPendingLoop_accusations status message _ client

/-- The end of a connection is an event of its own. -/
@[simp] theorem notifyClosed_accusations :
    client.notifyClosed.accusations = client.accusations := by
  unfold notifyClosed
  split
  · rfl
  · exact notify_accusations _ _ rfl

/-- Recording an ended stream adds no accusation. -/
@[simp] theorem markTerminal_accusations (frame : Frame) :
    (client.markTerminal frame).accusations = client.accusations := by
  unfold markTerminal
  split <;> rfl

/-- A response that reaches its request was asked for. -/
@[simp] theorem deliver_accusations (frame : Frame) :
    (client.deliver request frame).accusations = client.accusations := by
  simp [deliver]

/-- What a frame is that is not to blame. -/
theorem blameless_frame {client : ClientConnection ν} {frame : Frame}
    (blameless : ¬ client.ledger.Blames frame) :
    frame.header.type = .response ∧ client.pending.lookup frame.header.stream ≠ none ∧
      frame.header.stream ∉ client.terminalStreams ∧
      (hasFlag frame.header.flags .error = true → decodeErrorStatus frame ≠ none) := by
  simpa [Ledger.Blames, ledger] using blameless

/-- A frame that is not to blame is routed without an accusation. -/
theorem dispatch_accusations (frame : Frame) (consistent : client.ledger.Consistent)
    (blameless : ¬ client.ledger.Blames frame) :
    (client.dispatch frame).accusations = client.accusations := by
  obtain ⟨response, listed, unmarked, decodable⟩ := blameless_frame blameless
  obtain ⟨request, entry⟩ := Option.ne_none_iff_exists'.mp listed
  obtain ⟨object, found, -, active, -⟩ := consistent.entry frame.header.stream request entry
  have committed : (client.finishOperation request fun operation =>
      operation.complete "response received").2 = true := by
    have found : client.requests[request]? = some object := found
    simp [finishOperation, found, object.operation.complete_eq, active]
  unfold dispatch
  rw [if_neg (not_not.mpr response)]
  simp only [entry, unmarked, if_false]
  split
  · simp
  · split
    · rename_i errs
      obtain ⟨status, decoded⟩ := Option.ne_none_iff_exists'.mp (decodable errs)
      simp [decoded]
    · rw [deliver_accusations, finishOperation_accusations]

/-- The end of reading fails what is pending and reports the end of the connection;
neither is a protocol error. -/
@[simp] theorem finishReading_accusations :
    client.finishReading.accusations = client.accusations := by
  rw [finishReading, notifyClosed_accusations, transition_accusations]
  exact client.failPending_accusations _ _

/-- A reader that finds the transport closed ends without a protocol error. -/
@[simp] theorem continueReading_accusations :
    client.continueReading.accusations = client.accusations := by
  unfold continueReading
  split
  · rfl
  · exact client.finishReading_accusations

/-- A request that the queue refused fails by itself. -/
@[simp] theorem finishStart_accusations (sent : WriteResult) :
    (client.finishStart request sent).accusations = client.accusations := by
  unfold finishStart
  split <;> simp

/-- What follows an offer to the queue concerns the own request only. -/
@[simp] theorem afterOffer_accusations (offered : WriteQueue × Option WriteResult) :
    (client.afterOffer request offered).accusations = client.accusations := by
  unfold afterOffer
  split
  · rfl
  · exact finishStart_accusations _ _ _

/-- A new request reports its start, and its failure if it has one. -/
@[simp] theorem startRequest_accusations [DecidableEq τ] (registry : MessageRegistry τ)
    (codec : Codec τ ν) (type : τ) (value : ν type) (response : τ) (deadline : Option Deadline) :
    (client.startRequest registry codec type value response deadline).accusations =
      client.accusations := by
  unfold startRequest
  split
  · rfl
  · dsimp only
    split
    · rfl
    · split
      · rfl
      · rw [afterOffer_accusations, notify_accusations _ _ rfl, emplacePending_accusations]
        rfl

/-- A wait that returns cleans up after its request. -/
@[simp] theorem resumeWait_accusations [DecidableEq τ] (registry : MessageRegistry τ)
    (codec : Codec τ ν) (wait : Nat) (posted : Option Frame) :
    (client.resumeWait registry codec request wait posted).accusations = client.accusations := by
  simp [resumeWait]

/-- The end of `shutdown` fails what is left with `connection_closed`, which is no
protocol error. -/
@[simp] theorem finishShutdown_accusations :
    client.finishShutdown.accusations = client.accusations := by
  rw [finishShutdown, notifyClosed_accusations, transition_accusations]
  have failed : (if client.pending.entries.isEmpty then client
      else client.failPending .connectionClosed "connection drain period expired").accusations =
      client.accusations := by
    split <;> simp
  exact failed

/-- Waiting for the pending requests adds no accusation. -/
@[simp] theorem drain_accusations (expired : Bool) :
    (client.drain expired).accusations = client.accusations := by
  unfold drain
  split
  · exact client.finishShutdown_accusations
  · rfl

/-- Entering `shutdown` adds no accusation. -/
@[simp] theorem beginShutdown_accusations :
    client.beginShutdown.accusations = client.accusations := by
  unfold beginShutdown
  dsimp only
  split <;> split <;> rfl

/-- The start of a connection reports that it is open. -/
@[simp] theorem run_accusations : client.run.accusations = client.accusations := by
  have opened : (if client.lifecycle = .created then
      ((client.transition .connecting).transition .active).notify { type := .connectionOpened }
      else client).accusations = client.accusations := by
    split
    · rw [notify_accusations _ _ rfl]
      rfl
    · rfl
  exact opened

section Steps

variable [DecidableEq τ] {registry : MessageRegistry τ} {codec : Codec τ ν}

/-- Outside the loop over frames nothing is held against the peer. -/
theorem act_accusations (event : ClientEvent ν) (after : ClientConnection ν)
    (acts : client.Acts registry codec event after) :
    after.accusations = client.accusations := by
  cases acts with
  | run => exact client.run_accusations
  | startWriter queue => rfl
  | startReader => exact client.continueReading_accusations
  | startRequest type value response deadline =>
    exact client.startRequest_accusations registry codec type value response deadline
  | resumeEnqueue request queue result => exact client.afterOffer_accusations request (queue, result)
  | abortEnqueue request message queue => rfl
  | cancel request message => exact client.cancelPending_accusations request message
  | timerExpires request => rfl
  | timerExpired request => simp
  | timerCancelled request => rfl
  | destroyHandle request => simp
  | asyncWait request => rfl
  | resumeWait request wait object posted =>
    exact client.resumeWait_accusations request registry codec wait posted
  | abortWait request wait => rfl
  | received bytes => exact notify_accusations _ _ rfl
  | endOfFile closes | readFailed closes =>
    exact finishReading_accusations _
  | shutdown expired =>
    rw [shutdown, drain_accusations, beginShutdown_accusations]
    rfl
  | drainTick expired aborted =>
    unfold drainTick
    dsimp only
    split
    · exact finishShutdown_accusations _
    · exact drain_accusations _ expired
  | resumeWriter queue => rfl
  | writeCompleted queue frame =>
    rw [notify_accusations _ _ rfl, notify_accusations _ _ rfl]
    rfl
  | writeFailed what queue => rfl

/-- A step holds nothing against the peer unless the frame it dispatches is to
blame or a header was malformed. -/
theorem step_accusations (event : ClientEvent ν) (after : ClientConnection ν)
    (consistent : client.ledger.Consistent)
    (blameless : ∀ frame rest, client.reader = .dispatching (frame :: rest) →
      ¬ client.ledger.Blames frame)
    (wellFormed : client.decoder.error = none)
    (stepped : client.step registry codec event = some after) :
    after.accusations = client.accusations := by
  cases client.step_advances stepped with
  | dispatches frame rest reading =>
    have routed := dispatch_accusations (client.notify
      { type := .messageTransferred, stream := frame.header.stream, inbound := true }) frame
      consistent (blameless frame rest reading)
    exact routed.trans (notify_accusations _ _ rfl)
  | leaves reading =>
    unfold endBatch
    rw [wellFormed]
    exact client.continueReading_accusations
  | acts _ acts => exact client.act_accusations event after acts

end Steps

end ClientConnection

namespace ServerConnection

/-- The protocol errors reported, the violations, and the streams on which a
second request came too early. -/
def accusations (server : ServerConnection ν) :
    List DiagnosticsEvent × List (StatusCode × String) × List StreamId :=
  (server.diagnostics.filter DiagnosticsEvent.accuses, server.violations, server.duplicates)

variable (server : ServerConnection ν) (invocation : Nat)

/-- An event that reports no protocol error adds no accusation. -/
theorem notify_accusations (event : DiagnosticsEvent) (fair : event.accuses = false) :
    (server.notify event).accusations = server.accusations := by
  simp [accusations, notify, fair]

/-- An error frame for one request leaves the connection unaccused. -/
@[simp] theorem sendOperationError_accusations (stream : StreamId) (status : StatusCode) :
    (server.sendOperationError stream status).accusations = server.accusations := rfl

/-- The end of an operation is reported as a completion, a cancellation or a timeout, and
never as a protocol error. -/
@[simp] theorem callOperation_accusations
    (call : Operation StreamId → Operation StreamId × Bool) :
    (server.callOperation invocation call).1.accusations = server.accusations := by
  unfold callOperation
  split
  · rfl
  · rename_i object _
    have fair : ((Operation.notified (call object.operation)).toList.map fun report =>
        ClientConnection.completionEvent report.1 report.2).filter DiagnosticsEvent.accuses =
        [] := by
      rw [List.filter_eq_nil_iff]
      intro event member
      obtain ⟨report, -, rfl⟩ := List.mem_map.mp member
      simp [ClientConnection.completionEvent_fair]
    simp [accusations, fair]

/-- Recording an ended stream adds no accusation. -/
@[simp] theorem markTerminal_accusations (frame : Frame) :
    (server.markTerminal frame).accusations = server.accusations := by
  unfold markTerminal
  split <;> rfl

/-- The end of a connection, its queue and its reader accuse nobody. -/
theorem accusations_still : Still (accusations : ServerConnection ν → _) where
  transition := fun _ _ => rfl
  closes := fun _ => rfl
  tells := by
    intro server
    unfold notifyClosed
    split
    · rfl
    · exact notify_accusations _ _ rfl
  suspends := fun _ _ => rfl
  enters := fun _ => rfl
  calls := callOperation_accusations
  opens := fun server => server.notify_accusations _ rfl
  queues := fun _ _ => rfl
  reads := fun _ _ _ => rfl

/-- A handler that ends gives its entry back and reports nothing. -/
@[simp] theorem finishHandler_accusations :
    (server.finishHandler invocation).accusations = server.accusations := by
  unfold finishHandler
  split
  · rfl
  · exact accusations_still.closeQueueWhenIdle _

/-- What follows the offer of a response concerns its own handler only. -/
@[simp] theorem afterOffer_accusations (offered : WriteQueue × Option WriteResult) :
    (server.afterOffer invocation offered).accusations = server.accusations := by
  unfold afterOffer
  dsimp only
  split
  · rfl
  · exact finishHandler_accusations _ _

section Steps

variable [DecidableEq τ] {registry : MessageRegistry τ} {codec : Codec τ ν}

/-- A request that cannot be decoded is rejected, and its peer is not accused of it. -/
@[simp] theorem startHandler_accusations (object : Invocation ν) :
    (server.startHandler registry codec invocation object).accusations = server.accusations := by
  unfold startHandler
  dsimp only
  split
  · rfl
  · simp

/-- A handler that returns settles its own operation, also where its response cannot be
encoded. -/
@[simp] theorem handlerReturns_accusations (object : Invocation ν) (type : τ) (value : ν type) :
    (server.handlerReturns registry codec invocation object type value).accusations =
      server.accusations := by
  unfold handlerReturns
  split
  · simp
  · dsimp only
    split <;> simp

/-- Outside the loop over frames nothing is held against the peer. -/
theorem act_accusations (event : ServerEvent ν) (after : ServerConnection ν)
    (acts : server.Acts registry codec event after) :
    after.accusations = server.accusations := by
  cases acts with
  | handle request response =>
    unfold handle
    split <;> rfl
  | run => exact accusations_still.run server
  | startWriter queue => rfl
  | startReader => exact accusations_still.continueReading server
  | received bytes => exact notify_accusations _ _ rfl
  | endOfFile closes | readFailed closes =>
    exact accusations_still.finishReading _ _
  | startHandler invocation object => simp
  | handlerReturns invocation type value object => simp
  | handlerThrows invocation object => simp
  | resumeEnqueue invocation queue result =>
    exact server.afterOffer_accusations invocation (queue, result)
  | abortEnqueue invocation message queue => rfl
  | shutdown expired => exact accusations_still.shutdown server expired
  | drainTick expired aborted => exact accusations_still.drainTick server expired aborted
  | resumeWriter queue => rfl
  | writeCompleted queue frame =>
    rw [notify_accusations _ _ rfl, notify_accusations _ _ rfl]
    rfl
  | writeFailed what queue => rfl

omit [DecidableEq τ] in
/-- A frame that is not to blame is routed without an accusation, and a server that
drains routes every frame so. -/
theorem dispatch_accusations (frame : Frame)
    (blameless : server.isShuttingDown = false → ¬ server.book.Blames frame) :
    (server.dispatch frame).accusations = server.accusations := by
  unfold dispatch
  cases draining : server.isShuttingDown with
  | true => simp
  | false =>
    obtain ⟨request, unmarked, listed, free⟩ :
        frame.header.type = .request ∧ frame.header.stream ∉ server.terminalStreams ∧
          (hasFlag frame.header.flags .cancel = true →
            server.operations.lookup frame.header.stream ≠ none) ∧
          (hasFlag frame.header.flags .cancel = false →
            server.operations.lookup frame.header.stream = none) := by
      simpa [Book.Blames, book] using blameless draining
    rw [if_neg (by simp), if_neg (not_not.mpr request), if_neg unmarked]
    split
    · rename_i cancels
      obtain ⟨invocation, entry⟩ := Option.ne_none_iff_exists'.mp (listed cancels)
      simp [entry]
    · rename_i plain
      split
      · simp
      · split
        · simp
        · rw [spawnHandler, free (Bool.eq_false_iff.mpr plain)]
          exact notify_accusations server _ rfl

/-- A step holds nothing against the peer unless the frame it dispatches is to
blame or a header was malformed. -/
theorem step_accusations (event : ServerEvent ν) (after : ServerConnection ν)
    (blameless : ∀ frame rest, server.reader = .dispatching (frame :: rest) →
      server.isShuttingDown = false → ¬ server.book.Blames frame)
    (wellFormed : server.decoder.error = none)
    (stepped : server.step registry codec event = some after) :
    after.accusations = server.accusations := by
  cases server.step_advances stepped with
  | dispatches frame rest reading =>
    have routed := dispatch_accusations (server.notify
      { type := .messageTransferred, stream := frame.header.stream, inbound := true }) frame
      (blameless frame rest reading)
    exact routed.trans (notify_accusations _ _ rfl)
  | leaves reading =>
    unfold endBatch
    rw [wellFormed]
    exact accusations_still.continueReading server
  | acts acts => exact server.act_accusations event after acts

end Steps

end ServerConnection

end Accusing

end Rillnet
