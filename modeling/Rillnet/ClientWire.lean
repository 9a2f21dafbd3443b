import Rillnet.ClientRouting

/-!
# What a client puts on the wire

Every frame the queue of a client connection accepts is the frame of a request or
a cancellation, on the stream of one of its objects, and passes validation. The
queue gives its frames to the transport in the order in which it accepted them.
-/

namespace Rillnet

section Wire

variable {τ : Type} {ν : τ → Type}

/-- A cancellation frame carries the flag that a server looks for. -/
theorem ClientConnection.cancellationFrame_cancels (stream : StreamId) :
    hasFlag (ClientConnection.cancellationFrame stream).header.flags .cancel = true := by
  change hasFlag (.cancel ||| .endOfStream) .cancel = true
  decide

/-- A cancellation on a stream passes every check. -/
theorem ClientConnection.cancellationFrame_valid (stream : StreamId) (assigned : stream.value ≠ 0) :
    validateFrame (ClientConnection.cancellationFrame stream) = .none := by
  have flags : (ClientConnection.cancellationFrame stream).header.flags = .cancel ||| .endOfStream :=
    rfl
  refine valid_frame _ rfl rfl ?_ ?_ assigned rfl (Nat.zero_le _)
  · rw [flags]
    decide
  · rw [flags]
    decide

namespace Ledger

/-- What is accepted belongs to an object. -/
def Outgoing (ledger : Ledger ν) (frame : Frame) : Prop :=
  ∃ (request : Nat) (object : PendingRequest ν), ledger.requests[request]? = some object ∧
    (RequestFrame frame object.stream ∨ frame = ClientConnection.cancellationFrame object.stream)

/-- The frame of a request and its cancellation both pass validation, since the stream of
an object is never zero. -/
theorem Outgoing.valid {ledger : Ledger ν} {frame : Frame} (outgoing : ledger.Outgoing frame)
    (consistent : ledger.Consistent) : validateFrame frame = .none := by
  obtain ⟨request, object, found, framed | rfl⟩ := outgoing
  · exact framed.valid
  · exact ClientConnection.cancellationFrame_valid _ (consistent.assigned request object found)

/-- The offer that goes with giving up a request. -/
theorem accept_offered (accepted : List Frame) {offered : List Frame} {stream : StreamId}
    (kind : offered = [] ∨ offered = [ClientConnection.cancellationFrame stream]) :
    accepted ++ offered = accepted ∨
      accepted ++ offered = accepted ++ [ClientConnection.cancellationFrame stream] := by
  rcases kind with rfl | rfl
  · exact Or.inl (List.append_nil _)
  · exact Or.inr rfl

variable [DecidableEq τ] {registry : MessageRegistry τ} {codec : Codec τ ν}
variable {permits : Ledger ν → Change → Prop} {before after : Ledger ν}

/-- A change accepts nothing, the frame of a starting request, or a
cancellation. -/
theorem Step.accepted (step : Step registry codec permits before after) :
    after.accepted = before.accepted ∨
    (∃ (request : Nat) (object : PendingRequest ν) (frame : Frame),
      before.requests[request]? = some object ∧ object.owner = .starting ∧
      RequestFrame frame object.stream ∧ after = before.submit request object frame) ∨
    ∃ (request : Nat) (object : PendingRequest ν), before.requests[request]? = some object ∧
      after.accepted = before.accepted ++ [ClientConnection.cancellationFrame object.stream] := by
  cases step with
  | admitted request object frame permitted found starting framed =>
    exact Or.inr (Or.inl ⟨request, object, frame, found, starting, framed, rfl⟩)
  | abandoned request object operation result release offered permitted found fails kind =>
    rcases accept_offered before.accepted kind with same | joined
    · exact Or.inl same
    · exact Or.inr (Or.inr ⟨request, object, found, joined⟩)
  | rejected request object operation result release offered frame permitted found entry fails kind
      open_ silent =>
    rcases accept_offered before.accepted kind with same | joined
    · exact Or.inl same
    · exact Or.inr (Or.inr ⟨request, object, found, joined⟩)
  | failed after permitted fails =>
    obtain ⟨_, _, _, _, _, _, rfl⟩ := fails
    exact Or.inl rfl
  | allocated | registered | suspended | refused | refusedLate | touched | dropped | returned
  | completed | accused | charged => exact Or.inl rfl

/-- A change keeps what was accepted in the name of an object. -/
theorem Outgoing.kept {frame : Frame} (outgoing : before.Outgoing frame)
    (step : Step registry codec permits before after) : after.Outgoing frame := by
  obtain ⟨request, object, found, kind⟩ := outgoing
  obtain ⟨new, reread, evolves⟩ := step.evolves found
  exact ⟨request, new, reread, evolves.stream ▸ kind⟩

/-- A change of the ledger accepts frames of its objects only, and no object loses its
stream. -/
theorem Step.outgoing (step : Step registry codec permits before after)
    (outgoing : ∀ frame ∈ before.accepted, before.Outgoing frame) :
    ∀ frame ∈ after.accepted, after.Outgoing frame := by
  intro frame member
  rcases step.accepted with same | ⟨request, object, sent, found, -, framed, rfl⟩ |
    ⟨request, object, found, joined⟩
  · exact (outgoing frame (same ▸ member)).kept step
  · rcases List.mem_append.mp member with earlier | last
    · exact (outgoing frame earlier).kept step
    · obtain rfl := List.mem_singleton.mp last
      exact Outgoing.kept ⟨request, object, found, Or.inl framed⟩ step
  · rw [joined] at member
    rcases List.mem_append.mp member with earlier | last
    · exact (outgoing frame earlier).kept step
    · obtain rfl := List.mem_singleton.mp last
      exact Outgoing.kept ⟨request, object, found, Or.inr rfl⟩ step

/-- Over all changes of one event the accepted frames stay those of the objects. -/
theorem Steps.outgoing (steps : Steps registry codec permits before after)
    (outgoing : ∀ frame ∈ before.accepted, before.Outgoing frame) :
    ∀ frame ∈ after.accepted, after.Outgoing frame := by
  induction steps with
  | refl => exact outgoing
  | tail _ step inductionHypothesis => exact step.outgoing inductionHypothesis

end Ledger

namespace ClientConnection

variable (client : ClientConnection ν) (request : Nat)

/-- The finishing methods of an operation send nothing. -/
@[simp] theorem finishOperation_queue (call : Operation StreamId → Operation StreamId × Bool) :
    (client.finishOperation request call).1.writeQueue = client.writeQueue := by
  unfold finishOperation
  split <;> rfl

/-- Entering a request in the map does not touch the queue. -/
@[simp] theorem emplacePending_queue (stream : StreamId) :
    (client.emplacePending stream request).writeQueue = client.writeQueue := by
  unfold emplacePending
  split <;> rfl

/-- Leaving the map sends nothing: whether a cancellation follows is decided elsewhere. -/
@[simp] theorem cleanupPending_queue (release : Bool) :
    (client.cleanupPending request release).writeQueue = client.writeQueue := by
  unfold cleanupPending
  split
  · rfl
  · dsimp only
    split <;> split <;> rfl

/-- A request that fails is not cancelled at the peer. -/
@[simp] theorem failRequest_queue (status : StatusCode) (message : String) (release : Bool) :
    (client.failRequest request status message release).writeQueue = client.writeQueue := by
  simp [failRequest, modifyRequest]

/-- No round of the loop that fails the requests sends anything. -/
theorem failPendingLoop_queue (status : StatusCode) (message : String) (fuel : Nat)
    (client : ClientConnection ν) :
    (failPendingLoop status message fuel client).writeQueue = client.writeQueue := by
  induction fuel generalizing client with
  | zero => rfl
  | succ fuel inductionHypothesis =>
    unfold failPendingLoop
    split
    · rfl
    · rw [inductionHypothesis, failRequest_queue]

/-- Failing every request sends nothing. -/
@[simp] theorem failPending_queue (status : StatusCode) (message : String) :
    (client.failPending status message).writeQueue = client.writeQueue :=
  failPendingLoop_queue status message _ client

/-- Reporting the end of the connection does not touch the queue. -/
@[simp] theorem notifyClosed_queue : client.notifyClosed.writeQueue = client.writeQueue := by
  unfold notifyClosed
  split <;> rfl

/-- Recording an ended stream does not touch the queue. -/
@[simp] theorem markTerminal_queue (frame : Frame) :
    (client.markTerminal frame).writeQueue = client.writeQueue := by
  unfold markTerminal
  split <;> rfl

/-- A response that is delivered is not answered. -/
@[simp] theorem deliver_queue (frame : Frame) :
    (client.deliver request frame).writeQueue = client.writeQueue := by
  simp [deliver, modifyRequest]

/-- A connection that fails its peer sends nothing more: the transport is closed. -/
@[simp] theorem failConnection_queue (status : StatusCode) (message : String) :
    (client.failConnection status message).writeQueue = client.writeQueue := by
  unfold failConnection
  dsimp only
  split
  · exact failPending_queue _ _ _
  · exact failPending_queue _ _ _

/-- The end of `shutdown` leaves the queue to its writer. -/
@[simp] theorem finishShutdown_queue : client.finishShutdown.writeQueue = client.writeQueue := by
  rw [finishShutdown, notifyClosed_queue]
  change (if client.pending.entries.isEmpty then client
    else client.failPending .connectionClosed "connection drain period expired").writeQueue = _
  split
  · rfl
  · exact failPending_queue _ _ _

/-- Waiting for the pending requests leaves the queue to its writer. -/
@[simp] theorem drain_queue (expired : Bool) :
    (client.drain expired).writeQueue = client.writeQueue := by
  unfold drain
  split
  · exact finishShutdown_queue client
  · rfl

section Conserving

variable (conserves : client.writeQueue.Conserves)
include conserves

/-- A cancellation is offered without waiting, like any other frame. -/
theorem sendCancellation_conserves (stream : StreamId) :
    (client.sendCancellation stream).writeQueue.Conserves :=
  client.writeQueue.tryEnqueueFrame_conserves _ conserves

/-- Giving a request up offers at most a cancellation. -/
theorem abandonPending_conserves : (client.abandonPending request).writeQueue.Conserves := by
  unfold abandonPending
  rw [cleanupPending_queue]
  exact client.sendCancellation_conserves conserves _

/-- A request whose deadline passed is given up, or was over before. -/
theorem timeoutPending_conserves : (client.timeoutPending request).writeQueue.Conserves := by
  unfold timeoutPending
  dsimp only
  split
  · exact abandonPending_conserves _ request (by simpa using conserves)
  · simpa using conserves

/-- A request that the application cancels is given up, or was over before. -/
theorem cancelPending_conserves (message : String) :
    (client.cancelPending request message).1.writeQueue.Conserves := by
  unfold cancelPending
  dsimp only
  split
  · exact abandonPending_conserves _ request (by simpa using conserves)
  · simpa using conserves

/-- A handle that is destroyed gives its request up, or only cleans its entry. -/
theorem discardPending_conserves : (client.discardPending request).writeQueue.Conserves := by
  unfold discardPending
  dsimp only
  rw [cleanupPending_queue]
  split
  · exact conserves
  · exact sendCancellation_conserves _ (by simpa using conserves) _

/-- Of all the ways a frame is routed only a cancelled request offers a frame. -/
theorem dispatch_conserves (frame : Frame) : (client.dispatch frame).writeQueue.Conserves := by
  unfold dispatch
  split
  · simpa using conserves
  · split
    · simpa using conserves
    · split
      · simpa using conserves
      · split
        · rw [markTerminal_queue]
          exact client.cancelPending_conserves _ conserves _
        · split
          · split
            · simpa using conserves
            · simpa using conserves
          · dsimp only
            split
            · simpa using conserves
            · simpa using conserves

/-- The end of reading closes the queue; what it holds stays in order. -/
theorem finishReading_conserves : client.finishReading.writeQueue.Conserves := by
  rw [finishReading, notifyClosed_queue]
  change (client.failPending .connectionClosed
    "connection closed while awaiting a response").writeQueue.close.Conserves
  rw [failPending_queue]
  exact client.writeQueue.close_conserves conserves

/-- The reader waits for bytes or ends. -/
theorem continueReading_conserves : client.continueReading.writeQueue.Conserves := by
  unfold continueReading
  split
  · exact conserves
  · exact client.finishReading_conserves conserves

/-- The end of a batch is the end of reading, or the wait for the next read. -/
theorem endBatch_conserves : client.endBatch.writeQueue.Conserves := by
  unfold endBatch
  split
  · exact finishReading_conserves _ (by simpa using conserves)
  · exact client.continueReading_conserves conserves

omit conserves in
/-- What becomes of a request after its frame was offered concerns the queue no more. -/
theorem finishStart_queue (sent : WriteResult) :
    (client.finishStart request sent).writeQueue = client.writeQueue := by
  unfold finishStart
  split
  · rfl
  · exact failRequest_queue _ _ _ _ _

omit conserves in
/-- After an offer the queue is the one the offer left behind. -/
theorem afterOffer_queue (offered : WriteQueue × Option WriteResult) :
    (client.afterOffer request offered).writeQueue = offered.1 := by
  unfold afterOffer
  split
  · rfl
  · exact finishStart_queue _ _ _

/-- A new request offers one frame, or returns before it offers any. -/
theorem startRequest_conserves [DecidableEq τ] (registry : MessageRegistry τ) (codec : Codec τ ν)
    (type : τ) (value : ν type) (response : τ) (deadline : Option Deadline) :
    (client.startRequest registry codec type value response deadline).writeQueue.Conserves := by
  unfold startRequest
  split
  · exact conserves
  · dsimp only
    split
    · exact conserves
    · split
      · exact conserves
      · rw [afterOffer_queue]
        apply WriteQueue.enqueue_conserves
        change (ClientConnection.emplacePending _ _ _).writeQueue.Conserves
        rw [emplacePending_queue]
        exact conserves

end Conserving

section Runs

variable [DecidableEq τ] {registry : MessageRegistry τ} {codec : Codec τ ν}

/-- Every event but the loop over frames keeps the queue in order: it offers a frame, lets
the writer go on, or does not touch the queue. -/
theorem act_conserves (event : ClientEvent ν) (after : ClientConnection ν)
    (conserves : client.writeQueue.Conserves)
    (acts : client.Acts registry codec event after) : after.writeQueue.Conserves := by
  cases acts with
  | run =>
    have same : client.run.writeQueue = client.writeQueue := by
      unfold run
      dsimp only
      split <;> rfl
    exact same ▸ conserves
  | startWriter queue started => exact (client.writeQueue.run_effect queue started).2.2 conserves
  | startReader => exact client.continueReading_conserves conserves
  | startRequest type value response deadline =>
    exact client.startRequest_conserves conserves registry codec type value response deadline
  | resumeEnqueue request queue result resumed =>
    rw [afterOffer_queue]
    exact client.writeQueue.resumeEnqueue_conserves request queue result conserves resumed
  | abortEnqueue request message queue aborted =>
    exact (client.writeQueue.abortEnqueue_kept request message queue aborted).2.2 conserves
  | cancel request message => exact client.cancelPending_conserves request conserves message
  | timerExpires request => exact conserves
  | timerExpired request => exact timeoutPending_conserves _ request conserves
  | timerCancelled request => exact conserves
  | destroyHandle request => exact client.discardPending_conserves request conserves
  | asyncWait request => exact conserves
  | resumeWait request wait object posted =>
    change (cleanupPending _ request true).writeQueue.Conserves
    rw [cleanupPending_queue]
    exact conserves
  | abortWait request wait => exact conserves
  | received bytes => exact conserves
  | endOfFile closes => exact finishReading_conserves _ conserves
  | readFailed closes => exact finishReading_conserves _ conserves
  | shutdown expired =>
    have same : (client.shutdown expired).writeQueue = client.writeQueue := by
      rw [shutdown, drain_queue]
      unfold beginShutdown
      dsimp only
      split <;> split <;> rfl
    exact same ▸ conserves
  | drainTick expired aborted =>
    have same : (client.drainTick expired aborted).writeQueue = client.writeQueue := by
      unfold drainTick
      dsimp only
      split <;> simp
    exact same ▸ conserves
  | resumeWriter queue resumed =>
    exact (client.writeQueue.resumeRun_effect queue resumed).2.2 conserves
  | writeCompleted queue frame completed =>
    exact (client.writeQueue.writeCompleted_effect queue frame completed).2.2 conserves
  | writeFailed what queue failed =>
    exact (client.writeQueue.writeFailed_effect what queue failed).2.2 conserves

/-- Every step keeps the queue in order. -/
theorem step_conserves (event : ClientEvent ν) (after : ClientConnection ν)
    (conserves : client.writeQueue.Conserves)
    (stepped : client.step registry codec event = some after) : after.writeQueue.Conserves := by
  cases client.step_advances stepped with
  | dispatches frame rest reading => exact dispatch_conserves (client.notify _) conserves frame
  | leaves reading => exact client.endBatch_conserves conserves
  | acts _ acts => exact client.act_conserves event after conserves acts

/-- What holds of the frames a connection accepts and gives to its transport. -/
structure Wired (client : ClientConnection ν) : Prop where
  conserves : client.writeQueue.Conserves
  transmits : client.shell.Transmits
  outgoing : ∀ frame ∈ client.writeQueue.accepted, client.ledger.Outgoing frame

omit [DecidableEq τ] in
/-- A new connection has an empty queue and sends nothing. -/
theorem create_wired (limits : WriteQueueLimits) (maximumStreamId : UInt64) :
    (create limits maximumStreamId : ClientConnection ν).Wired where
  conserves := WriteQueue.create_conserves limits
  transmits := ⟨List.prefix_rfl, fun _ => rfl⟩
  outgoing := by simp [create]

/-- Every step keeps the wire in order. -/
theorem Wired.step {client : ClientConnection ν} (wired : client.Wired)
    (consistent : client.ledger.Consistent) {event : ClientEvent ν} {after : ClientConnection ν}
    (stepped : client.step registry codec event = some after) : after.Wired where
  conserves := client.step_conserves event after wired.conserves stepped
  transmits := (client.step_turn event after consistent stepped).transmits wired.transmits
  outgoing := (client.step_steps event after consistent stepped).outgoing wired.outgoing

/-- In every reachable state the queue is in order and holds frames of the connection's
own requests. -/
theorem Reachable.wired {guard : ClientConnection ν → ClientEvent ν → Prop}
    {limits : WriteQueueLimits} {maximumStreamId : UInt64} {client : ClientConnection ν}
    (reachable : Reachable registry codec guard limits maximumStreamId client) : client.Wired := by
  apply Reachability.Reaches.invariant_of_reached Wired (create_wired limits maximumStreamId) ?_
    reachable
  intro before event after reached wired _ stepped
  exact wired.step (Reachable.consistent reached) stepped

end Runs

end ClientConnection

end Wire

end Rillnet
