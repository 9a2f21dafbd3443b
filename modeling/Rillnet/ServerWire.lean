import Rillnet.ServerSteps

/-!
# What a server puts on the wire

Every frame the queue of a server connection accepts is an error for a dispatched
frame or the reply of a handler, and passes validation, since only valid frames
are dispatched. The queue gives its frames to the transport in the order in which
it accepted them.
-/

namespace Rillnet

section Wire

variable {τ : Type} {ν : τ → Type}

/-- A connection dispatches only valid frames. -/
theorem ConnectionShell.Fed.valid {shell : ConnectionShell} {bytes : Buffer} (fed : shell.Fed bytes)
    {frame : Frame} (member : frame ∈ shell.dispatched) : validateFrame frame = .none := by
  apply (FrameGrammar.meaning_residue defaultMaxPayloadSize bytes).1 frame
  exact fed.initial.subset (List.mem_append_left _ member)

/-- Only valid frames wait to be dispatched. -/
theorem ConnectionShell.Fed.valid_batch {shell : ConnectionShell} {bytes : Buffer}
    (fed : shell.Fed bytes) {frame : Frame} (member : frame ∈ shell.reader.batch) :
    validateFrame frame = .none := by
  apply (FrameGrammar.meaning_residue defaultMaxPayloadSize bytes).1 frame
  exact fed.initial.subset (List.mem_append_right _ member)

/-- A valid frame is on an assigned stream. -/
theorem valid_stream {frame : Frame} (valid : validateFrame frame = .none) :
    frame.header.stream.value ≠ 0 := by
  intro unassigned
  have missing : frame.header.stream.isValid = false := by simp [StrongId.isValid, unassigned]
  unfold validateFrame at valid
  simp only [missing] at valid
  repeat' (split at valid <;> try simp at valid)

/-- Every accepted frame of a sound book passes validation if every dispatched
frame does. -/
theorem Book.Sound.valid {book : Book ν} (sound : book.Sound)
    (dispatched : ∀ frame ∈ book.dispatched, validateFrame frame = .none) :
    ∀ frame ∈ book.accepted, validateFrame frame = .none := by
  intro frame member
  obtain ⟨position, found⟩ := List.mem_iff_getElem?.mp member
  rcases sound.answers position frame found with ⟨request, seen, status, rfl⟩ |
    ⟨invocation, object, present, replied⟩
  · exact makeErrorFrame_valid _ status (valid_stream (dispatched request seen))
  · obtain ⟨-, reply, taken, framed⟩ := sound.reply invocation object position present replied
    obtain rfl : frame = reply := Option.some.inj (found.symm.trans taken)
    apply framed.valid
    have request := (sound.inbound invocation object present).1
    exact valid_stream (dispatched object.frame (List.mem_of_getElem? request))

namespace ServerConnection

variable (server : ServerConnection ν) (invocation : Nat)

/-- Recording an ended stream does not touch the queue. -/
@[simp] theorem markTerminal_queue (frame : Frame) :
    (server.markTerminal frame).writeQueue = server.writeQueue := by
  unfold markTerminal
  split <;> rfl

/-- Reporting the end of the connection does not touch the queue. -/
@[simp] theorem notifyClosed_queue : server.notifyClosed.writeQueue = server.writeQueue := by
  unfold notifyClosed
  split <;> rfl

/-- A connection that fails its peer sends nothing more: the transport is closed. -/
@[simp] theorem failConnection_queue (status : StatusCode) (message : String) :
    (server.failConnection status message).writeQueue = server.writeQueue := by
  unfold failConnection
  dsimp only
  split <;> rfl

/-- The queue is not touched by the end of the connection. -/
theorem writeQueue_steady : Steady (writeQueue : ServerConnection ν → WriteQueue) where
  transition := fun _ _ => rfl
  closes := fun _ => rfl
  tells := notifyClosed_queue
  suspends := fun _ _ => rfl
  enters := fun _ => rfl
  calls := fun server => server.callOperation_queue

section Queueing

open WriteQueue (Steps)

variable {fails : Prop} {start : WriteQueue} (steps : Steps fails start server.writeQueue)
include steps

/-- An error frame is one offer without waiting. -/
theorem sendOperationError_queue (stream : StreamId) (status : StatusCode) :
    Steps fails start (server.sendOperationError stream status).writeQueue :=
  steps.tail (.tried (makeErrorFrame stream status))

/-- The queue is closed, or left as it is. -/
theorem closeQueueWhenIdle_queue : Steps fails start server.closeQueueWhenIdle.writeQueue := by
  unfold closeQueueWhenIdle
  split
  · exact steps.tail .closed
  · exact steps

/-- A handler that ends closes the queue at most. -/
theorem finishHandler_queue : Steps fails start (server.finishHandler invocation).writeQueue := by
  unfold finishHandler
  split
  · exact steps
  · exact closeQueueWhenIdle_queue _ steps

/-- A frame is answered with one error frame at most; a handler answers later. -/
theorem dispatch_queue (frame : Frame) : Steps fails start (server.dispatch frame).writeQueue := by
  unfold dispatch
  split
  · rw [markTerminal_queue]
    exact server.sendOperationError_queue steps _ _
  · split
    · simpa using steps
    · split
      · simpa using steps
      · split
        · split
          · simpa using steps
          · simpa using steps
        · split
          · rw [markTerminal_queue]
            exact server.sendOperationError_queue steps _ _
          · split
            · rw [markTerminal_queue]
              exact server.sendOperationError_queue steps _ _
            · unfold spawnHandler
              split
              · exact steps
              · exact steps

/-- The end of reading closes the queue if no handler is left. -/
theorem finishReading_queue (lost : Bool) :
    Steps fails start (server.finishReading lost).writeQueue := by
  rw [finishReading, notifyClosed_queue]
  have kept : (if lost then server.failOperationsOnConnectionClose else server).writeQueue =
      server.writeQueue := by
    split
    · exact failOperations_view writeQueue_steady.calls server
    · rfl
  exact closeQueueWhenIdle_queue { (if lost then server.failOperationsOnConnectionClose
    else server) with reading := false, reader := .finished } (kept ▸ steps)

/-- The reader waits, or ends. -/
theorem continueReading_queue : Steps fails start server.continueReading.writeQueue := by
  unfold continueReading
  split
  · exact steps
  · exact server.finishReading_queue steps false

/-- A batch ends with another read or with the end of reading. -/
theorem endBatch_queue : Steps fails start server.endBatch.writeQueue := by
  unfold endBatch
  split
  · apply finishReading_queue
    exact steps
  · exact server.continueReading_queue steps

omit steps in
/-- What follows the offer of a response closes the queue at most. -/
theorem afterOffer_queue (offered : WriteQueue × Option WriteResult)
    (steps : Steps fails start offered.1) :
    Steps fails start (server.afterOffer invocation offered).writeQueue := by
  unfold afterOffer
  dsimp only
  split
  · exact steps
  · exact finishHandler_queue _ invocation steps

variable [DecidableEq τ] (registry : MessageRegistry τ) (codec : Codec τ ν)

/-- A handler that starts offers an error frame at most. -/
theorem startHandler_queue (object : Invocation ν) :
    Steps fails start (server.startHandler registry codec invocation object).writeQueue := by
  unfold startHandler
  dsimp only
  split
  · exact steps
  · apply finishHandler_queue
    apply sendOperationError_queue
    simpa using steps

/-- A handler that returns offers one response, or nothing at all. -/
theorem handlerReturns_queue (object : Invocation ν) (type : τ) (value : ν type) :
    Steps fails start
      (server.handlerReturns registry codec invocation object type value).writeQueue := by
  unfold handlerReturns
  split
  · exact server.finishHandler_queue invocation steps
  · dsimp only
    split
    · apply afterOffer_queue
      have kept : Steps fails start
          (server.callOperation invocation
            fun operation => operation.complete "response ready").1.writeQueue := by
        simpa using steps
      exact kept.tail (.enqueued invocation _)
    · apply finishHandler_queue
      simpa using steps

end Queueing

section Runs

variable [DecidableEq τ] {registry : MessageRegistry τ} {codec : Codec τ ν}

open WriteQueue (Steps)

/-- Whatever an event does to the queue is a run of the queue; a write fails in the event
that says so, and in no other. -/
theorem act_queue (event : ServerEvent ν) (after : ServerConnection ν)
    (acts : server.Acts registry codec event after) :
    Steps (∃ what, event = .writeFailed what) server.writeQueue after.writeQueue := by
  cases acts with
  | handle request response =>
    unfold handle
    split <;> exact .refl
  | run =>
    have same : server.run.writeQueue = server.writeQueue := by
      unfold run
      dsimp only
      split <;> rfl
    exact same ▸ .refl
  | startWriter queue started => exact .single (.started queue started)
  | startReader => exact server.continueReading_queue .refl
  | received bytes => exact .refl
  | endOfFile closes | readFailed closes =>
    apply finishReading_queue
    exact .refl
  | startHandler invocation object =>
    exact server.startHandler_queue invocation .refl registry codec _
  | handlerReturns invocation type value object =>
    exact server.handlerReturns_queue invocation .refl registry codec _ type value
  | handlerThrows invocation object => exact server.finishHandler_queue invocation .refl
  | resumeEnqueue invocation queue result resumed =>
    exact server.afterOffer_queue invocation (queue, result)
      (.single (.resumed invocation queue result resumed))
  | abortEnqueue invocation message queue aborted =>
    exact .single (.aborted invocation message queue aborted)
  | shutdown expired =>
    have same := writeQueue_steady.shutdown server expired
    exact same ▸ .refl
  | drainTick expired aborted =>
    have same := writeQueue_steady.drainTick server expired aborted
    exact same ▸ .refl
  | resumeWriter queue resumed => exact .single (.taken queue resumed)
  | writeCompleted queue frame completed => exact .single (.completed queue frame completed)
  | writeFailed what queue failed => exact .single (.failed what queue ⟨what, rfl⟩ failed)

/-- A step of the connection is a sequence of steps of its queue. -/
theorem step_queue (event : ServerEvent ν) (after : ServerConnection ν)
    (stepped : server.step registry codec event = some after) :
    Steps (∃ what, event = .writeFailed what) server.writeQueue after.writeQueue := by
  cases server.step_advances stepped with
  | dispatches frame rest reading => exact dispatch_queue (server.notify _) .refl frame
  | leaves reading => exact server.endBatch_queue .refl
  | acts acts => exact server.act_queue event after acts

/-- What holds of the frames a connection accepts and gives to its transport. -/
structure Wired (server : ServerConnection ν) : Prop where
  conserves : server.writeQueue.Conserves
  transmits : server.shell.Transmits
  sound : server.book.Sound

omit [DecidableEq τ] in
/-- A new connection has an empty queue and sent nothing. -/
theorem create_wired (limits : WriteQueueLimits) : (create limits : ServerConnection ν).Wired where
  conserves := WriteQueue.create_conserves limits
  transmits := ⟨List.prefix_rfl, fun _ => rfl⟩
  sound := Book.Sound.empty _ rfl rfl rfl (WriteQueue.create_held limits)

/-- Every step keeps the wire in order. -/
theorem Wired.step {server : ServerConnection ν} (wired : server.Wired) {event : ServerEvent ν}
    {after : ServerConnection ν} (stepped : server.step registry codec event = some after) :
    after.Wired where
  conserves := (server.step_queue event after stepped).conserves wired.conserves
  transmits := (server.step_turn event after stepped).transmits wired.transmits
  sound := by
    rcases server.step_book wired.sound event after stepped with same | changed
    · rw [same]
      exact wired.sound
    · exact changed.sound wired.sound

variable (registry codec) in
/-- The states a new connection reaches in the runs a guard allows. -/
def Reachable (guard : ServerConnection ν → ServerEvent ν → Prop) (limits : WriteQueueLimits) :
    ServerConnection ν → Prop :=
  Reachability.Reaches (step registry codec) guard (create limits)

variable {guard : ServerConnection ν → ServerEvent ν → Prop} {limits : WriteQueueLimits}

/-- In every reachable state the queue is in order and the accepted frames are answers. -/
theorem Reachable.wired {server : ServerConnection ν}
    (reachable : Reachable registry codec guard limits server) : server.Wired := by
  apply Reachability.Reaches.invariant Wired (create_wired limits) ?_ reachable
  intro before event after wired _ stepped
  exact wired.step stepped

/-- The bytes a reachable connection has read. -/
theorem Reachable.fed {server : ServerConnection ν}
    (reachable : Reachable registry codec guard limits server) :
    ∃ bytes, server.shell.Fed bytes := by
  apply Reachability.Reaches.invariant (fun server => ∃ bytes, server.shell.Fed bytes) ?_ ?_
    reachable
  · exact ⟨[], FrameGrammar.fresh_represents defaultMaxPayloadSize, List.prefix_rfl, fun _ _ => rfl⟩
  · rintro before event after ⟨bytes, fed⟩ _ stepped
    exact ⟨bytes ++ event.input, (before.step_turn event after stepped).fed fed⟩

end Runs

end ServerConnection

end Wire

end Rillnet
