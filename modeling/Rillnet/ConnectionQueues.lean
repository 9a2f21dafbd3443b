import Rillnet.ClientWire
import Rillnet.ServerDraining

/-!
# The queues of the connections

Of the steps of a connection three drive the writer: it is resumed, its write is
complete, or its write failed. All other steps offer frames, let producers go on, start
the writer or close the queue. What these keep, they keep in every queue of a connection;
in particular they leave the frame that is being written and the frames written
completely as they are.
-/

namespace Rillnet

namespace WriteQueue

/-- Whatever happens to a queue apart from its writer keeps the property, if producers
enqueue such frames only. -/
structure Undriven (enqueues : Nat → Frame → Prop) (property : WriteQueue → Prop) : Prop where
  tried : ∀ queue frame, property queue → property (queue.tryEnqueue frame).1
  enqueued : ∀ queue producer frame, enqueues producer frame → property queue →
    property (queue.enqueue producer frame).1
  resumed : ∀ queue producer after result, queue.resumeEnqueue producer = some (after, result) →
    property queue → property after
  aborted : ∀ queue producer message after, queue.abortEnqueue producer message = some after →
    property queue → property after
  closed : ∀ queue, property queue → property queue.close
  started : ∀ queue after, queue.run = some after → property queue → property after

/-- The frame that is being written. -/
def underWrite (queue : WriteQueue) : Option Frame :=
  match queue.writer with
  | .writing frame => some frame
  | _ => none

section Writing

variable {queue : WriteQueue} {enqueues : Nat → Frame → Prop}

/-- A queue whose writer was waiting and is no more has nothing under write. -/
theorem written_whole {after : WriteQueue} (idle : queue.writer = .receiving)
    (resumed : ∃ hand, after.writer = .resumed hand) (written : after.written = queue.written) :
    after.underWrite = queue.underWrite ∧ after.completed = queue.completed := by
  obtain ⟨hand, stage⟩ := resumed
  simp [underWrite, completed, stage, idle, written]

/-- Where the writer and what it was given stay the same, so does the frame under write. -/
theorem same_writer {after : WriteQueue} (stage : after.writer = queue.writer)
    (written : after.written = queue.written) :
    after.underWrite = queue.underWrite ∧ after.completed = queue.completed := by
  simp [underWrite, completed, stage, written]

/-- Only the writer waits on the channel, and it does so between two frames. -/
theorem Conserves.waiting_receiver (conserves : queue.Conserves) (waits : queue.channel.waiting ≠ []) :
    queue.writer = .receiving := by
  by_contra other
  rw [conserves.receiver, if_neg other] at waits
  exact waits rfl

/-- An offer reaches a writer that waits, or the buffer; it never touches a write in
progress. -/
theorem tryEnqueue_underWrite (conserves : queue.Conserves) (frame : Frame) :
    (queue.tryEnqueue frame).1.underWrite = queue.underWrite ∧
      (queue.tryEnqueue frame).1.completed = queue.completed := by
  unfold tryEnqueue tryEnqueueFrame
  dsimp only
  split
  · exact ⟨rfl, rfl⟩
  · cases sent : queue.channel.trySend frame with
    | none => exact ⟨rfl, rfl⟩
    | some taken =>
      obtain ⟨channel, receiver⟩ := taken
      cases receiver with
      | none => exact same_writer rfl rfl
      | some receiver =>
        have waiting := (queue.channel.trySend_handed channel frame receiver sent).2.1
        have idle := conserves.waiting_receiver (by rw [waiting]; exact List.cons_ne_nil _ _)
        exact written_whole idle ⟨some frame, rfl⟩ rfl

/-- One attempt of an `enqueue` leaves a write in progress alone. -/
theorem offer_underWrite (conserves : queue.Conserves) (producer : Nat) (frame : Frame) :
    (queue.offer producer frame).1.underWrite = queue.underWrite ∧
      (queue.offer producer frame).1.completed = queue.completed := by
  have tried := tryEnqueue_underWrite conserves frame
  unfold offer
  dsimp only
  split
  · exact tried
  · split
    · exact tried
    · exact tried

/-- A queue is closed behind a write in progress. -/
theorem close_underWrite (conserves : queue.Conserves) :
    queue.close.underWrite = queue.underWrite ∧ queue.close.completed = queue.completed := by
  by_cases waits : queue.channel.waiting = []
  · exact same_writer (by simp [close, waits]) rfl
  · have idle := conserves.waiting_receiver waits
    exact written_whole idle ⟨none, by simp [close, waits]⟩ rfl

/-- A writer that asks for the next frame has written all it was given. -/
theorem receiveNext_underWrite (queue : WriteQueue) : queue.receiveNext.underWrite = none ∧
    queue.receiveNext.completed = queue.written := by
  unfold receiveNext
  cases asked : queue.channel.receive () with
  | mk channel reception => cases reception <;> exact ⟨rfl, rfl⟩

/-- A writer that starts has written nothing. -/
theorem run_underWrite {after : WriteQueue} (started : queue.run = some after) :
    after.underWrite = queue.underWrite ∧ after.completed = queue.completed := by
  unfold run at started
  split at started
  · rename_i fresh
    obtain rfl := Option.some.inj started
    obtain ⟨none, whole⟩ := queue.receiveNext_underWrite
    refine ⟨none.trans ?_, whole.trans ?_⟩
    · simp [underWrite, fresh]
    · simp [completed, fresh]
  · simp at started

/-- Only the writer's own progress changes what is being written and what is written
completely. -/
theorem undriven_underWrite (frame : Option Frame) (frames : List Frame) :
    Undriven enqueues fun queue =>
      queue.Conserves ∧ queue.underWrite = frame ∧ queue.completed = frames where
  tried := by
    rintro queue offered ⟨conserves, rfl, rfl⟩
    exact ⟨queue.tryEnqueueFrame_conserves offered conserves, tryEnqueue_underWrite conserves offered⟩
  enqueued := by
    rintro queue producer offered - ⟨conserves, rfl, rfl⟩
    refine ⟨queue.enqueue_conserves producer offered conserves, ?_⟩
    unfold enqueue
    split
    · exact ⟨rfl, rfl⟩
    · exact offer_underWrite conserves producer offered
  resumed := by
    rintro queue producer after result resumed ⟨conserves, rfl, rfl⟩
    refine ⟨queue.resumeEnqueue_conserves producer after result conserves resumed, ?_⟩
    have left : (queue.leave producer).Conserves := ⟨conserves.frames, conserves.receiver⟩
    unfold resumeEnqueue at resumed
    split at resumed
    · rename_i offered found
      obtain rfl := congrArg Prod.fst (Option.some.inj resumed)
      exact offer_underWrite left producer offered
    · obtain rfl := congrArg Prod.fst (Option.some.inj resumed)
      exact ⟨rfl, rfl⟩
    · simp at resumed
  aborted := by
    rintro queue producer message after aborted ⟨conserves, rfl, rfl⟩
    refine ⟨(queue.abortEnqueue_kept producer message after aborted).2.2 conserves, ?_⟩
    unfold abortEnqueue at aborted
    split at aborted
    · obtain rfl := Option.some.inj aborted
      exact ⟨rfl, rfl⟩
    · simp at aborted
  closed := by
    rintro queue ⟨conserves, rfl, rfl⟩
    exact ⟨queue.close_conserves conserves, close_underWrite conserves⟩
  started := by
    rintro queue after started ⟨conserves, rfl, rfl⟩
    exact ⟨(queue.run_effect after started).2.2 conserves, run_underWrite started⟩

/-- Only the resumed writer gives frames to the transport. -/
theorem undriven_written (frames : List Frame) :
    Undriven enqueues fun queue => queue.written = frames where
  tried := fun queue frame kept => (queue.tryEnqueueFrame_written frame).trans kept
  enqueued := fun queue producer frame _ kept =>
    (queue.enqueue_effect producer frame).same_written.trans kept
  resumed := by
    intro queue producer after result resumed kept
    obtain ⟨frame, -, offered⟩ := queue.resumeEnqueue_effect producer after result resumed
    exact offered.same_written.trans kept
  aborted := fun queue producer message after aborted kept =>
    (queue.abortEnqueue_kept producer message after aborted).2.1.trans kept
  closed := fun _ kept => kept
  started := fun queue after started kept => (queue.run_effect after started).2.1.trans kept

/-- The resumed writer returns, or begins to write the frame in its hand. -/
theorem resumeRun_underWrite {after : WriteQueue} (resumed : queue.resumeRun = some after) :
    queue.underWrite = none ∧ after.completed = queue.completed ∧
      (after.underWrite = none ∧ queue.inHand = [] ∨
        ∃ frame, after.underWrite = some frame ∧ queue.inHand = [frame]) := by
  unfold resumeRun at resumed
  split at resumed
  · rename_i stage
    obtain rfl := Option.some.inj resumed
    refine ⟨by simp [underWrite, stage], ?_, Or.inl ⟨rfl, by simp [inHand, stage]⟩⟩
    simp [completed, stage, WriteResult.ok, WriteResult.success]
  · rename_i frame stage
    obtain rfl := Option.some.inj resumed
    refine ⟨by simp [underWrite, stage], ?_, Or.inr ⟨frame, rfl, by simp [inHand, stage]⟩⟩
    simp [completed, stage]
  · simp at resumed

/-- The frame of a completed write joins those written completely. -/
theorem Driven.writeCompleted_underWrite (driven : queue.Driven) {after : WriteQueue} {frame : Frame}
    (completed : queue.writeCompleted = some (after, frame)) :
    queue.underWrite = some frame ∧ after.underWrite = none ∧
      after.completed = queue.completed ++ [frame] := by
  unfold writeCompleted at completed
  split at completed
  · rename_i writing stage
    obtain ⟨rfl, rfl⟩ : queue.receiveNext = after ∧ writing = frame := by simpa using completed
    obtain ⟨none, whole⟩ := queue.receiveNext_underWrite
    obtain ⟨front, last⟩ := List.getLast?_eq_some_iff.mp (driven.writing writing stage)
    refine ⟨by simp [underWrite, stage], none, whole.trans ?_⟩
    simp [WriteQueue.completed, stage, last]
  · simp at completed

/-- The frame of a failed write does not. -/
theorem writeFailed_underWrite {after : WriteQueue} {what : String}
    (failed : queue.writeFailed what = some after) :
    after.underWrite = none ∧ after.completed = queue.completed := by
  unfold writeFailed at failed
  split at failed
  · rename_i frame stage
    obtain rfl := Option.some.inj failed
    simp [underWrite, completed, stage, WriteResult.ok, WriteResult.failure]
  · simp at failed

/-- What every step of a queue keeps is kept apart from its writer too. -/
theorem undriven_of_step {fails : Prop} {property : WriteQueue → Prop}
    (kept : ∀ before after, Step fails before after → property before → property after) :
    Undriven enqueues property where
  tried := fun _ frame => kept _ _ (.tried frame)
  enqueued := fun _ producer frame _ => kept _ _ (.enqueued producer frame)
  resumed := fun _ producer after result resumed => kept _ _ (.resumed producer after result resumed)
  aborted := fun _ producer message after aborted => kept _ _ (.aborted producer message after aborted)
  closed := fun _ => kept _ _ .closed
  started := fun _ after started => kept _ _ (.started after started)

end Writing

end WriteQueue

section Connections

variable {τ : Type} {ν : τ → Type} {property : WriteQueue → Prop}
variable {enqueues : Nat → Frame → Prop} (undriven : WriteQueue.Undriven enqueues property)

/-- The events that drive the writer. -/
def ClientEvent.drives : ClientEvent ν → Bool
  | .resumeWriter | .writeCompleted | .writeFailed _ => true
  | _ => false

/-- The events that drive the writer of a server are the same. -/
def ServerEvent.drives : ServerEvent ν → Bool
  | .resumeWriter | .writeCompleted | .writeFailed _ => true
  | _ => false

namespace ClientConnection

variable (client : ClientConnection ν) (request : Nat)

/-- The encoded request that a step enqueues for the object it makes. -/
inductive Enqueues [DecidableEq τ] (registry : MessageRegistry τ) (codec : Codec τ ν) :
    ClientEvent ν → Nat → Frame → Prop where
  | startRequest (type : τ) (value : ν type) (response : τ) (deadline : Option Deadline)
      (stream : StreamId) (frame : Frame)
      (allocation : client.streamIds.allocate.2.stream = some stream)
      (encoded : (encodeMessage registry codec type value stream).frame = some frame) :
      Enqueues registry codec (.startRequest type value response deadline) client.requests.length
        frame

section Keeping

include undriven
variable (holds : property client.writeQueue)
include holds

/-- A cancellation is one offer without waiting. -/
theorem sendCancellation_keeps (stream : StreamId) :
    property (client.sendCancellation stream).writeQueue :=
  undriven.tried _ _ holds

/-- Giving a request up is one offer at most. -/
theorem abandonPending_keeps : property (client.abandonPending request).writeQueue := by
  unfold abandonPending
  rw [cleanupPending_queue]
  exact client.sendCancellation_keeps undriven holds _

/-- So is a deadline that passes, which gives the request up or finds it over. -/
theorem timeoutPending_keeps : property (client.timeoutPending request).writeQueue := by
  unfold timeoutPending
  dsimp only
  split
  · exact abandonPending_keeps undriven _ request (by simpa using holds)
  · simpa using holds

/-- So is a cancellation by the application. -/
theorem cancelPending_keeps (message : String) :
    property (client.cancelPending request message).1.writeQueue := by
  unfold cancelPending
  dsimp only
  split
  · exact abandonPending_keeps undriven _ request (by simpa using holds)
  · simpa using holds

/-- So is the end of a handle. -/
theorem discardPending_keeps : property (client.discardPending request).writeQueue := by
  unfold discardPending
  dsimp only
  rw [cleanupPending_queue]
  split
  · exact holds
  · exact sendCancellation_keeps undriven _ (by simpa using holds) _

/-- Routing a frame offers nothing, unless the frame cancels its request. -/
theorem dispatch_keeps (frame : Frame) : property (client.dispatch frame).writeQueue := by
  unfold dispatch
  split
  · simpa using holds
  · split
    · simpa using holds
    · split
      · simpa using holds
      · split
        · rw [markTerminal_queue]
          exact client.cancelPending_keeps undriven _ holds _
        · split
          · split
            · simpa using holds
            · simpa using holds
          · dsimp only
            split
            · simpa using holds
            · simpa using holds

/-- The end of reading closes the queue, after the requests were failed. -/
theorem finishReading_keeps : property client.finishReading.writeQueue := by
  rw [finishReading, notifyClosed_queue]
  change property (client.failPending .connectionClosed
    "connection closed while awaiting a response").writeQueue.close
  rw [failPending_queue]
  exact undriven.closed _ holds

/-- The reader waits, or ends and closes the queue. -/
theorem continueReading_keeps : property client.continueReading.writeQueue := by
  unfold continueReading
  split
  · exact holds
  · exact client.finishReading_keeps undriven holds

/-- A batch ends with another read or with the end of reading. -/
theorem endBatch_keeps : property client.endBatch.writeQueue := by
  unfold endBatch
  split
  · exact finishReading_keeps undriven _ (by simpa using holds)
  · exact client.continueReading_keeps undriven holds

/-- A new request enqueues the frame its value was encoded to, on behalf of its own object. -/
theorem startRequest_keeps [DecidableEq τ] (registry : MessageRegistry τ) (codec : Codec τ ν)
    (type : τ) (value : ν type) (response : τ) (deadline : Option Deadline)
    (offers : ∀ producer frame, client.Enqueues registry codec
      (.startRequest type value response deadline) producer frame → enqueues producer frame) :
    property (client.startRequest registry codec type value response deadline).writeQueue := by
  unfold startRequest
  split
  · exact holds
  · dsimp only
    split
    · exact holds
    · rename_i stream allocation
      split
      · exact holds
      · rename_i frame encoded
        rw [afterOffer_queue]
        apply undriven.enqueued
        · exact offers _ _ (.startRequest type value response deadline stream frame allocation encoded)
        change property (ClientConnection.emplacePending _ _ _).writeQueue
        rw [emplacePending_queue]
        exact holds

variable [DecidableEq τ] {registry : MessageRegistry τ} {codec : Codec τ ν}

/-- A step that does not drive the writer keeps what the rest of the queue keeps. -/
theorem step_keeps {event : ClientEvent ν} {after : ClientConnection ν}
    (offers : ∀ producer frame, client.Enqueues registry codec event producer frame →
      enqueues producer frame)
    (other : event.drives = false) (stepped : client.step registry codec event = some after) :
    property after.writeQueue := by
  cases client.step_advances stepped with
  | dispatches frame rest reading => exact dispatch_keeps undriven (client.notify _) holds frame
  | leaves reading => exact client.endBatch_keeps undriven holds
  | acts _ acts =>
    cases acts with
    | run =>
      have same : client.run.writeQueue = client.writeQueue := by
        unfold run
        dsimp only
        split <;> rfl
      exact same ▸ holds
    | startWriter queue started => exact undriven.started _ queue started holds
    | startReader => exact client.continueReading_keeps undriven holds
    | startRequest type value response deadline =>
      exact client.startRequest_keeps undriven holds registry codec type value response deadline
        offers
    | resumeEnqueue request queue result resumed =>
      rw [afterOffer_queue]
      exact undriven.resumed _ request queue result resumed holds
    | abortEnqueue request message queue aborted =>
      exact undriven.aborted _ request message queue aborted holds
    | cancel request message => exact client.cancelPending_keeps undriven request holds message
    | timerExpires request => exact holds
    | timerExpired request => exact timeoutPending_keeps undriven _ request holds
    | timerCancelled request => exact holds
    | destroyHandle request => exact client.discardPending_keeps undriven request holds
    | asyncWait request => exact holds
    | resumeWait request wait object posted =>
      change property (cleanupPending _ request true).writeQueue
      rw [cleanupPending_queue]
      exact holds
    | abortWait request wait => exact holds
    | received bytes => exact holds
    | endOfFile closes => exact finishReading_keeps undriven _ holds
    | readFailed closes => exact finishReading_keeps undriven _ holds
    | shutdown expired =>
      have same : (client.shutdown expired).writeQueue = client.writeQueue := by
        rw [shutdown, drain_queue]
        unfold beginShutdown
        dsimp only
        split <;> split <;> rfl
      exact same ▸ holds
    | drainTick expired aborted =>
      have same : (client.drainTick expired aborted).writeQueue = client.writeQueue := by
        unfold drainTick
        dsimp only
        split <;> simp
      exact same ▸ holds
    | resumeWriter | writeCompleted | writeFailed => simp [ClientEvent.drives] at other

end Keeping

section Queueing

variable [DecidableEq τ] {registry : MessageRegistry τ} {codec : Codec τ ν}

open WriteQueue (Steps)

/-- A step of the connection is a sequence of steps of its queue. -/
theorem step_queue {event : ClientEvent ν} {after : ClientConnection ν}
    (stepped : client.step registry codec event = some after) :
    Steps (∃ what, event = .writeFailed what) client.writeQueue after.writeQueue := by
  cases drives : event.drives with
  | false =>
    exact client.step_keeps (WriteQueue.undriven_of_step fun _ _ step steps => .tail steps step)
      .refl (fun _ _ => id) drives stepped
  | true =>
    cases client.step_advances stepped with
    | dispatches | leaves => simp [ClientEvent.drives] at drives
    | acts _ acts =>
      cases acts with
      | resumeWriter queue resumed => exact .single (.taken queue resumed)
      | writeCompleted queue frame completed => exact .single (.completed queue frame completed)
      | writeFailed what queue failed => exact .single (.failed what queue ⟨what, rfl⟩ failed)
      | _ => simp [ClientEvent.drives] at drives

variable {guard : ClientConnection ν → ClientEvent ν → Prop} {limits : WriteQueueLimits}
variable {maximumStreamId : UInt64} {client}

/-- In every reachable state the queue is driven by one writer. -/
theorem Reachable.driven
    (reachable : Reachable registry codec guard limits maximumStreamId client) :
    client.writeQueue.Driven := by
  apply Reachability.Reaches.invariant (fun client : ClientConnection ν =>
    client.writeQueue.Driven) ?_ ?_ reachable
  · exact WriteQueue.create_driven limits
  · intro before event after driven _ stepped
    exact driven.steps (before.step_queue stepped)

end Queueing

end ClientConnection

namespace ServerConnection

variable (server : ServerConnection ν) (invocation : Nat)

/-- The encoded response that a step enqueues for the handler that returned it. -/
inductive Enqueues [DecidableEq τ] (registry : MessageRegistry τ) (codec : Codec τ ν) :
    ServerEvent ν → Nat → Frame → Prop where
  | handlerReturns (invocation : Nat) (object : Invocation ν) (type : τ) (value : ν type)
      (frame : Frame) (found : server.invocations[invocation]? = some object)
      (encoded : (encodeMessage registry codec type value object.stream .response).frame =
        some frame) :
      Enqueues registry codec (.handlerReturns invocation type value) invocation { frame with
        header := { frame.header with flags := frame.header.flags ||| .endOfStream } }

section Keeping

include undriven

/-- Closing an idle queue is one of the steps that keep the property. -/
theorem closeQueueWhenIdle_keeps (holds : property server.writeQueue) :
    property server.closeQueueWhenIdle.writeQueue := by
  unfold closeQueueWhenIdle
  split
  · exact undriven.closed _ holds
  · exact holds

/-- A handler that ends closes the queue at most. -/
theorem finishHandler_keeps (holds : property server.writeQueue) :
    property (server.finishHandler invocation).writeQueue := by
  unfold finishHandler
  split
  · exact holds
  · exact closeQueueWhenIdle_keeps undriven _ holds

/-- After an offer the queue is the one the offer left, or closed behind it. -/
theorem afterOffer_keeps (offered : WriteQueue × Option WriteResult) (holds : property offered.1) :
    property (server.afterOffer invocation offered).writeQueue := by
  unfold afterOffer
  dsimp only
  split
  · exact holds
  · exact finishHandler_keeps undriven _ invocation holds

variable (holds : property server.writeQueue)
include holds

/-- A frame is answered with one offer at most. -/
theorem dispatch_keeps (frame : Frame) : property (server.dispatch frame).writeQueue := by
  have refused : ∀ status, property ((server.sendOperationError frame.header.stream
      status).markTerminal frame).writeQueue := by
    intro status
    rw [markTerminal_queue]
    exact undriven.tried _ _ holds
  unfold dispatch
  split
  · exact refused _
  · split
    · simpa using holds
    · split
      · simpa using holds
      · split
        · split
          · simpa using holds
          · simpa using holds
        · split
          · exact refused _
          · split
            · exact refused _
            · unfold spawnHandler
              split
              · exact holds
              · exact holds

/-- The end of reading closes the queue if no handler is left. -/
theorem finishReading_keeps (lost : Bool) : property (server.finishReading lost).writeQueue := by
  rw [finishReading, notifyClosed_queue]
  have kept : (if lost then server.failOperationsOnConnectionClose else server).writeQueue =
      server.writeQueue := by
    split
    · exact failOperations_view writeQueue_steady.calls server
    · rfl
  exact closeQueueWhenIdle_keeps undriven { (if lost then server.failOperationsOnConnectionClose
    else server) with reading := false, reader := .finished } (kept ▸ holds)

/-- The reader waits, or ends. -/
theorem continueReading_keeps : property server.continueReading.writeQueue := by
  unfold continueReading
  split
  · exact holds
  · exact server.finishReading_keeps undriven holds false

/-- A batch ends with another read or with the end of reading. -/
theorem endBatch_keeps : property server.endBatch.writeQueue := by
  unfold endBatch
  split
  · apply finishReading_keeps undriven
    exact holds
  · exact server.continueReading_keeps undriven holds

variable [DecidableEq τ] {registry : MessageRegistry τ} {codec : Codec τ ν}

/-- A handler that starts offers an error frame at most. -/
theorem startHandler_keeps (object : Invocation ν) :
    property (server.startHandler registry codec invocation object).writeQueue := by
  unfold startHandler
  dsimp only
  split
  · exact holds
  · apply finishHandler_keeps undriven
    apply undriven.tried
    simpa using holds

/-- A handler that returns enqueues its encoded response, on behalf of its own coroutine. -/
theorem handlerReturns_keeps (object : Invocation ν) (type : τ) (value : ν type)
    (found : server.invocations[invocation]? = some object)
    (offers : ∀ producer frame, server.Enqueues registry codec
      (.handlerReturns invocation type value) producer frame → enqueues producer frame) :
    property (server.handlerReturns registry codec invocation object type value).writeQueue := by
  unfold handlerReturns
  split
  · exact server.finishHandler_keeps undriven invocation holds
  · rename_i frame encoded
    dsimp only
    split
    · apply afterOffer_keeps undriven
      apply undriven.enqueued
      · exact offers _ _ (.handlerReturns invocation object type value frame found encoded)
      simpa using holds
    · apply finishHandler_keeps undriven
      simpa using holds

/-- A step that does not drive the writer keeps what the rest of the queue keeps. -/
theorem step_keeps {event : ServerEvent ν} {after : ServerConnection ν}
    (offers : ∀ producer frame, server.Enqueues registry codec event producer frame →
      enqueues producer frame)
    (other : event.drives = false) (stepped : server.step registry codec event = some after) :
    property after.writeQueue := by
  cases server.step_advances stepped with
  | dispatches frame rest reading => exact dispatch_keeps undriven (server.notify _) holds frame
  | leaves reading => exact server.endBatch_keeps undriven holds
  | acts acts =>
    cases acts with
    | handle request response =>
      unfold handle
      split <;> exact holds
    | run =>
      have same : server.run.writeQueue = server.writeQueue := by
        unfold run
        dsimp only
        split <;> rfl
      exact same ▸ holds
    | startWriter queue started => exact undriven.started _ queue started holds
    | startReader => exact server.continueReading_keeps undriven holds
    | received bytes => exact holds
    | endOfFile closes | readFailed closes =>
      apply finishReading_keeps undriven
      exact holds
    | startHandler invocation object => exact server.startHandler_keeps undriven invocation holds _
    | handlerReturns invocation type value object found =>
      exact server.handlerReturns_keeps undriven invocation holds object type value found offers
    | handlerThrows invocation object => exact server.finishHandler_keeps undriven invocation holds
    | resumeEnqueue invocation queue result resumed =>
      exact server.afterOffer_keeps undriven invocation (queue, result)
        (undriven.resumed _ invocation queue result resumed holds)
    | abortEnqueue invocation message queue aborted =>
      exact undriven.aborted _ invocation message queue aborted holds
    | shutdown expired =>
      have same := writeQueue_steady.shutdown server expired
      exact same ▸ holds
    | drainTick expired aborted =>
      have same := writeQueue_steady.drainTick server expired aborted
      exact same ▸ holds
    | resumeWriter | writeCompleted | writeFailed => simp [ServerEvent.drives] at other

end Keeping

end ServerConnection

end Connections

end Rillnet
