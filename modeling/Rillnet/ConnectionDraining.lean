import Rillnet.ClientValues
import Rillnet.QueueDraining
import Rillnet.ServerRoster

/-!
# The queues of the connections drain

The queue of a connection is regular in every reachable state: whoever waits for space is
going to be woken, the signals are closed with the queue, and a writer fails only on the
transport. What is known of an idle queue therefore holds of both connections.
-/

namespace Rillnet

namespace WriteQueue

/-- A writer that returned succeeded, or the transport failed. -/
def Judged (queue : WriteQueue) : Prop :=
  ∀ result, queue.writer = .finished result → result.ok = true ∨ queue.broken

/-- What holds of the queue of a connection. -/
structure Regular (queue : WriteQueue) : Prop where
  conserves : queue.Conserves
  driven : queue.Driven
  steady : queue.Steady
  awake : queue.Awake
  sealed : queue.Sealed
  judged : queue.Judged

section Regularity

variable {queue : WriteQueue}

/-- A writer that asks for the next frame has not returned. -/
theorem receiveNext_judged (queue : WriteQueue) : queue.receiveNext.Judged := by
  intro result finished
  simp only [receiveNext] at finished
  split at finished <;> simp at finished

/-- An offer may wake the writer, and never ends it. -/
theorem tryEnqueue_judged (judged : queue.Judged) (frame : Frame) :
    (queue.tryEnqueue frame).1.Judged := by
  simp only [tryEnqueue, tryEnqueueFrame]
  split
  · exact judged
  · split
    · exact judged
    · rename_i channel receiver _
      intro result finished
      cases receiver with
      | none => exact judged result finished
      | some receiver => simp at finished

/-- The writer returns success when the queue was closed, and an error when a write failed. -/
theorem Judged.step (judged : queue.Judged) {fails : Prop} {after : WriteQueue}
    (step : Step fails queue after) : after.Judged := by
  cases step with
  | tried frame => exact tryEnqueue_judged judged frame
  | enqueued producer frame =>
    exact (QueueRun.enqueue_outcome queue producer frame).keeps Judged judged
      (tryEnqueue_judged judged frame) fun _ _ => judged
  | resumed producer after result resumed =>
    obtain ⟨frame, -, outcome⟩ := QueueRun.resumeEnqueue_outcome _ _ _ _ resumed
    have left : (queue.leave producer).Judged := judged
    exact outcome.keeps Judged left (tryEnqueue_judged left frame) fun _ _ => left
  | aborted producer message after aborted =>
    unfold abortEnqueue at aborted
    split at aborted
    · obtain rfl := Option.some.inj aborted
      exact judged
    · simp at aborted
  | closed =>
    intro result finished
    simp only [close] at finished
    split at finished
    · rename_i stays
      rcases judged result finished with ok | ⟨what, failed⟩
      · exact Or.inl ok
      · exact Or.inr ⟨what, (if_pos stays).trans failed⟩
    · simp at finished
  | started after started =>
    unfold WriteQueue.run at started
    split at started
    · obtain rfl := Option.some.inj started
      exact receiveNext_judged queue
    · simp at started
  | taken after resumed =>
    unfold resumeRun at resumed
    split at resumed
    · obtain rfl := Option.some.inj resumed
      intro result finished
      obtain rfl : WriteResult.success = result := by simpa using finished
      exact Or.inl rfl
    · obtain rfl := Option.some.inj resumed
      intro result finished
      simp at finished
    · simp at resumed
  | completed after frame completed =>
    unfold writeCompleted at completed
    split at completed
    · obtain ⟨rfl, -⟩ := Prod.mk.inj (Option.some.inj completed)
      exact receiveNext_judged queue
    · simp at completed
  | failed what after may failed =>
    unfold writeFailed at failed
    split at failed
    · obtain rfl := Option.some.inj failed
      exact fun result finished => Or.inr ⟨what, rfl⟩
    · simp at failed

/-- A new queue is regular. -/
theorem create_regular (limits : WriteQueueLimits) : (create limits).Regular where
  conserves := create_conserves limits
  driven := create_driven limits
  steady := create_steady limits
  awake := by
    intro _ call frame waiting
    simp [create] at waiting
  sealed := rfl
  judged := by
    intro result finished
    simp [create] at finished

/-- A step keeps a queue regular if it keeps the signals in order. -/
theorem Regular.step (regular : queue.Regular) (fails : Prop) {after : WriteQueue}
    (step : Step fails queue after) (signals : after.Steady ∧ after.Awake) : after.Regular where
  conserves := step.conserves regular.conserves
  driven := regular.driven.step step
  steady := signals.1
  awake := signals.2
  sealed := regular.sealed.step step
  judged := regular.judged.step step

/-- A call that is not suspended may enqueue. -/
theorem Regular.enqueue (regular : queue.Regular) {producer : Nat} (frame : Frame)
    (fresh : queue.held producer = none) : (queue.enqueue producer frame).1.Regular :=
  regular.step False (.enqueued producer frame)
    (regular.steady.enqueue regular.awake regular.conserves regular.driven producer frame
      (Option.map_eq_none_iff.mp fresh))

/-- The writer takes the next frame, or returns. -/
theorem Regular.taken (regular : queue.Regular) {after : WriteQueue}
    (resumed : queue.resumeRun = some after) : after.Regular :=
  regular.step False (.taken after resumed)
    (regular.steady.resumeRun regular.awake resumed)

/-- A write that is complete lets the writer ask for the next frame. -/
theorem Regular.completed (regular : queue.Regular) {after : WriteQueue} {frame : Frame}
    (completed : queue.writeCompleted = some (after, frame)) : after.Regular := by
  refine regular.step False (.completed after frame completed) ?_
  unfold writeCompleted at completed
  split at completed
  · rename_i writing stage
    obtain ⟨rfl, -⟩ := Prod.mk.inj (Option.some.inj completed)
    exact ⟨regular.steady.receiveNext (by simp [inHand, stage]), regular.awake⟩
  · simp at completed

/-- A write that fails ends the writer and closes the queue. -/
theorem Regular.failed (regular : queue.Regular) {after : WriteQueue} {what : String}
    (failed : queue.writeFailed what = some after) : after.Regular :=
  regular.step True (.failed what after trivial failed)
    (regular.steady.writeFailed regular.conserves failed)

/-- Whatever the coroutines beside the writer do, apart from a new call. -/
theorem undriven_regular : Undriven (fun _ _ => False) Regular where
  tried := fun _ frame regular => regular.step False (.tried frame)
    (regular.steady.tryEnqueue regular.awake regular.conserves frame)
  enqueued := fun _ _ _ none => none.elim
  resumed := fun _ producer after result resumed regular =>
    regular.step False (.resumed producer after result resumed)
      (regular.steady.resumeEnqueue regular.awake regular.conserves regular.driven producer resumed)
  aborted := fun _ producer message after aborted regular =>
    regular.step False (.aborted producer message after aborted)
      (regular.steady.abortEnqueue regular.awake producer message aborted)
  closed := by
    intro queue regular
    refine regular.step False .closed ⟨regular.steady.close regular.conserves, ?_⟩
    intro open_
    simp [WriteQueue.close] at open_
  started := by
    intro queue after started regular
    refine regular.step False (.started after started) ?_
    unfold WriteQueue.run at started
    split at started
    · rename_i stage
      obtain rfl := Option.some.inj started
      exact ⟨regular.steady.receiveNext (by simp [inHand, stage]), regular.awake⟩
    · simp at started

/-- An idle queue has given everything it accepted to the transport, unless the transport
failed. -/
theorem Regular.idle_written (regular : queue.Regular) (idle : queue.Idle)
    (unbroken : ¬ queue.broken) : queue.written = queue.accepted := by
  rcases idle.written regular.conserves regular.driven with written | ⟨result, finished, failed⟩
  · exact written
  · rcases regular.judged result finished with ok | broken
    · simp [failed] at ok
    · exact absurd broken unbroken

/-- Nobody is suspended in an idle queue. -/
theorem Regular.idle_held (regular : queue.Regular) (idle : queue.Idle) (producer : Nat) :
    queue.held producer = none := by
  have alone := idle.alone regular.conserves regular.driven regular.steady regular.awake
    regular.sealed producer
  simp [held, alone]

end Regularity

end WriteQueue

section Suspensions

variable {τ : Type} {ν : τ → Type}

namespace Ledger

/-- The calls of `start_request` that made one of the first objects and have not returned are
suspended with their frames. -/
def Waits (ledger : Ledger ν) (made : Nat) : Prop :=
  ∀ (request : Nat) (object : PendingRequest ν), ledger.requests[request]? = some object →
    object.owner = .starting → request < made → (ledger.held request).isSome

variable [DecidableEq τ] {registry : MessageRegistry τ} {codec : Codec τ ν}
variable {permits : Ledger ν → Change → Prop} {before after : Ledger ν}

/-- A frame that is no longer held belongs to a call that has returned. -/
theorem Step.lets (step : Step registry codec permits before after) (request : Nat) :
    after.held request = before.held request ∨ (after.held request).isSome ∨
      ∀ new, after.requests[request]? = some new → new.owner ≠ .starting := by
  have returns : ∀ (place : Nat) (old other : PendingRequest ν),
      before.requests[place]? = some old → after.requests = before.requests.set place other →
      other.owner ≠ .starting → after.held = Function.update before.held place none →
      after.held request = before.held request ∨ (after.held request).isSome ∨
        ∀ new, after.requests[request]? = some new → new.owner ≠ .starting := by
    intro place old other found written returned held
    by_cases here : request = place
    · refine Or.inr (Or.inr ?_)
      intro new present
      rw [written, getElem?_set_found other found, if_pos here] at present
      exact Option.some.inj present ▸ returned
    · exact Or.inl (by rw [held, Function.update_of_ne here])
  cases step with
  | suspended place object frame found starting framed =>
    by_cases here : request = place
    · exact Or.inr (Or.inl (by simp [hold, here]))
    · exact Or.inl (by simp [hold, here])
  | admitted place object frame permitted found starting framed =>
    exact returns place object _ found rfl (by simp [PendingRequest.started]) rfl
  | refused place object operation status message found starting fails =>
    exact returns place object _ found rfl (by simp [refusedObject]) rfl
  | refusedLate place object status message found starting inactive =>
    exact returns place object _ found rfl (by simp [refusedObject]) rfl
  | failed after permitted fails =>
    obtain ⟨place, object, operation, result, -, -, rfl⟩ := fails
    exact Or.inl rfl
  | _ => exact Or.inl rfl

/-- A change leaves the older requests waiting with their frames, or ends their wait. -/
theorem Step.waits (step : Step registry codec permits before after) {made : Nat}
    (waits : before.Waits made) (bound : made ≤ before.requests.length) : after.Waits made := by
  intro request new found starting early
  have present : before.requests[request]? = some before.requests[request] :=
    List.getElem?_eq_getElem (early.trans_le bound)
  obtain ⟨other, reread, evolves⟩ := step.evolves present
  obtain rfl : new = other := Option.some.inj (found.symm.trans reread)
  have holds := waits request _ present (evolves.kept.1 starting) early
  rcases step.lets request with same | holds | returned
  · rw [same]
    exact holds
  · exact holds
  · exact absurd starting (returned new found)

/-- So do all changes of one event. -/
theorem Steps.waits (steps : Steps registry codec permits before after) {made : Nat}
    (waits : before.Waits made) (bound : made ≤ before.requests.length) : after.Waits made := by
  induction steps with
  | refl => exact waits
  | tail earlier step inductionHypothesis =>
    exact step.waits inductionHypothesis (bound.trans (Steps.grows earlier))

/-- Only a registration makes an object. -/
theorem Steps.made (steps : Steps registry codec permits before after) {request : Nat}
    {new : PendingRequest ν} (found : after.requests[request]? = some new)
    (late : before.requests.length ≤ request) :
    ∃ ledger stream, permits ledger (.registers stream) := by
  induction steps generalizing new with
  | refl =>
    rw [List.getElem?_eq_none late] at found
    simp at found
  | tail earlier step inductionHypothesis =>
    rcases step.kinds with ⟨place, object, frame, present, -, -, rfl⟩ |
      ⟨stream, response, deadline, permitted, -⟩ | ⟨origin, -⟩
    · rcases getElem?_set_cases present found with ⟨rfl, -⟩ | ⟨-, kept⟩
      · exact inductionHypothesis present
      · exact inductionHypothesis kept
    · exact ⟨_, stream, permitted⟩
    · obtain ⟨object, present, -⟩ := origin request new found
      exact inductionHypothesis present

end Ledger

namespace Book

/-- A handler that waits to be rid of its response is suspended with it. -/
def Holds (book : Book ν) : Prop :=
  ∀ (invocation : Nat) (object : Invocation ν), book.invocations[invocation]? = some object →
    object.stage = .responding → (book.held invocation).isSome

variable [DecidableEq τ] {registry : MessageRegistry τ} {codec : Codec τ ν} {draining : Prop}
variable {permits : Deed → Prop} {before after : Book ν}

omit [DecidableEq τ] in
/-- One object is written, and what the others hold stays. -/
theorem Holds.written (holds : before.Holds) {invocation : Nat} {old new : Invocation ν}
    (found : before.invocations[invocation]? = some old)
    (invocations : after.invocations = before.invocations.set invocation new)
    (others : ∀ other, other ≠ invocation → after.held other = before.held other)
    (own : new.stage = .responding → (after.held invocation).isSome) : after.Holds := by
  intro other object present responding
  rw [invocations] at present
  rcases getElem?_set_cases found present with ⟨rfl, rfl⟩ | ⟨different, kept⟩
  · exact own responding
  · rw [others other different]
    exact holds other object kept responding

/-- A handler suspends with its response and lets go of it only where it is resumed. -/
theorem Step.holding (step : Step registry codec draining permits before after)
    (holds : before.Holds) : after.Holds := by
  cases step with
  | spawned frame handler =>
    intro invocation object found responding
    rcases getElem?_append_singleton found with kept | ⟨-, rfl⟩
    · exact holds invocation object kept responding
    · simp [Invocation.spawn] at responding
  | cancelled frame invocation object permitted request found =>
    exact holds.written found rfl (fun _ _ => rfl) (holds invocation object found)
  | answered | accused => exact holds
  | started invocation object argument found =>
    exact holds.written found rfl (fun _ _ => rfl) (by simp)
  | undecodable invocation object status message offered permitted ends found =>
    exact holds.written found rfl (fun _ _ => rfl) (by simp)
  | dropped invocation object permitted ends found =>
    exact holds.written found rfl (fun _ _ => rfl) (by simp)
  | refused invocation object operation permitted ends found =>
    refine holds.written found rfl ?_ (by simp)
    intro other different
    simp [finish, hold, different]
  | suspended invocation object frame waits found =>
    refine holds.written found rfl ?_ (by simp [update, hold])
    intro other different
    simp [update, hold, different]
  | replied invocation object operation frame permitted ends found =>
    refine holds.written found rfl ?_ (by simp)
    intro other different
    simp [finish, accept, hold, different]
  | lost others length each =>
    intro invocation new found responding
    have bound : invocation < before.invocations.length :=
      length ▸ (List.getElem?_eq_some_iff.mp found).1
    have present := List.getElem?_eq_getElem bound
    rcases each invocation _ present with same | lost
    · obtain rfl := Option.some.inj (found.symm.trans same)
      exact holds invocation _ present responding
    · obtain rfl := Option.some.inj (found.symm.trans lost)
      exact holds invocation _ present responding

end Book

end Suspensions

section Connections

variable {τ : Type} {ν : τ → Type} [DecidableEq τ] {registry : MessageRegistry τ}
variable {codec : Codec τ ν} {limits : WriteQueueLimits}

open WriteQueue (undriven_regular)

namespace ClientConnection

variable {client after : ClientConnection ν}

/-- A new request enqueues on behalf of an object that nobody knew before. -/
theorem startRequest_regular (consistent : client.ledger.Consistent)
    (regular : client.writeQueue.Regular) (type : τ) (value : ν type) (response : τ)
    (deadline : Option Deadline) :
    (client.startRequest registry codec type value response deadline).writeQueue.Regular := by
  have fresh : client.writeQueue.held client.requests.length = none := by
    cases holds : client.writeQueue.held client.requests.length with
    | none => rfl
    | some frame =>
      obtain ⟨object, found, -⟩ := consistent.held _ frame holds
      change client.requests[client.requests.length]? = some object at found
      simp at found
  rcases client.startRequest_queue type value response deadline with same | ⟨frame, -, queue⟩
  · rw [same]
    exact regular
  · rw [queue]
    exact regular.enqueue frame fresh

/-- Every step of a client keeps its queue regular. -/
theorem step_regular (consistent : client.ledger.Consistent) (regular : client.writeQueue.Regular)
    {event : ClientEvent ν} (stepped : client.step registry codec event = some after) :
    after.writeQueue.Regular := by
  cases client.step_advances stepped with
  | dispatches frame rest =>
    exact dispatch_keeps undriven_regular (client.notify _) regular frame
  | leaves => exact client.endBatch_keeps undriven_regular regular
  | acts _ acts =>
    cases acts with
    | startRequest type value response deadline =>
      exact startRequest_regular consistent regular type value response deadline
    | resumeWriter queue resumed => exact regular.taken resumed
    | writeCompleted queue frame completed => exact regular.completed completed
    | writeFailed what queue failed => exact regular.failed failed
    | _ =>
      refine client.step_keeps undriven_regular regular ?_ rfl stepped
      intro producer frame enqueues
      cases enqueues

/-- In every reachable state the queue of a client is regular. -/
theorem Reachable.queue_regular {guard : ClientConnection ν → ClientEvent ν → Prop}
    {maximumStreamId : UInt64}
    (reachable : Reachable registry codec guard limits maximumStreamId client) :
    client.writeQueue.Regular := by
  apply Reachability.Reaches.invariant_of_reached
    (fun client : ClientConnection ν => client.writeQueue.Regular) ?_ ?_ reachable
  · exact WriteQueue.create_regular limits
  · intro before event after reached regular _ stepped
    exact step_regular (Reachable.consistent reached) regular stepped

/-- A failed write has closed the transport. -/
theorem Reachable.broken_closed {guard : ClientConnection ν → ClientEvent ν → Prop}
    {maximumStreamId : UInt64}
    (reachable : Reachable registry codec guard limits maximumStreamId client)
    (broken : client.writeQueue.broken) : client.transportOpen = false := by
  revert broken
  apply Reachability.Reaches.invariant_of_reached (fun client : ClientConnection ν =>
    client.writeQueue.broken → client.transportOpen = false) ?_ ?_ reachable
  · rintro ⟨what, failed⟩
    simp [create, WriteQueue.create] at failed
  · intro before event after reached closed _ stepped broken
    by_cases failing : ∃ what, event = .writeFailed what
    · obtain ⟨what, rfl⟩ := failing
      cases before.step_advances stepped with
      | acts _ acts =>
        cases acts
        rfl
    · have turn := before.step_turn event after (Reachable.consistent reached) stepped
      apply turn.severs
      apply closed
      by_contra fine
      exact (before.step_queue stepped).keeps (fun step => step.unbroken failing) fine broken

/-- If the call of `start_request` that made an object has not returned, it is suspended with
its frame. -/
def Suspends (client : ClientConnection ν) (request : Nat) : Prop :=
  ∀ object, client.requests[request]? = some object → object.owner = .starting →
    (client.writeQueue.held request).isSome

omit [DecidableEq τ] in
/-- Once the enqueue has a result, `start_request` returns. -/
theorem finishStart_returns (client : ClientConnection ν) (request : Nat) (sent : WriteResult)
    {object : PendingRequest ν}
    (found : (client.finishStart request sent).requests[request]? = some object) :
    object.owner ≠ .starting := by
  unfold finishStart at found
  split at found
  · rw [modifyRequest, List.getElem?_modify_eq] at found
    obtain ⟨old, -, rfl⟩ := Option.map_eq_some_iff.mp found
    simp
  · rw [modifyRequest, List.getElem?_modify_eq] at found
    obtain ⟨old, -, rfl⟩ := Option.map_eq_some_iff.mp found
    simp

section Length

variable (client : ClientConnection ν) (request : Nat)

omit [DecidableEq τ] in
/-- No object comes or goes with the end of an operation. -/
@[simp] theorem finishOperation_length (call : Operation StreamId → Operation StreamId × Bool) :
    (client.finishOperation request call).1.requests.length = client.requests.length := by
  unfold finishOperation
  split <;> simp

omit [DecidableEq τ] in
/-- An entry that leaves the map leaves its object behind. -/
@[simp] theorem cleanupPending_length (release : Bool) :
    (client.cleanupPending request release).requests.length = client.requests.length := by
  unfold cleanupPending
  split
  · rfl
  · dsimp only
    split <;> split <;> simp [modifyRequest]

omit [DecidableEq τ] in
/-- No object comes or goes after an offer. -/
theorem afterOffer_length (offered : WriteQueue × Option WriteResult) :
    (client.afterOffer request offered).requests.length = client.requests.length := by
  unfold afterOffer
  split
  · rfl
  · unfold finishStart
    split
    · simp [modifyRequest]
    · simp [modifyRequest, failRequest]

variable (registry codec) in
/-- A call of `start_request` makes at most one object. -/
theorem startRequest_length (type : τ) (value : ν type) (response : τ)
    (deadline : Option Deadline) :
    (client.startRequest registry codec type value response deadline).requests.length ≤
      client.requests.length + 1 := by
  unfold startRequest
  split
  · exact Nat.le_succ _
  · dsimp only
    split
    · exact Nat.le_succ _
    · split
      · exact Nat.le_succ _
      · rename_i stream _ frame _
        rw [afterOffer_length]
        unfold emplacePending
        split <;> simp [notify]

end Length

omit [DecidableEq τ] in
/-- A request stays unstarted after an offer only while the queue holds its frame. -/
theorem afterOffer_suspends (client : ClientConnection ν) (request : Nat) {before queue : WriteQueue}
    {frame : Frame} {result : Option WriteResult}
    (outcome : QueueRun.Outcome before queue request frame result) :
    (client.afterOffer request (queue, result)).Suspends request := by
  intro object found starting
  cases outcome with
  | accepted => exact absurd starting (finishStart_returns _ request _ found)
  | refused => exact absurd starting (finishStart_returns _ request _ found)
  | suspended signals producers same held =>
    change (queue.held request).isSome
    simp [held]

/-- The object of a new request is suspended with its frame, or was returned. -/
theorem startRequest_suspends (client : ClientConnection ν) (type : τ) (value : ν type)
    (response : τ) (deadline : Option Deadline) :
    (client.startRequest registry codec type value response deadline).Suspends
      client.requests.length := by
  have unmade : ∀ after : ClientConnection ν, after.requests = client.requests →
      after.Suspends client.requests.length := by
    intro after same object found
    rw [same] at found
    simp at found
  unfold startRequest
  split
  · exact unmade _ rfl
  · dsimp only
    split
    · exact unmade _ rfl
    · split
      · exact unmade _ rfl
      · exact afterOffer_suspends _ _ (QueueRun.enqueue_outcome _ _ _)

/-- After every step the calls that have not returned are suspended. -/
theorem step_suspends (consistent : client.ledger.Consistent)
    (suspends : ∀ request, client.Suspends request) {event : ClientEvent ν}
    (stepped : client.step registry codec event = some after) (request : Nat) :
    after.Suspends request := by
  intro object found starting
  have steps := client.step_steps event after consistent stepped
  by_cases early : request < client.requests.length
  · exact steps.waits (fun request object found starting _ => suspends request object found starting)
      (Nat.le_refl _) request object found starting early
  · have late : client.requests.length ≤ request := Nat.le_of_not_lt early
    obtain ⟨ledger, stream, registers⟩ := steps.made found late
    cases registers with
    | registers type value response deadline =>
      cases client.step_advances stepped with
      | acts _ acts =>
        cases acts with
        | startRequest =>
          by_cases own : request = client.requests.length
          · subst own
            exact client.startRequest_suspends type value response deadline object found starting
          · have few := client.startRequest_length registry codec type value response deadline
            have bound := (List.getElem?_eq_some_iff.mp found).1
            omega

/-- In every reachable state a request that was not returned yet is suspended with its frame. -/
theorem Reachable.suspends {guard : ClientConnection ν → ClientEvent ν → Prop}
    {maximumStreamId : UInt64}
    (reachable : Reachable registry codec guard limits maximumStreamId client) :
    ∀ request, client.Suspends request := by
  apply Reachability.Reaches.invariant_of_reached
    (fun client : ClientConnection ν => ∀ request, client.Suspends request) ?_ ?_ reachable
  · intro request object found
    simp [create] at found
  · intro before event after reached suspends _ stepped
    exact step_suspends (Reachable.consistent reached) suspends stepped

end ClientConnection

namespace ServerConnection

variable {server after : ServerConnection ν}

/-- A response is enqueued on behalf of a handler that held nothing before. -/
theorem handlerReturns_regular (sound : server.book.Sound) (regular : server.writeQueue.Regular)
    {invocation : Nat} {object : Invocation ν}
    (found : server.invocations[invocation]? = some object) (handling : object.stage = .handling)
    (type : τ) (value : ν type) :
    (server.handlerReturns registry codec invocation object type value).writeQueue.Regular := by
  have fresh : server.writeQueue.held invocation = none :=
    server.held_none sound found (by simp [handling])
  unfold handlerReturns
  split
  · exact server.finishHandler_keeps undriven_regular invocation regular
  · rename_i frame encoded
    dsimp only
    split
    · apply afterOffer_keeps undriven_regular
      rw [callOperation_queue]
      exact regular.enqueue _ fresh
    · apply finishHandler_keeps undriven_regular
      rw [callOperation_queue]
      exact regular

/-- Every step of a server keeps its queue regular. -/
theorem step_regular (sound : server.book.Sound) (regular : server.writeQueue.Regular)
    {event : ServerEvent ν} (stepped : server.step registry codec event = some after) :
    after.writeQueue.Regular := by
  cases server.step_advances stepped with
  | dispatches frame rest =>
    exact dispatch_keeps undriven_regular (server.notify _) regular frame
  | leaves => exact server.endBatch_keeps undriven_regular regular
  | acts acts =>
    cases acts with
    | handlerReturns invocation type value object found handling =>
      exact handlerReturns_regular sound regular found handling type value
    | resumeWriter queue resumed => exact regular.taken resumed
    | writeCompleted queue frame completed => exact regular.completed completed
    | writeFailed what queue failed => exact regular.failed failed
    | _ =>
      refine server.step_keeps undriven_regular regular ?_ rfl stepped
      intro producer frame enqueues
      cases enqueues

/-- In every reachable state the queue of a server is regular. -/
theorem Reachable.queue_regular {guard : ServerConnection ν → ServerEvent ν → Prop}
    (reachable : Reachable registry codec guard limits server) : server.writeQueue.Regular := by
  apply Reachability.Reaches.invariant_of_reached
    (fun server : ServerConnection ν => server.writeQueue.Regular) ?_ ?_ reachable
  · exact WriteQueue.create_regular limits
  · intro before event after reached regular _ stepped
    exact step_regular (Reachable.wired reached).sound regular stepped

/-- A handler that has not got rid of its response is suspended with it. -/
theorem Reachable.holds {guard : ServerConnection ν → ServerEvent ν → Prop}
    (reachable : Reachable registry codec guard limits server) : server.book.Holds := by
  apply Reachability.Reaches.invariant_of_reached
    (fun server : ServerConnection ν => server.book.Holds) ?_ ?_ reachable
  · intro invocation object found
    simp [create, book] at found
  · intro before event after reached holds _ stepped
    rcases before.step_book (Reachable.wired reached).sound event after stepped with same | step
    · exact same ▸ holds
    · exact step.holding holds

end ServerConnection

end Connections

end Rillnet
