import Rillnet.ClientShell

/-!
# What happens to one operation stays with it

A function that works on one request is confined to it: every other object, every
other entry of the map, every other allocated stream, the lifecycle and the
transport are as before, and the write queue has been offered at most the
cancellation of that request. Confined steps compose, as long as only one of them
speaks to the peer. The events of one operation are confined, unless they fail the
connection.
-/

namespace Rillnet

section Isolation

variable {τ : Type} {ν : τ → Type}

namespace Operation

variable {κ : Type} (operation : Operation κ)

/-- An operation ends on the stream on which it began. -/
theorem finish_stream (state : OperationState) (result : OperationResult) :
    (operation.finish state result).1.stream = operation.stream := by
  unfold finish
  dsimp only
  split <;> rfl

/-- Completing an operation leaves its stream. -/
theorem complete_stream (message : String) :
    (operation.complete message).1.stream = operation.stream :=
  operation.finish_stream _ _

/-- Failing an operation leaves its stream. -/
theorem fail_stream (status : StatusCode) (message : String) :
    (operation.fail status message).1.stream = operation.stream := by
  unfold fail
  split
  · rfl
  · exact operation.finish_stream _ _

/-- Cancelling an operation leaves its stream, whether it comes in time or not. -/
theorem cancel_stream (message : String) :
    (operation.cancel message).1.stream = operation.stream := by
  unfold cancel requestCancellation
  cases operation.isTerminal with
  | true => rfl
  | false => exact finish_stream _ _ _

/-- A deadline that passes leaves the stream. -/
theorem timeout_stream (message : String) :
    (operation.timeout message).1.stream = operation.stream :=
  operation.finish_stream _ _

end Operation

namespace ClientConnection

/-- A change that is confined to a request on a stream; `told` says whether the peer is
asked to stop. -/
structure Confined (request : Nat) (stream : StreamId) (told : Bool)
    (before after : ClientConnection ν) : Prop where
  others : ∀ other, other ≠ request → after.requests[other]? = before.requests[other]?
  entries : ∀ key, key ≠ stream → after.pending.lookup key = before.pending.lookup key
  allocated : ∀ value, value ≠ stream.value →
    (value ∈ after.streamIds.inUse ↔ value ∈ before.streamIds.inUse)
  lifecycle : after.lifecycle = before.lifecycle
  transport : after.transportOpen = before.transportOpen
  queue : after.writeQueue =
    if told then (before.writeQueue.tryEnqueue (cancellationFrame stream)).1
    else before.writeQueue
  home : before.streamOf request = stream → after.streamOf request = stream

variable {request : Nat} {stream : StreamId} {told : Bool}
variable {client before middle after : ClientConnection ν}

/-- Nothing at all is confined to any request. -/
theorem Confined.refl : Confined request stream false client client :=
  ⟨fun _ _ => rfl, fun _ _ => rfl, fun _ _ => Iff.rfl, rfl, rfl, rfl, id⟩

/-- A silent step before another one. -/
theorem Confined.followed (first : Confined request stream false before middle)
    (second : Confined request stream told middle after) :
    Confined request stream told before after where
  others := fun other different => (second.others other different).trans (first.others other different)
  entries := fun key different => (second.entries key different).trans (first.entries key different)
  allocated := fun value different =>
    (second.allocated value different).trans (first.allocated value different)
  lifecycle := second.lifecycle.trans first.lifecycle
  transport := second.transport.trans first.transport
  queue := by
    have same : middle.writeQueue = before.writeQueue := first.queue
    rw [second.queue, same]
  home := fun here => second.home (first.home here)

/-- A silent step behind another one. -/
theorem Confined.silently (first : Confined request stream told before middle)
    (second : Confined request stream false middle after) :
    Confined request stream told before after where
  others := fun other different => (second.others other different).trans (first.others other different)
  entries := fun key different => (second.entries key different).trans (first.entries key different)
  allocated := fun value different =>
    (second.allocated value different).trans (first.allocated value different)
  lifecycle := second.lifecycle.trans first.lifecycle
  transport := second.transport.trans first.transport
  queue := by
    have same : after.writeQueue = middle.writeQueue := second.queue
    rw [same, first.queue]
  home := fun here => second.home (first.home here)

section Functions

variable (client) (request) (stream)

/-- Writing one object is confined to it, if the object stays on its stream. -/
theorem modifyRequest_confined (change : PendingRequest ν → PendingRequest ν)
    (placed : ∀ object, (change object).stream = object.stream) :
    Confined request stream false client (client.modifyRequest request change) where
  others := by
    intro other different
    simp [modifyRequest, Ne.symm different]
  entries := fun _ _ => rfl
  allocated := fun _ _ => Iff.rfl
  lifecycle := rfl
  transport := rfl
  queue := rfl
  home := by
    intro here
    rw [← here]
    simp only [streamOf, modifyRequest, List.getElem?_modify]
    cases client.requests[request]? with
    | none => rfl
    | some object => simp [placed]

/-- The finishing methods of an operation are confined to its request. -/
theorem finishOperation_confined (call : Operation StreamId → Operation StreamId × Bool)
    (placed : ∀ operation, (call operation).1.stream = operation.stream) :
    Confined request stream false client (client.finishOperation request call).1 := by
  unfold finishOperation
  split
  · exact .refl
  · rename_i object found
    refine ⟨?_, fun _ _ => rfl, fun _ _ => Iff.rfl, rfl, rfl, rfl, ?_⟩
    · intro other different
      exact List.getElem?_set_ne (Ne.symm different)
    · intro here
      have same : object.stream = stream := by simpa [streamOf, found] using here
      have kept : (call object.operation).1.stream = stream := (placed _).trans same
      simp only [streamOf, getElem?_set_found _ found, if_true, Option.map_some, Option.getD_some]
      exact kept

/-- The entry and the stream that are given up are the request's own. -/
theorem cleanupPending_confined (release : Bool) (here : client.streamOf request = stream) :
    Confined request stream false client (client.cleanupPending request release) := by
  unfold cleanupPending
  split
  · exact .refl
  · rename_i object found
    have own : object.stream = stream := by simpa [streamOf, found] using here
    have unlisted : Confined request stream false client
        (if object.removed then client else
          { client with
            requests := client.requests.set request
              { object with removed := true, timer := object.timer.cancel }
            pending :=
              if client.pending.lookup object.stream = some request then
                client.pending.erase object.stream
              else client.pending }) := by
      split
      · exact .refl
      · refine ⟨?_, ?_, fun _ _ => Iff.rfl, rfl, rfl, rfl, ?_⟩
        · intro other different
          exact List.getElem?_set_ne (Ne.symm different)
        · intro key different
          dsimp only
          split
          · exact AList.lookup_erase_ne (own ▸ different)
          · rfl
        · intro _
          simp only [streamOf, getElem?_set_found _ found, if_true, Option.map_some,
            Option.getD_some]
          exact own
    dsimp only
    split
    · have freed (other : ClientConnection ν) : Confined request stream false other
          { other.modifyRequest request fun object => { object with streamReleased := true } with
            streamIds := other.streamIds.release object.stream } := by
        have marked := other.modifyRequest_confined request stream
          (fun object => { object with streamReleased := true }) fun _ => rfl
        refine ⟨marked.others, marked.entries, ?_, rfl, rfl, rfl, marked.home⟩
        intro value different
        dsimp only
        unfold StreamIdAllocator.release
        dsimp only
        split
        · rfl
        · split
          · rw [Finset.mem_erase, own]
            exact and_iff_right different
          · rfl
      exact unlisted.followed (freed _)
    · exact unlisted

/-- Recording an ended stream reaches no request at all. -/
theorem markTerminal_confined (frame : Frame) :
    Confined request stream false client (client.markTerminal frame) := by
  unfold markTerminal
  split
  · exact ⟨fun _ _ => rfl, fun _ _ => rfl, fun _ _ => Iff.rfl, rfl, rfl, rfl, id⟩
  · exact .refl

/-- A cancellation is the one frame a confined change may send. -/
theorem sendCancellation_confined :
    Confined request stream true client (client.sendCancellation stream) :=
  ⟨fun _ _ => rfl, fun _ _ => rfl, fun _ _ => Iff.rfl, rfl, rfl, rfl, id⟩

/-- Closing the channel of a request is confined to it. -/
theorem closeChannel_confined :
    Confined request stream false client
      (client.modifyRequest request PendingRequest.closeChannel) :=
  client.modifyRequest_confined request stream _ fun _ => rfl

variable (here : client.streamOf request = stream)
include here

/-- A request fails in silence. -/
theorem failRequest_confined (status : StatusCode) (message : String) (release : Bool) :
    Confined request stream false client (client.failRequest request status message release) := by
  have failed := client.finishOperation_confined request stream
    (fun operation => operation.fail status message) fun operation =>
      operation.fail_stream status message
  have closed := failed.silently (closeChannel_confined request stream _)
  exact closed.silently (cleanupPending_confined request stream _ release (closed.home here))

/-- A request that is given up tells the peer. -/
theorem abandonPending_confined :
    Confined request stream true client (client.abandonPending request) := by
  have told := client.sendCancellation_confined request stream
  have closed := told.silently (closeChannel_confined request stream _)
  have cleaned := closed.silently
    (cleanupPending_confined request stream _ false (closed.home here))
  rw [← here] at cleaned ⊢
  exact cleaned

/-- A deadline that passes concerns its request only, and the peer if it came in time. -/
theorem timeoutPending_confined :
    ∃ told, Confined request stream told client (client.timeoutPending request) := by
  have finished := client.finishOperation_confined request stream
    (fun operation => operation.timeout "operation deadline exceeded") fun operation =>
      operation.timeout_stream _
  unfold timeoutPending
  dsimp only
  split
  · exact ⟨true, finished.followed (abandonPending_confined request stream _ (finished.home here))⟩
  · exact ⟨false, finished⟩

/-- A cancellation concerns its request only, and the peer if it came in time. -/
theorem cancelPending_confined (message : String) :
    ∃ told, Confined request stream told client (client.cancelPending request message).1 := by
  have finished := client.finishOperation_confined request stream
    (fun operation => operation.cancel message) fun operation => operation.cancel_stream message
  unfold cancelPending
  dsimp only
  split
  · exact ⟨true, finished.followed (abandonPending_confined request stream _ (finished.home here))⟩
  · exact ⟨false, finished⟩

/-- The end of a handle concerns its request only, and the peer if it was active. -/
theorem discardPending_confined :
    ∃ told, Confined request stream told client (client.discardPending request) := by
  have finished := client.finishOperation_confined request stream
    (fun operation => operation.cancel "operation handle released") fun operation =>
      operation.cancel_stream _
  unfold discardPending
  dsimp only
  split
  · exact ⟨false, client.cleanupPending_confined request stream true here⟩
  · rw [here]
    have told := finished.followed (sendCancellation_confined request stream _)
    have closed := told.silently (closeChannel_confined request stream _)
    exact ⟨true, closed.silently
      (cleanupPending_confined request stream _ true (closed.home here))⟩

/-- A response reaches the request on its stream and no other. -/
theorem deliver_confined (frame : Frame) :
    Confined request stream false client (client.deliver request frame) := by
  have sent := client.modifyRequest_confined request stream
    (fun object => { object with timer := object.timer.cancel }.trySend client.dispatched.length
      frame) fun object => by rw [PendingRequest.trySend_stream]; rfl
  have cleaned := sent.silently (cleanupPending_confined request stream _ true (sent.home here))
  exact cleaned.silently (markTerminal_confined request stream _ frame)

omit here in
/-- Failing the connection is on record. -/
theorem failConnection_violations (status : StatusCode) (message : String) :
    (client.failConnection status message).violations ≠ client.violations := by
  have recorded := congrArg ConnectionShell.violations (client.failConnection_shell status message)
  change (client.failConnection status message).violations =
    client.violations ++ [(status, message)] at recorded
  rw [recorded]
  simp

/-- A frame for a listed request that does not fail the connection is confined. -/
theorem dispatch_confined (frame : Frame)
    (entry : client.pending.lookup frame.header.stream = some request)
    (spared : (client.dispatch frame).violations = client.violations) :
    ∃ told, Confined request stream told client (client.dispatch frame) := by
  unfold dispatch at spared ⊢
  split at spared
  · exact absurd spared (client.failConnection_violations _ _)
  · rename_i response
    rw [if_neg response]
    simp only [entry] at spared ⊢
    split at spared
    · exact absurd spared (client.failConnection_violations _ _)
    · rename_i unmarked
      rw [if_neg unmarked]
      split
      · obtain ⟨told, confined⟩ :=
          client.cancelPending_confined request stream here "operation cancelled by peer"
        exact ⟨told, confined.silently (markTerminal_confined request stream _ frame)⟩
      · rename_i kept
        rw [if_neg kept] at spared
        split
        · rename_i errs
          rw [if_pos errs] at spared
          cases decoded : decodeErrorStatus frame with
          | none =>
            simp only [decoded] at spared
            exact absurd spared (client.failConnection_violations _ _)
          | some status =>
            have failed := client.failRequest_confined request stream here status
              "peer rejected the operation" true
            exact ⟨false, failed.silently (markTerminal_confined request stream _ frame)⟩
        · rename_i plain
          rw [if_neg plain] at spared
          have finished := client.finishOperation_confined request stream
            (fun operation => operation.complete "response received") fun operation =>
              operation.complete_stream _
          split
          · exact ⟨false, finished.silently (deliver_confined request stream _
              (finished.home here) frame)⟩
          · rename_i refused
            rw [if_neg refused] at spared
            have same : (client.finishOperation request fun operation =>
                operation.complete "response received").1.violations = client.violations :=
              congrArg ConnectionShell.violations (client.finishOperation_shell request _)
            rw [← same] at spared
            exact absurd spared (failConnection_violations _ _ _)

end Functions

/-- An event of the operation on a stream: the wish to cancel it, the expiry of its
deadline, the loss of its handle, or a frame for it. -/
def actsOn (client : ClientConnection ν) (request : Nat) (stream : StreamId) :
    ClientEvent ν → Bool
  | .cancel target _ | .timerExpires target | .timerHandler target | .destroyHandle target =>
    decide (target = request)
  | .dispatchNext => client.reader.batch.head?.any fun frame => decide (frame.header.stream = stream)
  | _ => false

variable [DecidableEq τ] {registry : MessageRegistry τ} {codec : Codec τ ν}

/-- Outside the loop over frames the events of one operation are confined. -/
theorem act_confined {event : ClientEvent ν} (own : client.actsOn request stream event = true)
    (here : client.streamOf request = stream)
    (acts : client.Acts registry codec event after) :
    ∃ told, Confined request stream told client after := by
  cases acts with
  | cancel target message =>
    obtain rfl : target = request := of_decide_eq_true own
    exact client.cancelPending_confined target stream here message
  | timerExpires target =>
    obtain rfl : target = request := of_decide_eq_true own
    exact ⟨false, client.modifyRequest_confined target stream _ fun _ => rfl⟩
  | timerExpired target =>
    obtain rfl : target = request := of_decide_eq_true own
    have handled := client.modifyRequest_confined target stream
      (fun object => { object with timer := .done }) fun _ => rfl
    obtain ⟨told, confined⟩ := timeoutPending_confined target stream _ (handled.home here)
    exact ⟨told, handled.followed confined⟩
  | timerCancelled target =>
    obtain rfl : target = request := of_decide_eq_true own
    exact ⟨false, client.modifyRequest_confined target stream _ fun _ => rfl⟩
  | destroyHandle target =>
    obtain rfl : target = request := of_decide_eq_true own
    obtain ⟨told, confined⟩ := client.discardPending_confined target stream here
    exact ⟨told, confined.silently (modifyRequest_confined target stream _ _ fun _ => rfl)⟩
  | _ => simp [actsOn] at own

/-- Every event of one operation that does not fail the connection is confined. -/
theorem step_confined {event : ClientEvent ν}
    (entry : client.pending.lookup stream = some request)
    (here : client.streamOf request = stream) (own : client.actsOn request stream event = true)
    (stepped : client.step registry codec event = some after)
    (spared : event = .dispatchNext → after.violations = client.violations) :
    ∃ told, Confined request stream told client after := by
  cases client.step_advances stepped with
  | dispatches frame rest reading =>
    have placed : frame.header.stream = stream := by
      simpa [actsOn, reading, Reader.batch] using own
    let noted := client.notify
      { type := .messageTransferred, stream := frame.header.stream, inbound := true }
    obtain ⟨told, confined⟩ := noted.dispatch_confined request stream here frame
      (placed ▸ entry) (spared rfl)
    exact ⟨told, confined.others, confined.entries, confined.allocated, confined.lifecycle,
      confined.transport, confined.queue, confined.home⟩
  | leaves reading => simp [actsOn, reading, Reader.batch] at own
  | acts _ acts => exact act_confined own here acts

/-- Isolation. In every reachable state an event of the operation on a listed stream that
does not fail the connection leaves every other request object, every other entry of the
map, every other allocated stream, the lifecycle and the transport unchanged, and offers
the write queue at most the cancellation of that stream. -/
theorem operation_isolated {limits : WriteQueueLimits} {maximumStreamId : UInt64}
    (reachable : Reachable registry codec Reachability.unguarded limits maximumStreamId client)
    {event : ClientEvent ν} (entry : client.pending.lookup stream = some request)
    (own : client.actsOn request stream event = true)
    (stepped : client.step registry codec event = some after)
    (spared : event = .dispatchNext → after.violations = client.violations) :
    (∀ other, other ≠ request → after.requests[other]? = client.requests[other]?) ∧
    (∀ key, key ≠ stream → after.pending.lookup key = client.pending.lookup key) ∧
    (∀ value, value ≠ stream.value →
      (value ∈ after.streamIds.inUse ↔ value ∈ client.streamIds.inUse)) ∧
    after.lifecycle = client.lifecycle ∧ after.transportOpen = client.transportOpen ∧
    (after.writeQueue = client.writeQueue ∨
      after.writeQueue = (client.writeQueue.tryEnqueue (cancellationFrame stream)).1) := by
  obtain ⟨object, found, placed, -, -⟩ := reachable.consistent.entry stream request entry
  have here : client.streamOf request = stream := by
    have found : client.requests[request]? = some object := found
    simp [streamOf, found, placed]
  obtain ⟨told, confined⟩ := step_confined entry here own stepped spared
  refine ⟨confined.others, confined.entries, confined.allocated, confined.lifecycle,
    confined.transport, ?_⟩
  cases told with
  | true => exact Or.inr confined.queue
  | false => exact Or.inl confined.queue

/-- Two requests, and the peer rejects the first. -/
def rejectedFirst : Option (ClientConnection fun _ : Unit => UInt8) :=
  Reachability.run (step byteRegistry byteCodec) Reachability.unguarded
    (create {} 0xFFFFFFFFFFFFFFFF)
    [.run, .startWriter, .startReader, .startRequest () 5 () none, .startRequest () 6 () none,
      .received (encodeFrame (makeErrorFrame ⟨1⟩ .operationError))]

/-- The second is not affected. -/
theorem operation_isolated_rejected :
    ∃ client after, rejectedFirst = some client ∧
      client.step byteRegistry byteCodec .dispatchNext = some after ∧
      client.pending.lookup ⟨3⟩ = some 1 ∧ after.pending.lookup ⟨1⟩ = none ∧
      after.pending.lookup ⟨3⟩ = client.pending.lookup ⟨3⟩ ∧
      after.transportOpen = client.transportOpen := by
  have reads : rejectedFirst.bind (fun client =>
      (client.step byteRegistry byteCodec .dispatchNext).map fun after =>
        (client.pending.lookup ⟨1⟩, client.actsOn 0 ⟨1⟩ .dispatchNext, client.pending.lookup ⟨3⟩,
          after.pending.lookup ⟨1⟩, decide (after.violations = client.violations))) =
      some (some 0, true, some 1, none, true) := by
    decide +kernel
  obtain ⟨client, reached, read⟩ := Option.bind_eq_some_iff.mp reads
  obtain ⟨after, stepped, facts⟩ := Option.map_eq_some_iff.mp read
  obtain ⟨entry, own, second, gone, spared⟩ : client.pending.lookup ⟨1⟩ = some 0 ∧
      client.actsOn 0 ⟨1⟩ .dispatchNext = true ∧ client.pending.lookup ⟨3⟩ = some 1 ∧
      after.pending.lookup ⟨1⟩ = none ∧ after.violations = client.violations := by
    simpa using facts
  obtain ⟨-, entries, -, -, transport, -⟩ := operation_isolated
    (Reachability.run_reaches _ _ _ _ _ reached) entry own stepped fun _ => spared
  exact ⟨client, after, reached, stepped, second, gone, entries ⟨3⟩ (by decide), transport⟩

end ClientConnection

end Isolation

end Rillnet
