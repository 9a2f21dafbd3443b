import Rillnet.ClientWaits
import Rillnet.ConnectionDraining
import Rillnet.ServerEndings

/-!
# How long a connection can go on by itself

A connection is served while its writer goes on, its reader starts and dispatches what was
read, its suspended enqueues try again, its handlers start and its waits return. Every such
step is paid for: by the queue, by the read loop, by a wait that has not returned, by a
handler that has not started, or by a frame that is dispatched.
-/

namespace Rillnet

/-- How often the read loop can go on without a further read, beside the frames. -/
def Reader.load : Reader → Nat
  | .spawned | .dispatching _ => 1
  | .notStarted | .awaiting | .finished => 0

section Workloads

variable {τ : Type} {ν : τ → Type}

/-- How many calls of `async_wait` have not returned. -/
def PendingRequest.outstanding (request : PendingRequest ν) : Nat :=
  request.waits - request.heard.length

namespace ClientConnection

variable (client : ClientConnection ν) (request : Nat)

/-- How many waits of every request have not returned. -/
def outstanding : List Nat := client.requests.map PendingRequest.outstanding

/-- An object may change in everything but its waits. -/
theorem modifyRequest_outstanding (change : PendingRequest ν → PendingRequest ν)
    (same : ∀ object, (change object).outstanding = object.outstanding) :
    (client.modifyRequest request change).outstanding = client.outstanding := by
  unfold outstanding modifyRequest
  apply List.ext_getElem?
  intro other
  rw [List.getElem?_map, List.getElem?_map, List.getElem?_modify]
  cases found : client.requests[other]? with
  | none => simp
  | some object =>
    by_cases here : request = other
    · simp [here, same]
    · simp [here]

/-- An object is written whose waits are those of the old one. -/
theorem set_outstanding {object : PendingRequest ν} (found : client.requests[request]? = some object)
    (new : PendingRequest ν) (same : new.outstanding = object.outstanding) :
    (client.requests.set request new).map PendingRequest.outstanding = client.outstanding := by
  rw [List.map_set, same]
  exact set_found (by rw [List.getElem?_map, found, Option.map_some])

/-- The end of an operation returns from no wait. -/
@[simp] theorem finishOperation_outstanding
    (call : Operation StreamId → Operation StreamId × Bool) :
    (client.finishOperation request call).1.outstanding = client.outstanding := by
  unfold finishOperation
  split
  · rfl
  · rename_i object found
    exact client.set_outstanding request found _ rfl

/-- Leaving the map returns from no wait. -/
@[simp] theorem cleanupPending_outstanding (release : Bool) :
    (client.cleanupPending request release).outstanding = client.outstanding := by
  unfold cleanupPending
  split
  · rfl
  · rename_i object found
    have unlisted : (if object.removed then client
        else
          { client with
            requests := client.requests.set request
              { object with removed := true, timer := object.timer.cancel }
            pending :=
              if client.pending.lookup object.stream = some request then
                client.pending.erase object.stream
              else client.pending }).outstanding = client.outstanding := by
      split
      · rfl
      · exact client.set_outstanding request found _ rfl
    dsimp only
    split
    · exact (modifyRequest_outstanding _ request
        (fun object => { object with streamReleased := true }) fun _ => rfl).trans unlisted
    · exact unlisted

/-- A channel that is closed wakes its waits, which return later. -/
@[simp] theorem closeChannel_outstanding :
    (client.modifyRequest request PendingRequest.closeChannel).outstanding = client.outstanding :=
  client.modifyRequest_outstanding request _ fun _ => rfl

/-- A request that fails wakes its waits, which return later. -/
@[simp] theorem failRequest_outstanding (status : StatusCode) (message : String) (release : Bool) :
    (client.failRequest request status message release).outstanding = client.outstanding := by
  simp [failRequest]

/-- So it goes for every round of the loop that fails the requests. -/
theorem failPendingLoop_outstanding (status : StatusCode) (message : String) (fuel : Nat)
    (client : ClientConnection ν) :
    (failPendingLoop status message fuel client).outstanding = client.outstanding := by
  induction fuel generalizing client with
  | zero => rfl
  | succ fuel inductionHypothesis =>
    unfold failPendingLoop
    split
    · rfl
    · rw [inductionHypothesis, failRequest_outstanding]

/-- Failing every request returns from no wait. -/
@[simp] theorem failPending_outstanding (status : StatusCode) (message : String) :
    (client.failPending status message).outstanding = client.outstanding :=
  failPendingLoop_outstanding status message _ client

/-- Reporting the end of the connection leaves every wait as it is. -/
@[simp] theorem notifyClosed_outstanding : client.notifyClosed.outstanding = client.outstanding := by
  unfold notifyClosed
  split <;> rfl

/-- Recording an ended stream leaves every wait as it is. -/
@[simp] theorem markTerminal_outstanding (frame : Frame) :
    (client.markTerminal frame).outstanding = client.outstanding := by
  unfold markTerminal
  split <;> rfl

/-- A connection that fails leaves it to its waits to return. -/
@[simp] theorem failConnection_outstanding (status : StatusCode) (message : String) :
    (client.failConnection status message).outstanding = client.outstanding := by
  unfold failConnection
  dsimp only
  split <;> exact failPending_outstanding _ _ _

/-- So does a request that is given up. -/
@[simp] theorem abandonPending_outstanding :
    (client.abandonPending request).outstanding = client.outstanding := by
  unfold abandonPending
  rw [cleanupPending_outstanding, closeChannel_outstanding]
  rfl

/-- So does a cancellation by the application. -/
@[simp] theorem cancelPending_outstanding (message : String) :
    (client.cancelPending request message).1.outstanding = client.outstanding := by
  unfold cancelPending
  dsimp only
  split
  · rw [abandonPending_outstanding, finishOperation_outstanding]
  · exact client.finishOperation_outstanding request _

/-- A response wakes a wait, which returns later. -/
@[simp] theorem deliver_outstanding (frame : Frame) :
    (client.deliver request frame).outstanding = client.outstanding := by
  unfold deliver
  rw [markTerminal_outstanding, cleanupPending_outstanding]
  refine client.modifyRequest_outstanding request _ fun object => ?_
  unfold PendingRequest.trySend
  split <;> rfl

/-- Whatever a frame does, no wait returns in the same step. -/
theorem dispatch_outstanding (frame : Frame) :
    (client.dispatch frame).outstanding = client.outstanding := by
  unfold dispatch
  split
  · simp
  · split
    · simp
    · split
      · simp
      · split
        · simp
        · split
          · split <;> simp
          · dsimp only
            split <;> simp

/-- The end of reading returns from no wait. -/
theorem finishReading_outstanding : client.finishReading.outstanding = client.outstanding := by
  unfold finishReading
  rw [notifyClosed_outstanding]
  exact client.failPending_outstanding _ _

/-- What follows the offer of a request returns from no wait. -/
theorem afterOffer_outstanding (offered : WriteQueue × Option WriteResult) :
    (client.afterOffer request offered).outstanding = client.outstanding := by
  have started : ∀ (object : PendingRequest ν) (index : Nat),
      ({ object with owner := .handle, requestIndex := some index }.startTimer).outstanding =
        object.outstanding := by
    intro object index
    unfold PendingRequest.startTimer
    split <;> rfl
  unfold afterOffer
  split
  · rfl
  · unfold finishStart
    split
    · exact modifyRequest_outstanding _ request _ fun object => started object _
    · rename_i sent _ _
      refine (modifyRequest_outstanding _ request (fun object =>
        { object with owner := .refused sent.status sent.message }) fun _ => rfl).trans ?_
      exact failRequest_outstanding _ _ _ _ _

end ClientConnection

/-- A step is paid for out of the load: what it sends takes its weight along, and a frame
that it dispatches pays the price. -/
def ConnectionShell.Spends (weight : Frame → Nat) (price : Nat) (before after : ConnectionShell)
    (load left : Nat) : Prop :=
  ∃ frames taken, after.sent = before.sent ++ frames ∧ after.dispatched = before.dispatched ++ taken ∧
    left + (frames.map weight).sum < load + price * taken.length

section Spending

variable {weight : Frame → Nat} {price load left : Nat} {before after : ConnectionShell}

/-- A step that neither sends nor dispatches. -/
theorem ConnectionShell.Spends.still (sent : after.sent = before.sent)
    (dispatched : after.dispatched = before.dispatched) (less : left < load) :
    before.Spends weight price after load left := by
  refine ⟨[], [], ?_, ?_, ?_⟩
  · rw [sent, List.append_nil]
  · rw [dispatched, List.append_nil]
  · rw [List.map_nil, List.sum_nil, List.length_nil]
    omega

/-- A step that leaves the shell as it is pays with the load alone. -/
theorem ConnectionShell.Spends.kept (same : after = before) (less : left < load) :
    before.Spends weight price after load left :=
  .still (same ▸ rfl) (same ▸ rfl) less

/-- A step that dispatches one frame. -/
theorem ConnectionShell.Spends.seen {frame : Frame} (sent : after.sent = before.sent)
    (dispatched : after.dispatched = before.dispatched ++ [frame]) (less : left < load + price) :
    before.Spends weight price after load left := by
  refine ⟨[], [frame], ?_, dispatched, ?_⟩
  · rw [sent, List.append_nil]
  · rw [List.map_nil, List.sum_nil, List.length_singleton]
    omega

/-- A step that gives frames to the transport; at a closed transport they are lost. -/
theorem ConnectionShell.Spends.given {shell : ConnectionShell} (frames : List Frame)
    (written : List Frame) (less : left + (frames.map weight).sum < load) :
    shell.Spends weight price { shell with
      written := written
      sent := if shell.transportOpen then shell.sent ++ frames else shell.sent } load left := by
  cases usable : shell.transportOpen with
  | true => exact ⟨frames, [], rfl, (List.append_nil _).symm, less⟩
  | false => exact .still rfl rfl (Nat.lt_of_le_of_lt (Nat.le_add_right _ _) less)

end Spending

section Clients

variable [DecidableEq τ] {registry : MessageRegistry τ} {codec : Codec τ ν}

/-- The events by which a client goes on by itself. -/
def ClientEvent.serves : ClientEvent ν → Bool
  | .startWriter | .startReader | .resumeEnqueue _ | .resumeWait _ _ | .dispatchNext
  | .resumeWriter | .writeCompleted => true
  | _ => false

namespace ClientConnection

/-- How much a client can do by itself. -/
def load (weight : Frame → Nat) (client : ClientConnection ν) : Nat :=
  client.writeQueue.load weight + client.reader.load + client.outstanding.sum

variable (weight : Frame → Nat) {client after : ClientConnection ν}

omit [DecidableEq τ] in
/-- The load is read off the queue, the reader and the waits. -/
theorem load_eq (client : ClientConnection ν) {queue : WriteQueue} {reader : Reader}
    (queued : client.writeQueue = queue) (reads : client.reader = reader) :
    client.load weight = queue.load weight + reader.load + client.outstanding.sum := by
  rw [load, queued, reads]

omit [DecidableEq τ] in
/-- Bytes that arrive wake the read loop. -/
theorem received_load (awaiting : client.reader = .awaiting) (bytes : Buffer) :
    (client.received bytes).load weight = client.load weight + 1 := by
  have asleep : client.reader.load = 0 := congrArg Reader.load awaiting
  unfold load
  rw [asleep]
  change client.writeQueue.load weight + 1 + client.outstanding.sum = _
  omega

omit [DecidableEq τ] in
/-- The end of the read loop closes the queue. -/
theorem finishReading_queue (client : ClientConnection ν) :
    client.finishReading.writeQueue = client.writeQueue.close := by
  rw [finishReading, notifyClosed_queue]
  exact congrArg WriteQueue.close (client.failPending_queue _ _)

omit [DecidableEq τ] in
/-- After the end of a batch the read loop waits or is over. -/
theorem continueReading_spends (regular : client.writeQueue.Regular) :
    client.continueReading.shell.sent = client.shell.sent ∧
      client.continueReading.shell.dispatched = client.shell.dispatched ∧
      client.continueReading.load weight ≤ client.writeQueue.load weight + client.outstanding.sum := by
  unfold continueReading
  split
  · exact ⟨rfl, rfl, Nat.le_refl _⟩
  · have closed := regular.conserves.close_load weight regular.driven
    have shell_eq := client.finishReading_shell
    refine ⟨(congrArg ConnectionShell.sent shell_eq).trans rfl,
      (congrArg ConnectionShell.dispatched shell_eq).trans rfl, ?_⟩
    rw [load_eq weight _ client.finishReading_queue client.finishReading_reader,
      client.finishReading_outstanding]
    exact Nat.add_le_add_right closed _

omit [DecidableEq τ] in
/-- The end of a batch is paid for by the reader, which goes on once more. -/
theorem endBatch_spends (regular : client.writeQueue.Regular) :
    client.endBatch.shell.sent = client.shell.sent ∧
      client.endBatch.shell.dispatched = client.shell.dispatched ∧
      client.endBatch.load weight ≤ client.writeQueue.load weight + client.outstanding.sum := by
  unfold endBatch
  split
  · rename_i error _
    have closed := regular.conserves.close_load weight regular.driven
    have shell_eq := (client.failConnection (statusForFrameValidation error)
      (frameValidationMessage error)).finishReading_shell
    rw [failConnection_shell] at shell_eq
    refine ⟨(congrArg ConnectionShell.sent shell_eq).trans rfl,
      (congrArg ConnectionShell.dispatched shell_eq).trans rfl, ?_⟩
    rw [load_eq weight _ (finishReading_queue _) (finishReading_reader _), finishReading_outstanding,
      failConnection_outstanding, failConnection_queue]
    exact Nat.add_le_add_right closed _
  · exact continueReading_spends weight regular

omit [DecidableEq τ] in
/-- Unless it is a cancellation, a frame that is routed leaves the queue alone. -/
theorem dispatch_queue (client : ClientConnection ν) {frame : Frame}
    (plain : hasFlag frame.header.flags .cancel = false) :
    (client.dispatch frame).writeQueue = client.writeQueue := by
  unfold dispatch
  split
  · simp
  · split
    · simp
    · split
      · simp
      · rw [plain]
        simp only [Bool.false_eq_true, if_false]
        split
        · split <;> simp
        · split <;> simp

omit [DecidableEq τ] in
/-- A frame that asks for nothing to be sent leaves the load: the price of the frame pays
for the step. -/
theorem dispatchFrame_load (client : ClientConnection ν) {frame : Frame} {rest : List Frame}
    (reading : client.reader = .dispatching (frame :: rest))
    (plain : hasFlag frame.header.flags .cancel = false) :
    (client.dispatchFrame frame rest).load weight = client.load weight := by
  have queued : (client.dispatchFrame frame rest).writeQueue = client.writeQueue :=
    dispatch_queue (client.notify
      { type := .messageTransferred, stream := frame.header.stream, inbound := true }) plain
  have outstanding : (client.dispatchFrame frame rest).outstanding = client.outstanding :=
    dispatch_outstanding (client.notify
      { type := .messageTransferred, stream := frame.header.stream, inbound := true }) frame
  rw [load_eq weight _ queued rfl, load_eq weight client rfl reading, outstanding]
  rfl

/-- A wait that returns is outstanding no more. -/
theorem resumeWait_load (consistent : client.ledger.Consistent) {request wait : Nat}
    {object : PendingRequest ν} {posted : Option Frame}
    (found : client.requests[request]? = some object) (accounted : object.Accounted)
    (member : (wait, posted) ∈ object.resumed) :
    (client.resumeWait registry codec request wait posted).load weight < client.load weight := by
  have requests : (client.resumeWait registry codec request wait posted).requests =
      client.requests.set request (Ledger.returnedObject registry codec object wait posted) :=
    congrArg Ledger.requests (client.resumeWait_ledger wait posted consistent found)
  have queued : (client.resumeWait registry codec request wait posted).writeQueue =
      client.writeQueue := by
    simp [resumeWait, modifyRequest]
  have reads : (client.resumeWait registry codec request wait posted).reader = client.reader :=
    congrArg ConnectionShell.reader (client.resumeWait_shell request registry codec wait posted)
  have heard : (Ledger.returnedObject registry codec object wait posted).heard =
      object.heard ++ [wait] := List.map_append
  have counted := accounted.lengths
  have resumed := List.length_pos_of_mem member
  have fewer : (Ledger.returnedObject registry codec object wait posted).outstanding + 1 =
      object.outstanding := by
    unfold PendingRequest.outstanding
    rw [heard, List.length_append, List.length_singleton]
    change object.waits - (object.heard.length + 1) + 1 = _
    rw [List.length_map] at counted
    omega
  have written := Tally.sum_set PendingRequest.outstanding found
    (Ledger.returnedObject registry codec object wait posted)
  rw [load_eq weight _ queued reads, load, outstanding, outstanding, requests]
  omega

/-- Every step by which a client goes on by itself is paid for, if no cancellation comes from
the peer. -/
theorem serves_spends (consistent : client.ledger.Consistent) (regular : client.writeQueue.Regular)
    (accounted : ∀ (request : Nat) (object : PendingRequest ν),
      client.requests[request]? = some object → object.Accounted)
    (plain : ∀ frame rest, client.reader = .dispatching (frame :: rest) →
      hasFlag frame.header.flags .cancel = false)
    {event : ClientEvent ν} (serving : event.serves = true)
    (stepped : client.step registry codec event = some after) :
    client.shell.Spends weight 1 after.shell (client.load weight) (after.load weight) := by
  cases client.step_advances stepped with
  | dispatches frame rest reading =>
    have less : (client.dispatchFrame frame rest).load weight < client.load weight + 1 := by
      rw [client.dispatchFrame_load weight reading (plain frame rest reading)]
      exact Nat.lt_succ_self _
    rcases client.dispatchFrame_shell frame rest with shell_eq | ⟨violation, shell_eq⟩
    · exact .seen ((congrArg ConnectionShell.sent shell_eq).trans rfl)
        ((congrArg ConnectionShell.dispatched shell_eq).trans rfl) less
    · exact .seen ((congrArg ConnectionShell.sent shell_eq).trans rfl)
        ((congrArg ConnectionShell.dispatched shell_eq).trans rfl) less
  | leaves reading =>
    obtain ⟨sent, dispatched, load⟩ := endBatch_spends weight regular
    refine .still sent dispatched (Nat.lt_of_le_of_lt load ?_)
    rw [load_eq weight client rfl reading, Reader.load]
    omega
  | acts _ acts =>
    cases acts with
    | startWriter queue started =>
      have less := WriteQueue.run_load weight started
      refine .still rfl rfl ?_
      change queue.load weight + client.reader.load + client.outstanding.sum < client.load weight
      unfold load
      omega
    | startReader spawned =>
      obtain ⟨sent, dispatched, load⟩ := continueReading_spends weight regular
      refine .still sent dispatched (Nat.lt_of_le_of_lt load ?_)
      rw [load_eq weight client rfl spawned, Reader.load]
      omega
    | resumeEnqueue request queue result resumed =>
      have less := regular.conserves.resumeEnqueue_load weight resumed
      obtain ⟨frame, -, offered⟩ :=
        client.writeQueue.resumeEnqueue_effect request queue result resumed
      have shell_eq := client.afterOffer_shell request (queue, result) offered.same_written
      refine .kept shell_eq ?_
      rw [load_eq weight _ (client.afterOffer_queue request _)
        (congrArg ConnectionShell.reader shell_eq), client.afterOffer_outstanding]
      change queue.load weight + client.reader.load + client.outstanding.sum < client.load weight
      unfold load
      omega
    | resumeWait request wait object posted found listed =>
      obtain ⟨front, back, split, -⟩ := List.lookup_eq_some_iff.mp listed
      have member : (wait, posted) ∈ object.resumed := by simp [split]
      exact .kept (client.resumeWait_shell request registry codec wait posted)
        (resumeWait_load weight consistent found (accounted request object found) member)
    | resumeWriter queue resumed =>
      have less := regular.steady.resumeRun_load weight resumed
      have whole : queue.load weight + client.reader.load + client.outstanding.sum +
          (client.writeQueue.inHand.map weight).sum < client.load weight := by
        unfold load
        omega
      exact .given client.writeQueue.inHand _ whole
    | writeCompleted queue frame completed =>
      have less := WriteQueue.writeCompleted_load weight completed
      refine .still rfl rfl ?_
      change queue.load weight + client.reader.load + client.outstanding.sum < client.load weight
      unfold load
      omega
    | _ => simp [ClientEvent.serves] at serving

end ClientConnection

end Clients

section Servers

open WriteQueue (undriven_regular)

variable [DecidableEq τ] {registry : MessageRegistry τ} {codec : Codec τ ν}

/-- The events by which a server goes on by itself. What the handlers of the application do is
not among them. -/
def ServerEvent.serves : ServerEvent ν → Bool
  | .startWriter | .startReader | .dispatchNext | .startHandler _ | .resumeEnqueue _
  | .resumeWriter | .writeCompleted => true
  | _ => false

namespace ServerConnection

/-- How many handler coroutines have not started. -/
def waiting (server : ServerConnection ν) : Nat :=
  server.invocations.countP fun object => object.stage == .spawned

/-- How much a server can do by itself, if the start of a handler has a price. -/
def load (weight : Frame → Nat) (price : Nat) (server : ServerConnection ν) : Nat :=
  server.writeQueue.load weight + server.reader.load + price * server.waiting

section Stages

variable (server : ServerConnection ν) {invocation : Nat} {object : Invocation ν}

omit [DecidableEq τ] in
/-- A coroutine is written that is at another stage. -/
theorem modifyInvocation_waiting (change : Invocation ν → Invocation ν)
    (found : server.invocations[invocation]? = some object) :
    (server.modifyInvocation invocation change).waiting + (object.stage == .spawned).toNat =
      server.waiting + ((change object).stage == .spawned).toNat := by
  unfold waiting modifyInvocation
  rw [modify_found change found]
  exact countP_set_found (change object) found fun object => object.stage == .spawned

omit [DecidableEq τ] in
/-- The end of an operation starts no handler. -/
@[simp] theorem callOperation_waiting (invocation : Nat)
    (call : Operation StreamId → Operation StreamId × Bool) :
    (server.callOperation invocation call).1.waiting = server.waiting := by
  unfold callOperation
  split
  · rfl
  · rename_i object found
    exact Nat.add_right_cancel (countP_set_found { object with operation := (call object.operation).1 }
      found fun object => object.stage == .spawned)

omit [DecidableEq τ] in
/-- Closing the queue starts no handler. -/
@[simp] theorem closeQueueWhenIdle_waiting : server.closeQueueWhenIdle.waiting = server.waiting := by
  unfold closeQueueWhenIdle
  split <;> rfl

omit [DecidableEq τ] in
/-- Failing the operations of a lost connection starts no handler. -/
@[simp] theorem failOperations_waiting :
    server.failOperationsOnConnectionClose.waiting = server.waiting :=
  failOperations_view callOperation_waiting server

omit [DecidableEq τ] in
/-- Reporting the end of the connection starts no handler. -/
@[simp] theorem notifyClosed_waiting : server.notifyClosed.waiting = server.waiting := by
  unfold notifyClosed
  split <;> rfl

omit [DecidableEq τ] in
/-- The end of reading starts no handler. -/
@[simp] theorem finishReading_waiting (lost : Bool) :
    (server.finishReading lost).waiting = server.waiting := by
  unfold finishReading
  rw [notifyClosed_waiting]
  refine (closeQueueWhenIdle_waiting _).trans ?_
  cases lost with
  | false => rfl
  | true => exact server.failOperations_waiting

omit [DecidableEq τ] in
/-- Recording an ended stream starts no handler. -/
@[simp] theorem markTerminal_waiting (frame : Frame) :
    (server.markTerminal frame).waiting = server.waiting := by
  unfold markTerminal
  split <;> rfl

omit [DecidableEq τ] in
/-- A coroutine that ends waits no more. -/
theorem finishHandler_waiting (found : server.invocations[invocation]? = some object) :
    (server.finishHandler invocation).waiting + (object.stage == .spawned).toNat =
      server.waiting := by
  unfold finishHandler
  split
  · rename_i missing
    simp [missing] at found
  · refine (congrArg (· + _) (closeQueueWhenIdle_waiting _)).trans ?_
    exact server.modifyInvocation_waiting (fun object => { object with stage := .finished }) found

omit [DecidableEq τ] in
/-- A change that spawns nobody leaves at most as many handlers waiting to start. -/
theorem modifyInvocation_fewer (invocation : Nat) (change : Invocation ν → Invocation ν)
    (moves : ∀ object, (change object).stage = .spawned → object.stage = .spawned) :
    (server.modifyInvocation invocation change).waiting ≤ server.waiting := by
  cases found : server.invocations[invocation]? with
  | none =>
    have beyond := List.getElem?_eq_none_iff.mp found
    unfold waiting modifyInvocation
    rw [List.modify_eq_self beyond]
  | some object =>
    have moved := server.modifyInvocation_waiting change found
    have fewer : ((change object).stage == .spawned).toNat ≤ (object.stage == .spawned).toNat := by
      by_cases spawned : (change object).stage = .spawned
      · rw [spawned, moves object spawned]
      · rw [beq_false_of_ne spawned]
        exact Nat.zero_le _
    omega

omit [DecidableEq τ] in
/-- A handler that ends leaves at most as many waiting to start. -/
theorem finishHandler_fewer (invocation : Nat) :
    (server.finishHandler invocation).waiting ≤ server.waiting := by
  unfold finishHandler
  split
  · exact Nat.le_refl _
  · refine (Nat.le_of_eq (closeQueueWhenIdle_waiting _)).trans ?_
    exact server.modifyInvocation_fewer invocation _ (fun _ => by simp)

omit [DecidableEq τ] in
/-- After an offer of its response a coroutine is suspended or at its end. -/
theorem afterOffer_fewer (invocation : Nat) (offered : WriteQueue × Option WriteResult) :
    (server.afterOffer invocation offered).waiting ≤ server.waiting := by
  unfold afterOffer
  dsimp only
  split
  · exact modifyInvocation_fewer _ invocation _ (fun _ => by simp)
  · exact (finishHandler_fewer _ invocation).trans
      (modifyInvocation_fewer _ invocation _ (fun _ => id))

omit [DecidableEq τ] in
/-- A frame that is routed spawns at most one handler. -/
theorem dispatch_waiting (frame : Frame) :
    (server.dispatch frame).waiting ≤ server.waiting + 1 := by
  have spawns : ∀ handler, (server.spawnHandler frame handler).waiting ≤ server.waiting + 1 := by
    intro handler
    unfold spawnHandler
    split
    · exact Nat.le_succ _
    · exact Nat.le_of_eq (List.countP_append ..)
  have failed : ∀ status message, (server.failConnection status message).waiting = server.waiting := by
    intro status message
    unfold failConnection
    dsimp only
    split <;> rfl
  unfold dispatch
  split
  · exact Nat.le_succ_of_le (Nat.le_of_eq (markTerminal_waiting _ frame))
  · split
    · exact Nat.le_succ_of_le (Nat.le_of_eq (failed _ _))
    · split
      · exact Nat.le_succ_of_le (Nat.le_of_eq (failed _ _))
      · split
        · split
          · rw [markTerminal_waiting, callOperation_waiting]
            exact Nat.le_succ _
          · exact Nat.le_succ_of_le (Nat.le_of_eq (failed _ _))
        · split
          · exact Nat.le_succ_of_le (Nat.le_of_eq (markTerminal_waiting _ frame))
          · split
            · exact Nat.le_succ_of_le (Nat.le_of_eq (markTerminal_waiting _ frame))
            · exact spawns _

end Stages

section Spending

variable (weight : Frame → Nat) (price : Nat) {server after : ServerConnection ν}

omit [DecidableEq τ] in
/-- The load is read off the queue, the reader and the handlers that wait to start. -/
theorem load_eq (server : ServerConnection ν) {queue : WriteQueue} {reader : Reader}
    (queued : server.writeQueue = queue) (reads : server.reader = reader) :
    server.load weight price = queue.load weight + reader.load + price * server.waiting := by
  rw [load, queued, reads]

omit [DecidableEq τ] in
/-- Bytes that arrive wake the read loop. -/
theorem received_load (awaiting : server.reader = .awaiting) (bytes : Buffer) :
    (server.received bytes).load weight price = server.load weight price + 1 := by
  have asleep : server.reader.load = 0 := congrArg Reader.load awaiting
  unfold load
  rw [asleep]
  change server.writeQueue.load weight + 1 + price * server.waiting = _
  omega

omit [DecidableEq τ] in
/-- Closing the queue only takes load away. -/
theorem closeQueueWhenIdle_load (server : ServerConnection ν)
    (regular : server.writeQueue.Regular) :
    server.closeQueueWhenIdle.writeQueue.load weight ≤ server.writeQueue.load weight := by
  unfold closeQueueWhenIdle
  split
  · exact regular.conserves.close_load weight regular.driven
  · exact Nat.le_refl _

omit [DecidableEq τ] in
/-- A handler that ends may close the queue, and adds nothing to it. -/
theorem finishHandler_load (regular : server.writeQueue.Regular) (invocation : Nat) :
    (server.finishHandler invocation).writeQueue.load weight ≤ server.writeQueue.load weight := by
  unfold finishHandler
  split
  · exact Nat.le_refl _
  · exact closeQueueWhenIdle_load weight _ regular

omit [DecidableEq τ] in
/-- What follows an offer adds nothing to the queue. -/
theorem afterOffer_load (server : ServerConnection ν) (invocation : Nat)
    (offered : WriteQueue × Option WriteResult) (regular : offered.1.Regular) :
    (server.afterOffer invocation offered).writeQueue.load weight ≤ offered.1.load weight := by
  unfold afterOffer
  dsimp only
  split
  · exact Nat.le_refl _
  · exact finishHandler_load weight regular invocation

omit [DecidableEq τ] in
/-- The read loop leaves, and closes the queue if no handler is left. -/
theorem finishReading_spends (regular : server.writeQueue.Regular) :
    (server.finishReading false).shell.sent = server.shell.sent ∧
      (server.finishReading false).shell.dispatched = server.shell.dispatched ∧
      (server.finishReading false).load weight price ≤
        server.writeQueue.load weight + price * server.waiting := by
  let stopped : ServerConnection ν := { server with reading := false, reader := .finished }
  have queued : (server.finishReading false).writeQueue = stopped.closeQueueWhenIdle.writeQueue :=
    notifyClosed_queue _
  have closed := closeQueueWhenIdle_load weight stopped regular
  have shell_eq := server.finishReading_shell false
  have reads : (server.finishReading false).reader = .finished :=
    (congrArg ConnectionShell.reader shell_eq).trans rfl
  refine ⟨(congrArg ConnectionShell.sent shell_eq).trans rfl,
    (congrArg ConnectionShell.dispatched shell_eq).trans rfl, ?_⟩
  rw [load_eq weight price _ queued reads, finishReading_waiting]
  exact Nat.add_le_add_right closed _

omit [DecidableEq τ] in
/-- After the end of a batch the read loop waits or is over. -/
theorem continueReading_spends (regular : server.writeQueue.Regular) :
    server.continueReading.shell.sent = server.shell.sent ∧
      server.continueReading.shell.dispatched = server.shell.dispatched ∧
      server.continueReading.load weight price ≤
        server.writeQueue.load weight + price * server.waiting := by
  unfold continueReading
  split
  · exact ⟨rfl, rfl, Nat.le_refl _⟩
  · exact finishReading_spends weight price regular

omit [DecidableEq τ] in
/-- The end of a batch is paid for by the reader, which goes on once more. -/
theorem endBatch_spends (regular : server.writeQueue.Regular) :
    server.endBatch.shell.sent = server.shell.sent ∧
      server.endBatch.shell.dispatched = server.shell.dispatched ∧
      server.endBatch.load weight price ≤
        server.writeQueue.load weight + price * server.waiting := by
  unfold endBatch
  split
  · exact finishReading_spends weight price regular
  · exact continueReading_spends weight price regular

section Errors

variable (dear : ∀ stream status, 4 + weight (makeErrorFrame stream status) < price)
include dear

omit [DecidableEq τ] in
/-- An error frame adds less to the queue than the price of the frame it answers. -/
theorem sendOperationError_load (server : ServerConnection ν) (regular : server.writeQueue.Regular)
    (stream : StreamId) (status : StatusCode) :
    (server.sendOperationError stream status).writeQueue.load weight <
      server.writeQueue.load weight + price :=
  Nat.lt_of_le_of_lt (regular.conserves.tryEnqueue_load weight _)
    (Nat.add_lt_add_left (dear stream status) _)

omit [DecidableEq τ] in
/-- A frame that is dispatched costs an error frame, or the start of a handler. -/
theorem dispatchFrame_load (regular : server.writeQueue.Regular) {frame : Frame} {rest : List Frame}
    (reading : server.reader = .dispatching (frame :: rest)) :
    (server.dispatchFrame frame rest).load weight price ≤ server.load weight price + price := by
  let noted : ServerConnection ν := server.notify
    { type := .messageTransferred, stream := frame.header.stream, inbound := true }
  have waits : (server.dispatchFrame frame rest).waiting = (noted.dispatch frame).waiting := rfl
  have queued : (server.dispatchFrame frame rest).writeQueue = (noted.dispatch frame).writeQueue :=
    rfl
  have reads : (server.dispatchFrame frame rest).reader.load = 1 := rfl
  have read : server.reader.load = 1 := congrArg Reader.load reading
  unfold load
  rw [reads, read]
  cases refused : server.refusal frame with
  | none =>
    have same : (server.dispatchFrame frame rest).writeQueue = server.writeQueue :=
      noted.dispatch_accepts frame refused
    have more : (noted.dispatch frame).waiting ≤ server.waiting + 1 := noted.dispatch_waiting frame
    have cost := Nat.mul_le_mul_left price more
    rw [Nat.mul_succ] at cost
    rw [same, waits]
    omega
  | some status =>
    have still : (server.dispatchFrame frame rest).waiting = server.waiting := by
      rw [waiting, server.dispatchFrame_refused frame rest refused, waiting]
    have told := sendOperationError_load weight price dear noted regular frame.header.stream status
    have routed := noted.dispatch_refused frame refused
    have same : (server.dispatchFrame frame rest).writeQueue =
        (noted.sendOperationError frame.header.stream status).writeQueue := by
      rw [queued, routed, markTerminal_queue]
    have fresh : noted.writeQueue = server.writeQueue := rfl
    rw [fresh] at told
    rw [same, still]
    omega

/-- A handler that starts pays for the error that its request may cost. -/
theorem startHandler_load (regular : server.writeQueue.Regular) {invocation : Nat}
    {object : Invocation ν} (found : server.invocations[invocation]? = some object)
    (spawned : object.stage = .spawned) :
    (server.startHandler registry codec invocation object).load weight price <
      server.load weight price := by
  have reads : (server.startHandler registry codec invocation object).reader = server.reader :=
    congrArg ConnectionShell.reader (server.startHandler_shell invocation object)
  suffices spends : (server.startHandler registry codec invocation object).waiting + 1 =
      server.waiting ∧ (server.startHandler registry codec invocation object).writeQueue.load weight <
        server.writeQueue.load weight + price by
    obtain ⟨fewer, less⟩ := spends
    have cost := congrArg (price * ·) fewer
    simp only [Nat.mul_succ] at cost
    unfold load
    rw [reads]
    omega
  have one : (object.stage == .spawned).toNat = 1 := by simp [spawned]
  unfold startHandler
  dsimp only
  split
  · have moved := countP_set_found ({ object with
      stage := .handling
      argument := (decodeMessage registry codec object.handler.request object.frame).value } :
        Invocation ν) found fun object => object.stage == .spawned
    rw [one] at moved
    have positive := Nat.lt_of_le_of_lt (Nat.zero_le _) (dear ⟨0⟩ .ok)
    exact ⟨moved, Nat.lt_add_of_pos_right positive⟩
  · rename_i failed
    let result := decodeMessage registry codec object.handler.request object.frame
    let told := (server.callOperation invocation fun operation =>
      operation.fail result.status result.message).1
    have again : told.writeQueue = server.writeQueue := callOperation_queue _ _ _
    have refound : told.invocations[invocation]? = some { object with
        operation := (object.operation.fail result.status result.message).1 } := by
      simp only [told, callOperation, found]
      rw [getElem?_set_found _ found, if_pos rfl]
    constructor
    · have ended := (told.sendOperationError object.stream result.status).finishHandler_waiting refound
      rw [one] at ended
      exact ended.trans (server.callOperation_waiting invocation _)
    · have sent := sendOperationError_load weight price dear told (again ▸ regular) object.stream
        result.status
      rw [again] at sent
      refine Nat.lt_of_le_of_lt (finishHandler_load weight ?_ invocation) sent
      have tried := undriven_regular.tried _ (makeErrorFrame object.stream result.status)
        (again ▸ regular : told.writeQueue.Regular)
      exact tried

/-- Every step by which a server goes on by itself is paid for, if a frame pays for the start
of its handler. -/
theorem serves_spends (regular : server.writeQueue.Regular) {event : ServerEvent ν}
    (serving : event.serves = true) (stepped : server.step registry codec event = some after) :
    server.shell.Spends weight (price + 1) after.shell (server.load weight price)
      (after.load weight price) := by
  cases server.step_advances stepped with
  | dispatches frame rest reading =>
    have load := dispatchFrame_load weight price dear regular reading
    have sent : (server.dispatchFrame frame rest).shell.sent = server.shell.sent := by
      rcases dispatch_shell (server.notify
        { type := .messageTransferred, stream := frame.header.stream, inbound := true }) frame with
        same | ⟨_, same⟩ | same
      · exact (congrArg ConnectionShell.sent same).trans rfl
      · exact (congrArg ConnectionShell.sent same).trans rfl
      · exact (congrArg ConnectionShell.sent same).trans rfl
    exact .seen sent (server.dispatchFrame_dispatched frame rest) (by omega)
  | leaves reading =>
    obtain ⟨sent, dispatched, load⟩ := endBatch_spends weight price regular
    refine .still sent dispatched (Nat.lt_of_le_of_lt load ?_)
    rw [load_eq weight price server rfl reading, Reader.load]
    omega
  | acts acts =>
    cases acts with
    | startWriter queue started =>
      have less := WriteQueue.run_load weight started
      refine .still rfl rfl ?_
      change queue.load weight + server.reader.load + price * server.waiting < server.load weight price
      unfold load
      omega
    | startReader spawned =>
      obtain ⟨sent, dispatched, load⟩ := continueReading_spends weight price regular
      refine .still sent dispatched (Nat.lt_of_le_of_lt load ?_)
      rw [load_eq weight price server rfl spawned, Reader.load]
      omega
    | startHandler invocation object found spawned =>
      exact .kept (server.startHandler_shell invocation object)
        (startHandler_load weight price dear regular found spawned)
    | resumeEnqueue invocation queue result resumed =>
      have less := regular.conserves.resumeEnqueue_load weight resumed
      obtain ⟨frame, -, offered⟩ :=
        server.writeQueue.resumeEnqueue_effect invocation queue result resumed
      have shell_eq := server.afterOffer_shell invocation (queue, result) offered.same_written
      have queued := server.afterOffer_load weight invocation (queue, result)
        (undriven_regular.resumed _ invocation queue result resumed regular)
      have cost := Nat.mul_le_mul_left price (server.afterOffer_fewer invocation (queue, result))
      dsimp only at queued
      refine .kept shell_eq ?_
      rw [load_eq weight price _ rfl (congrArg ConnectionShell.reader shell_eq)]
      change _ + server.reader.load + _ < server.load weight price
      unfold load
      omega
    | resumeWriter queue resumed =>
      have less := regular.steady.resumeRun_load weight resumed
      have whole : queue.load weight + server.reader.load + price * server.waiting +
          (server.writeQueue.inHand.map weight).sum < server.load weight price := by
        unfold load
        omega
      exact .given server.writeQueue.inHand _ whole
    | writeCompleted queue frame completed =>
      have less := WriteQueue.writeCompleted_load weight completed
      refine .still rfl rfl ?_
      change queue.load weight + server.reader.load + price * server.waiting < server.load weight price
      unfold load
      omega
    | _ => simp [ServerEvent.serves] at serving

end Errors

end Spending

end ServerConnection

end Servers

end Workloads

end Rillnet
