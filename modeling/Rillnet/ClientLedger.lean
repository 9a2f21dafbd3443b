import Rillnet.ClientConnection
import Rillnet.Library.Heap

/-!
# The ledger of a client connection

The part of a client connection that requests and inbound frames act on: the
shared request objects, the map, the allocator, the terminal streams, and the
history of frames accepted, held and dispatched. Every function of the connection
acts on the ledger by a few changes, each of which is stated once here.

`retire` is the common shape of every way a request leaves the map. What varies
is the object put in place of the old one.
-/

namespace Rillnet

/-- Erasing a present key leaves one entry less. -/
theorem length_erase_entry {κ : Type} [DecidableEq κ] {α : Type} (table : AList fun _ : κ => α)
    (key : κ) (present : (table.lookup key).isSome) :
    (table.erase key).entries.length + 1 = table.entries.length := by
  have member : key ∈ table.keys := AList.mem_keys.mp (AList.lookup_isSome.mp present)
  have lengths : ∀ other : AList fun _ : κ => α, other.entries.length = other.keys.length := by
    intro other
    simp [AList.keys, List.keys]
  rw [lengths, lengths, AList.keys_erase, List.length_erase_of_mem member]
  have positive := List.length_pos_of_mem member
  omega

section Ledgers

variable {τ : Type} {ν : τ → Type}

/-- A timer is cancelled once. -/
@[simp] theorem Timer.cancel_cancel (timer : Timer) : timer.cancel.cancel = timer.cancel := by
  cases timer <;> rfl

namespace PendingRequest

variable (request : PendingRequest ν)

/-- The object after `cleanup_pending`. -/
def cleaned (release : Bool) : PendingRequest ν :=
  { request with
    removed := true
    timer := if request.removed then request.timer else request.timer.cancel
    streamReleased := request.streamReleased || release }

/-- The object after a result other than a response was committed. -/
def failedWith (operation : Operation StreamId) (result : OperationResult) (release : Bool) :
    PendingRequest ν :=
  ({ request with
    operation := operation
    settled := request.settled ++ [result] }.closeChannel).cleaned release

/-- The operation after a response arrived. -/
def completedOperation : Operation StreamId :=
  { request.operation with
    state := .completed
    result := some (OperationResult.success "response received") }

/-- The object after a response completed it. -/
def completedWith (position : Nat) (frame : Frame) : PendingRequest ν :=
  ({ request with
    operation := request.completedOperation
    settled := request.settled ++ [OperationResult.success "response received"]
    timer := request.timer.cancel }.trySend position frame).cleaned true

/-- The object once its request frame was accepted. -/
def started (index : Nat) : PendingRequest ν :=
  { request with owner := .handle, requestIndex := some index }.startTimer

@[simp] theorem cleaned_stream (release : Bool) : (request.cleaned release).stream = request.stream :=
  rfl
@[simp] theorem cleaned_removed (release : Bool) : (request.cleaned release).removed = true := rfl
@[simp] theorem cleaned_streamReleased (release : Bool) :
    (request.cleaned release).streamReleased = (request.streamReleased || release) := rfl

@[simp] theorem closeChannel_stream : request.closeChannel.stream = request.stream := rfl
@[simp] theorem closeChannel_removed : request.closeChannel.removed = request.removed := rfl
@[simp] theorem closeChannel_streamReleased :
    request.closeChannel.streamReleased = request.streamReleased := rfl

/-- A response that is sent into the channel leaves the operation as it is. -/
@[simp] theorem trySend_operation (position : Nat) (frame : Frame) :
    (request.trySend position frame).operation = request.operation := by
  unfold trySend
  split <;> rfl

/-- It leaves the place in the map. -/
@[simp] theorem trySend_removed (position : Nat) (frame : Frame) :
    (request.trySend position frame).removed = request.removed := by
  unfold trySend
  split <;> rfl

/-- It leaves the claim to the stream. -/
@[simp] theorem trySend_streamReleased (position : Nat) (frame : Frame) :
    (request.trySend position frame).streamReleased = request.streamReleased := by
  unfold trySend
  split <;> rfl

/-- It leaves the stream. -/
@[simp] theorem trySend_stream (position : Nat) (frame : Frame) :
    (request.trySend position frame).stream = request.stream := by
  simp [stream]

/-- A deadline may be set on an operation, on the same stream. -/
@[simp] theorem startTimer_stream : request.startTimer.stream = request.stream := by
  unfold startTimer
  split
  · rfl
  · simp only [stream, Operation.setDeadline]
    split <;> rfl

/-- A timer that starts leaves the place in the map. -/
@[simp] theorem startTimer_removed : request.startTimer.removed = request.removed := by
  unfold startTimer
  split <;> rfl

/-- It leaves the claim to the stream. -/
@[simp] theorem startTimer_streamReleased :
    request.startTimer.streamReleased = request.streamReleased := by
  unfold startTimer
  split <;> rfl

/-- It leaves the state of the operation. -/
@[simp] theorem startTimer_state :
    request.startTimer.operation.state = request.operation.state := by
  unfold startTimer
  split
  · rfl
  · simp only [Operation.setDeadline]
    split <;> rfl

/-- It leaves the handle where it is. -/
@[simp] theorem startTimer_owner : request.startTimer.owner = request.owner := by
  unfold startTimer
  split <;> rfl

/-- It leaves the handle where it is. -/
@[simp] theorem trySend_owner (position : Nat) (frame : Frame) :
    (request.trySend position frame).owner = request.owner := by
  unfold trySend
  split <;> rfl

/-- The operation of a delivered response is the completed one. -/
@[simp] theorem completedWith_operation (position : Nat) (frame : Frame) :
    (request.completedWith position frame).operation = request.completedOperation := by
  simp [completedWith, cleaned]

/-- A response is delivered on the stream of its request. -/
theorem completedWith_stream (position : Nat) (frame : Frame) :
    (request.completedWith position frame).stream = request.stream := by
  rw [stream, completedWith_operation]
  rfl

/-- A delivered response gives the stream back. -/
theorem completedWith_streamReleased (position : Nat) (frame : Frame) :
    (request.completedWith position frame).streamReleased = (request.streamReleased || true) := by
  simp [completedWith]

/-- A delivered response leaves the handle where it is. -/
theorem completedWith_owner (position : Nat) (frame : Frame) :
    (request.completedWith position frame).owner = request.owner := by
  simp [completedWith, cleaned]

end PendingRequest

/-- What requests and inbound frames act on. -/
structure Ledger (ν : τ → Type) where
  requests : List (PendingRequest ν)
  pending : AList (fun _ : StreamId => Nat)
  streamIds : StreamIdAllocator
  terminalStreams : Finset StreamId
  accepted : List Frame
  held : Nat → Option Frame
  dispatched : List Frame
  violations : List (StatusCode × String)

/-- The ledger of a connection. -/
def ClientConnection.ledger (client : ClientConnection ν) : Ledger ν where
  requests := client.requests
  pending := client.pending
  streamIds := client.streamIds
  terminalStreams := client.terminalStreams
  accepted := client.writeQueue.accepted
  held := client.writeQueue.held
  dispatched := client.dispatched
  violations := client.violations

namespace Ledger

/-- A request leaves the map, or had left it before, and its stream is given
back if asked for and not done before. -/
def retire (ledger : Ledger ν) (request : Nat) (old new : PendingRequest ν) (release : Bool) :
    Ledger ν :=
  { ledger with
    requests := ledger.requests.set request new
    pending := if old.removed then ledger.pending else ledger.pending.erase old.stream
    streamIds :=
      if release && !old.streamReleased then ledger.streamIds.release old.stream
      else ledger.streamIds }

/-- Replace one object. -/
def replace (ledger : Ledger ν) (request : Nat) (new : PendingRequest ν) : Ledger ν :=
  { ledger with requests := ledger.requests.set request new }

/-- Frames taken by the queue. -/
def accept (ledger : Ledger ν) (frames : List Frame) : Ledger ν :=
  { ledger with accepted := ledger.accepted ++ frames }

/-- Accepting nothing changes nothing. -/
@[simp] theorem accept_nil (ledger : Ledger ν) : ledger.accept [] = ledger := by
  simp [accept]

/-- A dispatched frame ends its stream if it is flagged so. -/
def observe (ledger : Ledger ν) (frame : Frame) : Ledger ν :=
  { ledger with
    terminalStreams :=
      if hasFlag frame.header.flags .endOfStream then
        insert frame.header.stream ledger.terminalStreams
      else ledger.terminalStreams
    dispatched := ledger.dispatched ++ [frame] }

/-- A violation is charged to the peer, with the frame that caused it. -/
def charge (ledger : Ledger ν) (violation : StatusCode × String) : Ledger ν :=
  { ledger with violations := ledger.violations ++ [violation] }

/-- Only the last write of an object counts. -/
theorem retire_replaced (ledger : Ledger ν) (request : Nat) (old middle new : PendingRequest ν)
    (release : Bool) (removed : middle.removed = old.removed) (stream : middle.stream = old.stream)
    (streamReleased : middle.streamReleased = old.streamReleased) :
    (ledger.replace request middle).retire request middle new release =
      ledger.retire request old new release := by
  simp [retire, replace, removed, stream, streamReleased]

end Ledger

namespace ClientConnection

variable (client : ClientConnection ν)

/-- The map holds a request until it is removed. -/
def Listed (request : Nat) (object : PendingRequest ν) : Prop :=
  object.removed = false → client.pending.lookup object.stream = some request

/-- Writing an object that exists replaces it in the ledger. -/
theorem modifyRequest_ledger {request : Nat} {object : PendingRequest ν}
    (change : PendingRequest ν → PendingRequest ν) (found : client.requests[request]? = some object) :
    (client.modifyRequest request change).ledger = client.ledger.replace request (change object) := by
  simp [modifyRequest, ledger, Ledger.replace, modify_found change found]

/-- Cleaning up retires the request: the entry goes if it was there, and the stream is
given back at most once. -/
theorem cleanupPending_ledger {request : Nat} {object : PendingRequest ν} (release : Bool)
    (found : client.requests[request]? = some object) (listed : client.Listed request object) :
    (client.cleanupPending request release).ledger =
      client.ledger.retire request object (object.cleaned release) release := by
  unfold cleanupPending
  simp only [found]
  cases removed : object.removed with
  | true =>
    by_cases releases : release = true ∧ object.streamReleased = false
    · obtain ⟨rfl, unreleased⟩ := releases
      simp [ledger, Ledger.retire, modifyRequest, modify_found _ found, PendingRequest.cleaned,
        removed, unreleased]
    · have same : object.cleaned release = object := by
        cases object
        cases release <;> simp_all [PendingRequest.cleaned]
      have idle : (release && !object.streamReleased) = false := by
        cases release <;> simp_all
      simp [idle, ledger, Ledger.retire, same, removed, set_found found]
  | false =>
    have present := listed removed
    by_cases releases : release = true ∧ object.streamReleased = false
    · obtain ⟨rfl, unreleased⟩ := releases
      simp [ledger, Ledger.retire, modifyRequest, PendingRequest.cleaned, removed, present,
        unreleased]
    · have kept : (object.streamReleased || release) = object.streamReleased := by
        cases release <;> simp_all
      have idle : (release && !object.streamReleased) = false := by
        cases release <;> simp_all
      simp [idle, ledger, Ledger.retire, PendingRequest.cleaned, removed, present, kept]

/-- The queue accepts a cancellation frame, or nothing. -/
theorem sendCancellation_ledger (stream : StreamId) :
    ∃ offered, (offered = [] ∨ offered = [cancellationFrame stream]) ∧
      (client.sendCancellation stream).ledger = client.ledger.accept offered := by
  rcases client.writeQueue.tryEnqueueFrame_effect (cancellationFrame stream) with
    ⟨-, accepted, -, producers⟩ | ⟨-, same⟩
  · refine ⟨[cancellationFrame stream], Or.inr rfl, ?_⟩
    have held : (client.writeQueue.tryEnqueueFrame (cancellationFrame stream)).1.held =
        client.writeQueue.held := by
      unfold WriteQueue.held
      rw [producers]
    simp [sendCancellation, WriteQueue.tryEnqueue, ledger, Ledger.accept, accepted, held]
  · refine ⟨[], Or.inl rfl, ?_⟩
    simp [sendCancellation, WriteQueue.tryEnqueue, ledger, Ledger.accept, same]

/-- Rewriting an object and cleaning up. -/
theorem modifyAndClean_ledger {request : Nat} {object : PendingRequest ν}
    (change : PendingRequest ν → PendingRequest ν) (release : Bool)
    (found : client.requests[request]? = some object) (listed : client.Listed request object)
    (stream : (change object).stream = object.stream)
    (removed : (change object).removed = object.removed)
    (released : (change object).streamReleased = object.streamReleased) :
    ((client.modifyRequest request change).cleanupPending request release).ledger =
      client.ledger.retire request object ((change object).cleaned release) release := by
  have written : (client.modifyRequest request change).requests[request]? =
      some (change object) := by
    simp [modifyRequest, found]
  have still : (client.modifyRequest request change).Listed request (change object) := by
    intro present
    rw [stream]
    exact listed (removed ▸ present)
  rw [cleanupPending_ledger _ release written still, modifyRequest_ledger _ _ found]
  exact Ledger.retire_replaced _ _ _ _ _ _ removed stream released

end ClientConnection

/-- An active operation is finished with a failure. -/
structure FailsWith (before after : Operation StreamId) (result : OperationResult) : Prop where
  active : before.state = .active
  stream : after.stream = before.stream
  handler : after.completionHandler = before.completionHandler
  committed : after.result = some result
  failure : result.status ≠ .ok
  state : after.state = .failed ∨ after.state = .cancelled

namespace Operation

variable (operation : Operation StreamId)

/-- An active operation that is cancelled fails with `cancelled`. -/
theorem cancel_fails (message : String) (active : operation.state = .active) :
    (operation.cancel message).2 = true ∧
      FailsWith operation (operation.cancel message).1 (.failure .cancelled message) := by
  rw [operation.cancel_eq message (by simp [active]), if_pos active]
  exact ⟨rfl, active, rfl, rfl, rfl, by simp [OperationResult.failure], Or.inr rfl⟩

/-- An active operation whose deadline passed fails with `timeout_error`. -/
theorem timeout_fails (message : String) (active : operation.state = .active) :
    (operation.timeout message).2 = true ∧
      FailsWith operation (operation.timeout message).1 (.failure .timeoutError message) := by
  rw [operation.timeout_eq message, if_pos active]
  exact ⟨rfl, active, rfl, rfl, rfl, by simp [OperationResult.failure], Or.inl rfl⟩

/-- An active operation fails with the status it is given. -/
theorem fail_fails (status : StatusCode) (message : String) (failure : status ≠ .ok)
    (active : operation.state = .active) :
    (operation.fail status message).2 = true ∧
      FailsWith operation (operation.fail status message).1 (.failure status message) := by
  rw [operation.fail_eq status message failure, if_pos active]
  exact ⟨rfl, active, rfl, rfl, rfl, failure, Or.inl rfl⟩

end Operation

/-- What holds of every request object: its operation was activated and reports
on its own stream, and while it is active the channel is open and empty. -/
structure PendingRequest.Sane (request : PendingRequest ν) : Prop where
  activated : request.operation.state ≠ .created
  handler : request.operation.completionHandler = some request.stream
  vacant : request.operation.state = .active →
    request.channel.closed = false ∧ request.channel.buffer = []

namespace ClientConnection

variable (client : ClientConnection ν) {request : Nat} {object : PendingRequest ν}
variable (call : Operation StreamId → Operation StreamId × Bool)

/-- A finishing call that is refused changes nothing. -/
theorem finishOperation_refused (found : client.requests[request]? = some object)
    (refused : call object.operation = (object.operation, false)) :
    client.finishOperation request call = (client, false) := by
  simp [finishOperation, found, refused, Operation.notified, set_found found]

/-- A finishing call that commits records and reports its result. -/
theorem finishOperation_committed (operation : Operation StreamId) (result : OperationResult)
    (found : client.requests[request]? = some object)
    (committed : call object.operation = (operation, true))
    (handler : operation.completionHandler = some object.stream)
    (result_eq : operation.result = some result) :
    client.finishOperation request call =
      ({ client with
        requests := client.requests.set request
          { object with operation := operation, settled := object.settled ++ [result] }
        diagnostics := client.diagnostics ++ [completionEvent object.stream result] }, true) := by
  simp [finishOperation, found, committed, Operation.notified, handler, result_eq]

/-- The effect of giving up an active request: its object and its entry are
retired, and the queue may have taken a cancellation. -/
def Abandons (before after : Ledger ν) (request : Nat) (object : PendingRequest ν)
    (result : OperationResult) (release : Bool) : Prop :=
  ∃ operation offered, FailsWith object.operation operation result ∧
    (offered = [] ∨ offered = [cancellationFrame object.stream]) ∧
    after = (before.retire request object (object.failedWith operation result release)
      release).accept offered

section Fails

variable (result : OperationResult) (release : Bool)
variable (found : client.requests[request]? = some object) (sane : object.Sane)
variable (listed : client.Listed request object)
variable (wins : (call object.operation).2 = true)
variable (fails : FailsWith object.operation (call object.operation).1 result)
include found sane listed wins fails

/-- The connection right after a failing call, with its object found and still
listed. -/
theorem finished_fails :
    ∃ written : PendingRequest ν,
      (client.finishOperation request call).1.requests[request]? = some written ∧
      (client.finishOperation request call).1.ledger = client.ledger.replace request written ∧
      (client.finishOperation request call).1.Listed request written ∧
      written.stream = object.stream ∧ written.removed = object.removed ∧
      written.streamReleased = object.streamReleased ∧
      written.closeChannel.cleaned release =
        object.failedWith (call object.operation).1 result release := by
  have finished := client.finishOperation_committed call (call object.operation).1 result found
    (Prod.ext rfl wins) (fails.handler.trans sane.handler) fails.committed
  refine ⟨{ object with
    operation := (call object.operation).1, settled := object.settled ++ [result] }, ?_, ?_, ?_,
    fails.stream, rfl, rfl, rfl⟩
  · rw [finished]
    exact (getElem?_set_found _ found request).trans (if_pos rfl)
  · rw [finished]
    rfl
  · rw [finished]
    intro present
    exact (congrArg client.pending.lookup fails.stream).trans (listed present)

/-- Failing a request without a word to the peer. -/
theorem failed_ledger :
    (((client.finishOperation request call).1.modifyRequest request
      PendingRequest.closeChannel).cleanupPending request release).ledger =
        client.ledger.retire request object
          (object.failedWith (call object.operation).1 result release) release := by
  obtain ⟨written, rewritten, ledger_eq, still, stream, removed, released, new_eq⟩ :=
    client.finished_fails call result release found sane listed wins fails
  rw [modifyAndClean_ledger _ _ release rewritten still rfl rfl rfl, ledger_eq, new_eq]
  exact Ledger.retire_replaced _ _ _ _ _ _ removed stream released

/-- Failing a request and asking the peer to stop. -/
theorem abandoned_ledger :
    ∃ offered, (offered = [] ∨ offered = [cancellationFrame object.stream]) ∧
      ((((client.finishOperation request call).1.sendCancellation object.stream).modifyRequest
        request PendingRequest.closeChannel).cleanupPending request release).ledger =
          (client.ledger.retire request object
            (object.failedWith (call object.operation).1 result release) release).accept
              offered := by
  obtain ⟨written, rewritten, ledger_eq, still, stream, removed, released, new_eq⟩ :=
    client.finished_fails call result release found sane listed wins fails
  obtain ⟨offered, kind, sent⟩ :=
    (client.finishOperation request call).1.sendCancellation_ledger object.stream
  refine ⟨offered, kind, ?_⟩
  have cleaned := ((client.finishOperation request call).1.sendCancellation
    object.stream).modifyAndClean_ledger PendingRequest.closeChannel release rewritten still
      rfl rfl rfl
  rw [cleaned, sent, new_eq, ledger_eq,
    ← Ledger.retire_replaced client.ledger request object written _ release removed stream released]
  rfl

/-- The tail shared by cancellations and timeouts finds the stream unchanged. -/
theorem abandonPending_ledger :
    Abandons client.ledger ((client.finishOperation request call).1.abandonPending request).ledger
      request object result false := by
  obtain ⟨written, rewritten, -, -, stream, -⟩ :=
    client.finished_fails call result false found sane listed wins fails
  obtain ⟨offered, kind, after⟩ :=
    client.abandoned_ledger call result false found sane listed wins fails
  refine ⟨_, offered, fails, kind, ?_⟩
  have same : (client.finishOperation request call).1.streamOf request = object.stream := by
    simp [streamOf, rewritten, stream]
  rw [abandonPending, same, after]

end Fails

/-- A wish to stop an operation that was settled before changes nothing. -/
theorem cancelPending_over (message : String) (found : client.requests[request]? = some object)
    (sane : object.Sane) (inactive : object.operation.state ≠ .active) :
    client.cancelPending request message = (client, false) := by
  have refused : object.operation.cancel message = (object.operation, false) := by
    rw [object.operation.cancel_eq message sane.activated, if_neg inactive]
  simp [cancelPending, client.finishOperation_refused (fun operation => operation.cancel message)
    found refused]

/-- A deadline that passes after the end does nothing. -/
theorem timeoutPending_over (found : client.requests[request]? = some object)
    (inactive : object.operation.state ≠ .active) : client.timeoutPending request = client := by
  have refused : object.operation.timeout "operation deadline exceeded" =
      (object.operation, false) := by
    rw [object.operation.timeout_eq, if_neg inactive]
  simp [timeoutPending, client.finishOperation_refused
    (fun operation => operation.timeout "operation deadline exceeded") found refused]

/-- A cancellation in time abandons the request, and its stream stays taken for now. -/
theorem cancelPending_active (message : String) (found : client.requests[request]? = some object)
    (sane : object.Sane) (listed : client.Listed request object)
    (active : object.operation.state = .active) :
    Abandons client.ledger (client.cancelPending request message).1.ledger request object
      (.failure .cancelled message) false := by
  obtain ⟨wins, fails⟩ := object.operation.cancel_fails message active
  have finished := client.finishOperation_committed (fun operation => operation.cancel message) _ _
    found (Prod.ext rfl wins) (fails.handler.trans sane.handler) fails.committed
  have abandoned := client.abandonPending_ledger (fun operation => operation.cancel message) _
    found sane listed wins fails
  have committed := congrArg Prod.snd finished
  unfold cancelPending
  simp only [committed, if_true]
  exact abandoned

/-- A deadline that passes in time abandons the request, and its stream stays taken for now. -/
theorem timeoutPending_active (found : client.requests[request]? = some object)
    (sane : object.Sane) (listed : client.Listed request object)
    (active : object.operation.state = .active) :
    Abandons client.ledger (client.timeoutPending request).ledger request object
      (.failure .timeoutError "operation deadline exceeded") false := by
  obtain ⟨wins, fails⟩ := object.operation.timeout_fails "operation deadline exceeded" active
  have finished := client.finishOperation_committed
    (fun operation => operation.timeout "operation deadline exceeded") _ _ found (Prod.ext rfl wins)
    (fails.handler.trans sane.handler) fails.committed
  have abandoned := client.abandonPending_ledger
    (fun operation => operation.timeout "operation deadline exceeded") _ found sane listed wins fails
  have committed := congrArg Prod.snd finished
  unfold timeoutPending
  simp only [committed, if_true]
  exact abandoned

/-- A handle that is destroyed in time abandons the request and gives its stream back. -/
theorem discardPending_active (found : client.requests[request]? = some object)
    (sane : object.Sane) (listed : client.Listed request object)
    (active : object.operation.state = .active) :
    Abandons client.ledger (client.discardPending request).ledger request object
      (.failure .cancelled "operation handle released") true := by
  obtain ⟨wins, fails⟩ := object.operation.cancel_fails "operation handle released" active
  obtain ⟨offered, kind, after⟩ := client.abandoned_ledger
    (fun operation => operation.cancel "operation handle released") _ true found sane listed wins
    fails
  refine ⟨_, offered, fails, kind, ?_⟩
  have live : client.isTerminal request = false := by
    simp [isTerminal, found, object.operation.isTerminal_active active]
  have stream : client.streamOf request = object.stream := by simp [streamOf, found]
  simp only [discardPending, live, stream, Bool.false_eq_true, if_false]
  exact after

/-- A dropped handle of a settled operation only gives the stream back. -/
theorem discardPending_over (found : client.requests[request]? = some object) (sane : object.Sane)
    (listed : client.Listed request object) (inactive : object.operation.state ≠ .active) :
    (client.discardPending request).ledger =
      client.ledger.retire request object (object.cleaned true) true := by
  have terminal : client.isTerminal request = true := by
    have activated := sane.activated
    simp only [isTerminal, found, Option.map_some, Option.getD_some, Operation.isTerminal_iff]
    cases state : object.operation.state <;> simp_all
  simp only [discardPending, terminal, if_true]
  exact client.cleanupPending_ledger true found listed

/-- An active request that is failed is retired with the status, and nothing is sent. -/
theorem failRequest_active (status : StatusCode) (message : String) (release : Bool)
    (failure : status ≠ .ok) (found : client.requests[request]? = some object)
    (sane : object.Sane) (listed : client.Listed request object)
    (active : object.operation.state = .active) :
    ∃ operation, FailsWith object.operation operation (.failure status message) ∧
      (client.failRequest request status message release).ledger =
        client.ledger.retire request object
          (object.failedWith operation (.failure status message) release) release := by
  obtain ⟨wins, fails⟩ := object.operation.fail_fails status message failure active
  exact ⟨_, fails, client.failed_ledger (fun operation => operation.fail status message) _ release
    found sane listed wins fails⟩

/-- Failing a request that was settled before still closes its channel. -/
theorem failRequest_over (status : StatusCode) (message : String) (release : Bool)
    (failure : status ≠ .ok) (found : client.requests[request]? = some object)
    (listed : client.Listed request object) (inactive : object.operation.state ≠ .active) :
    (client.failRequest request status message release).ledger =
      client.ledger.retire request object (object.closeChannel.cleaned release) release := by
  have refused : object.operation.fail status message = (object.operation, false) := by
    rw [object.operation.fail_eq status message failure, if_neg inactive]
  rw [failRequest, client.finishOperation_refused (fun operation => operation.fail status message)
    found refused]
  exact client.modifyAndClean_ledger PendingRequest.closeChannel release found listed rfl rfl rfl

end ClientConnection

end Ledgers

end Rillnet
