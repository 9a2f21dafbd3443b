import Rillnet.ClientActs
import Rillnet.ClientTable
import Rillnet.Library.Reachability

/-!
# Runs of a client connection

Every event of a client connection acts on its ledger by a sequence of the
changes of `Ledger.Step`, so the agreement of map, objects and allocator holds in
every reachable state.
-/

namespace Rillnet

section Runs

variable {τ : Type} {ν : τ → Type}
variable [DecidableEq τ] {registry : MessageRegistry τ} {codec : Codec τ ν}
variable {permits : Ledger ν → Change → Prop}

namespace ClientConnection

open Ledger (Steps Step)

variable (client : ClientConnection ν) {request : Nat} {object : PendingRequest ν}

omit [DecidableEq τ] in
/-- An object that was not removed is in the map under its own stream. -/
theorem listed_of_consistent (consistent : client.ledger.Consistent)
    (found : client.requests[request]? = some object) : client.Listed request object :=
  fun live => (consistent.listed request object found live).1

/-- Giving up a request is a single change of the ledger, if the event may make it. -/
theorem abandons_step {after : Ledger ν} {result : OperationResult} {release : Bool}
    (permitted : permits client.ledger (.abandons request))
    (found : client.requests[request]? = some object)
    (abandons : Abandons client.ledger after request object result release) :
    Step registry codec permits client.ledger after := by
  obtain ⟨operation, offered, fails, kind, rfl⟩ := abandons
  exact .abandoned request object operation result release offered permitted found fails kind

omit [DecidableEq τ] in
/-- The first entry of the map is what its stream looks up. -/
theorem head_entry (entry : Sigma fun _ : StreamId => Nat)
    (first : client.pending.entries.head? = some entry) :
    client.pending.lookup entry.1 = some entry.2 := by
  apply AList.mem_lookup_iff.mpr
  exact List.mem_of_head? first

variable (consistent : client.ledger.Consistent)
include consistent

/-- A cancellation by the application abandons the request, or changes nothing. -/
theorem cancelPending_steps (message : String)
    (permitted : permits client.ledger (.abandons request))
    (found : client.requests[request]? = some object) :
    Steps registry codec permits client.ledger (client.cancelPending request message).1.ledger := by
  have sane := consistent.sane request object found
  by_cases active : object.operation.state = .active
  · exact .single (client.abandons_step permitted found (client.cancelPending_active message found
      sane (client.listed_of_consistent consistent found) active))
  · rw [client.cancelPending_over message found sane active]
    exact .refl

/-- A deadline that passes abandons the request, or changes nothing. -/
theorem timeoutPending_steps (permitted : permits client.ledger (.abandons request))
    (found : client.requests[request]? = some object) :
    Steps registry codec permits client.ledger (client.timeoutPending request).ledger := by
  by_cases active : object.operation.state = .active
  · exact .single (client.abandons_step permitted found (client.timeoutPending_active found
      (consistent.sane request object found) (client.listed_of_consistent consistent found) active))
  · rw [client.timeoutPending_over found active]
    exact .refl

/-- A handle that is destroyed abandons its request, or only gives the stream back. -/
theorem discardPending_steps (permitted : permits client.ledger (.abandons request))
    (found : client.requests[request]? = some object) (handle : object.owner = .handle) :
    Steps registry codec permits client.ledger (client.discardPending request).ledger := by
  have sane := consistent.sane request object found
  have listed := client.listed_of_consistent consistent found
  by_cases active : object.operation.state = .active
  · exact .single (client.abandons_step permitted found
      (client.discardPending_active found sane listed active))
  · rw [client.discardPending_over found sane listed active]
    exact .single (.dropped request object found handle active)

omit [DecidableEq τ] in
/-- Failing an entry of the map takes exactly that entry out. -/
theorem failRequest_entry (stream : StreamId) (status : StatusCode) (message : String)
    (release : Bool) (failure : status ≠ .ok) (entry : client.pending.lookup stream = some request) :
    ∃ object operation, client.requests[request]? = some object ∧ object.stream = stream ∧
      object.removed = false ∧ FailsWith object.operation operation (.failure status message) ∧
      (client.failRequest request status message release).ledger =
        client.ledger.retire request object
          (object.failedWith operation (.failure status message) release) release := by
  obtain ⟨object, found, sameStream, active, live⟩ := consistent.entry stream request entry
  obtain ⟨operation, fails, after⟩ := client.failRequest_active status message release failure found
    (consistent.sane request object found) (client.listed_of_consistent consistent found) active
  exact ⟨object, operation, found, sameStream, live, fails, after⟩

end ClientConnection

/-- All entries of the map were failed; nothing else of the ledger changed. -/
structure FailsAll (before after : Ledger ν) : Prop where
  pending : after.pending.entries = []
  accepted : after.accepted = before.accepted
  held : after.held = before.held
  streamIds : after.streamIds = before.streamIds
  terminalStreams : after.terminalStreams = before.terminalStreams
  dispatched : after.dispatched = before.dispatched
  violations : after.violations = before.violations

namespace ClientConnection

open Ledger (Steps Step)

omit [DecidableEq τ] in
/-- With an iteration for each entry the loop empties the map. -/
theorem failPendingLoop_spec (status : StatusCode) (message : String) (failure : status ≠ .ok)
    (fuel : Nat) (client : ClientConnection ν) (consistent : client.ledger.Consistent)
    (enough : client.pending.entries.length ≤ fuel) :
    Relation.ReflTransGen Ledger.Fails client.ledger
        (failPendingLoop status message fuel client).ledger ∧
      FailsAll client.ledger (failPendingLoop status message fuel client).ledger := by
  induction fuel generalizing client with
  | zero =>
    have empty : client.pending.entries = [] := List.length_eq_zero_iff.mp (Nat.le_zero.mp enough)
    exact ⟨.refl, empty, rfl, rfl, rfl, rfl, rfl, rfl⟩
  | succ fuel inductionHypothesis =>
    unfold failPendingLoop
    cases first : client.pending.entries.head? with
    | none =>
      have empty : client.pending.entries = [] := List.head?_eq_none_iff.mp first
      exact ⟨.refl, empty, rfl, rfl, rfl, rfl, rfl, rfl⟩
    | some entry =>
      have lookup := client.head_entry entry first
      obtain ⟨object, operation, found, stream, live, fails, after⟩ :=
        client.failRequest_entry consistent entry.1 status message false failure lookup
      have failed : client.ledger.Fails (client.failRequest entry.2 status message false).ledger :=
        ⟨entry.2, object, operation, _, found, fails, after⟩
      have pending : (client.failRequest entry.2 status message false).pending =
          client.pending.erase entry.1 := by
        have erased := congrArg Ledger.pending after
        rw [Ledger.retire, live, stream] at erased
        exact erased
      have fewer : (client.failRequest entry.2 status message false).pending.entries.length ≤
          fuel := by
        have shorter := length_erase_entry client.pending entry.1 (by
          rw [lookup]
          rfl)
        rw [pending]
        omega
      obtain ⟨others, done⟩ := inductionHypothesis _ (failed.consistent consistent) fewer
      refine ⟨.head failed others, done.pending, done.accepted.trans ?_, done.held.trans ?_,
        done.streamIds.trans ?_, done.terminalStreams.trans ?_, done.dispatched.trans ?_,
        done.violations.trans ?_⟩
      all_goals
        rw [after]
        rfl

variable (client : ClientConnection ν) (consistent : client.ledger.Consistent)
include consistent

omit [DecidableEq τ] in
/-- Failing every request is a series of single failures, after which nobody is listed and
every object that was listed has failed. -/
theorem failPending_spec (status : StatusCode) (message : String) (failure : status ≠ .ok) :
    Relation.ReflTransGen Ledger.Fails client.ledger (client.failPending status message).ledger ∧
      FailsAll client.ledger (client.failPending status message).ledger :=
  failPendingLoop_spec status message failure _ client consistent (le_refl _)

/-- Each of these failures is a change of the ledger. -/
theorem failPending_steps (permitted : ∀ ledger, permits ledger .fails) (status : StatusCode)
    (message : String) (failure : status ≠ .ok) :
    Steps registry codec permits client.ledger (client.failPending status message).ledger :=
  Ledger.Fails.steps permitted (client.failPending_spec consistent status message failure).1

omit [DecidableEq τ] in
/-- The table is in order after every request was failed. -/
theorem failPending_consistent (status : StatusCode) (message : String) (failure : status ≠ .ok) :
    (client.failPending status message).ledger.Consistent :=
  Ledger.Fails.consistent_all (client.failPending_spec consistent status message failure).1 consistent

end ClientConnection

namespace Ledger

/-- A frame counts as dispatched. -/
def seen (ledger : Ledger ν) (frame : Frame) : Ledger ν :=
  { ledger with dispatched := ledger.dispatched ++ [frame] }

end Ledger

namespace ClientConnection

open Ledger (Steps Step)

variable (client : ClientConnection ν)

omit [DecidableEq τ] in
/-- Dispatching a frame and recording the end of its stream are one observation of the
ledger. -/
theorem markTerminal_ledger (frame : Frame) :
    (client.markTerminal frame).ledger.seen frame = client.ledger.observe frame := by
  unfold markTerminal Ledger.observe
  split <;> rfl

omit [DecidableEq τ] in
/-- A response completes the operation it finds active, and the object leaves the
map with its stream given back. -/
theorem deliver_ledger {request : Nat} {object : PendingRequest ν} (frame : Frame)
    (found : client.requests[request]? = some object) (sane : object.Sane)
    (listed : client.Listed request object) (active : object.operation.state = .active) :
    (client.finishOperation request fun operation => operation.complete "response received").2 =
        true ∧
      ((client.finishOperation request fun operation =>
        operation.complete "response received").1.deliver request frame).ledger.seen frame =
        (client.ledger.retire request object
          (object.completedWith client.dispatched.length frame) true).observe frame := by
  have committed : object.operation.complete "response received" =
      (object.completedOperation, true) := by
    rw [object.operation.complete_eq, if_pos active]
    rfl
  rw [client.finishOperation_committed (fun operation => operation.complete "response received")
    object.completedOperation (.success "response received") found committed sane.handler rfl]
  refine ⟨rfl, ?_⟩
  generalize written_eq : ({ object with
    operation := object.completedOperation
    settled := object.settled ++ [.success "response received"] } : PendingRequest ν) = written
  generalize middle_eq : ({ client with
    requests := client.requests.set request written
    diagnostics := client.diagnostics ++
      [completionEvent object.stream (.success "response received")] } :
      ClientConnection ν) = middle
  have rewritten : middle.requests[request]? = some written := by
    rw [← middle_eq]
    exact (getElem?_set_found written found request).trans (if_pos rfl)
  have still : middle.Listed request written := by
    rw [← middle_eq, ← written_eq]
    exact listed
  have cleaned := middle.modifyAndClean_ledger (fun object =>
    { object with timer := object.timer.cancel }.trySend middle.dispatched.length frame) true
    rewritten still (PendingRequest.trySend_stream _ _ _) (PendingRequest.trySend_removed _ _ _)
    (PendingRequest.trySend_streamReleased _ _ _)
  have replaced := Ledger.retire_replaced client.ledger request object written
    (object.completedWith client.dispatched.length frame) true (by rw [← written_eq])
    (by rw [← written_eq]; rfl) (by rw [← written_eq])
  have middle_ledger : middle.ledger = client.ledger.replace request written := by
    rw [← middle_eq]
    rfl
  have new_eq : ({ written with timer := written.timer.cancel }.trySend middle.dispatched.length
      frame).cleaned true = object.completedWith client.dispatched.length frame := by
    rw [← middle_eq, ← written_eq]
    rfl
  rw [new_eq, middle_ledger, replaced] at cleaned
  rw [← cleaned]
  exact markTerminal_ledger _ frame

/-- A client that fails its connection over a frame fails every request and accuses the peer. -/
theorem failConnection_steps (frame : Frame) (fails : ∀ ledger, permits ledger .fails)
    (accuses : ∀ ledger, permits ledger (.accuses frame)) (status : StatusCode) (message : String)
    (failure : status ≠ .ok) (consistent : client.ledger.Consistent) :
    Steps registry codec permits client.ledger
      ((client.failConnection status message).ledger.seen frame) := by
  unfold failConnection
  split
  · exact .tail ((client.notify _).failPending_steps consistent fails status message failure)
      (.accused frame (status, message) (accuses _))
  · exact .tail (client.failPending_steps consistent fails status message failure)
      (.accused frame (status, message) (accuses _))

/-- Routing one frame is a sequence of changes that ends with the frame
dispatched. -/
theorem dispatch_steps (frame : Frame)
    (completes : ∀ request, permits client.ledger (.completes request frame))
    (rejects : ∀ request, permits client.ledger (.rejects request frame))
    (fails : client.ledger.Blames frame → ∀ ledger, permits ledger .fails)
    (accuses : client.ledger.Blames frame → ∀ ledger, permits ledger (.accuses frame))
    (consistent : client.ledger.Consistent) :
    Steps registry codec permits client.ledger ((client.dispatch frame).ledger.seen frame) := by
  have accusing : client.ledger.Blames frame → ∀ (status : StatusCode) (message : String),
      status ≠ .ok → Steps registry codec permits client.ledger
        ((client.failConnection status message).ledger.seen frame) :=
    fun blames status message failure => client.failConnection_steps frame (fails blames)
      (accuses blames) status message failure consistent
  unfold dispatch
  by_cases response : frame.header.type = .response
  swap
  · rw [if_pos response]
    exact accusing (Or.inl response) _ _ (by decide)
  rw [if_neg (not_not.mpr response)]
  cases entry : client.pending.lookup frame.header.stream with
  | none => exact accusing (Or.inr (Or.inl entry)) _ _ (by decide)
  | some request =>
    obtain ⟨object, found, stream, active, live⟩ :=
      consistent.entry frame.header.stream request entry
    have sane := consistent.sane request object found
    have listed := client.listed_of_consistent consistent found
    by_cases terminal : frame.header.stream ∈ client.terminalStreams
    · simp only [terminal, if_true]
      exact accusing (Or.inr (Or.inr (Or.inl terminal))) _ _ (by decide)
    simp only [terminal, if_false]
    by_cases cancels : hasFlag frame.header.flags .cancel = true
    · simp only [cancels, if_true]
      obtain ⟨operation, offered, fails, kind, after⟩ :=
        client.cancelPending_active "operation cancelled by peer" found sane listed active
      rw [markTerminal_ledger, after]
      exact .single (.rejected request object operation _ false offered frame
        (rejects request) found entry fails kind terminal (Or.inr cancels))
    simp only [cancels, Bool.false_eq_true, if_false]
    by_cases errs : hasFlag frame.header.flags .error = true
    · simp only [errs, if_true]
      cases decoded : decodeErrorStatus frame with
      | none => exact accusing (Or.inr (Or.inr (Or.inr ⟨errs, decoded⟩))) _ _ (by decide)
      | some status =>
        obtain ⟨operation, fails, after⟩ := client.failRequest_active status
          "peer rejected the operation" true (decodeErrorStatus_failure frame status decoded) found
          sane listed active
        have rejected : Step registry codec permits client.ledger _ :=
          .rejected request object operation _ true [] frame (rejects request) found entry fails
            (Or.inl rfl) terminal (Or.inl ⟨rfl, rfl⟩)
        rw [Ledger.accept_nil] at rejected
        rw [markTerminal_ledger, after]
        exact .single rejected
    · simp only [errs, Bool.false_eq_true, if_false]
      obtain ⟨wins, delivered⟩ := client.deliver_ledger frame found sane listed active
      simp only [wins, if_true]
      rw [delivered]
      exact .single (.completed request object frame (completes request) found entry active response
        terminal ⟨Bool.eq_false_iff.mpr cancels, Bool.eq_false_iff.mpr errs⟩)

omit [DecidableEq τ] in
/-- Reporting the end of the connection leaves the ledger as it is. -/
@[simp] theorem notifyClosed_ledger : client.notifyClosed.ledger = client.ledger := by
  unfold notifyClosed
  split <;> rfl

omit [DecidableEq τ] in
/-- A queue step that accepts nothing leaves the ledger alone. -/
theorem kept_ledger {queue : WriteQueue} (kept : WriteQueue.Kept client.writeQueue queue) :
    ({ client with writeQueue := queue } : ClientConnection ν).ledger = client.ledger := by
  simp [ledger, kept.accepted, kept.held]

omit [DecidableEq τ] in
/-- What the end of reading does to the ledger is to fail every request. -/
theorem finishReading_ledger :
    client.finishReading.ledger = (client.failPending .connectionClosed
      "connection closed while awaiting a response").ledger := by
  rw [finishReading, notifyClosed_ledger]
  exact kept_ledger (client.failPending .connectionClosed
    "connection closed while awaiting a response") (WriteQueue.close_kept _)

/-- The end of reading is a series of failures. -/
theorem finishReading_steps (permitted : ∀ ledger, permits ledger .fails)
    (consistent : client.ledger.Consistent) :
    Steps registry codec permits client.ledger client.finishReading.ledger := by
  rw [finishReading_ledger]
  exact client.failPending_steps consistent permitted _ _ (by decide)

omit [DecidableEq τ] in
/-- Reporting the end of the connection leaves the reader as it is. -/
theorem notifyClosed_reader : client.notifyClosed.reader = client.reader := by
  unfold notifyClosed
  split <;> rfl

omit [DecidableEq τ] in
/-- Reporting the end of the connection leaves the transport as it is. -/
theorem notifyClosed_transport : client.notifyClosed.transportOpen = client.transportOpen := by
  unfold notifyClosed
  split <;> rfl

omit [DecidableEq τ] in
/-- When reading has ended the reader is finished for good. -/
theorem finishReading_reader : client.finishReading.reader = .finished := by
  rw [finishReading, notifyClosed_reader]
  rfl

omit [DecidableEq τ] in
/-- The end of `shutdown` closes the transport in every case. -/
theorem finishShutdown_closes : client.finishShutdown.transportOpen = false := by
  rw [finishShutdown, notifyClosed_transport]
  rfl

/-- The read loop goes on or fails what is left. -/
theorem continueReading_steps
    (permitted : client.continueReading.reader = .finished → ∀ ledger, permits ledger .fails)
    (consistent : client.ledger.Consistent) :
    Steps registry codec permits client.ledger client.continueReading.ledger := by
  unfold continueReading at permitted ⊢
  split
  · exact .refl
  · rename_i closed
    rw [if_neg closed] at permitted
    exact client.finishReading_steps (permitted client.finishReading_reader) consistent

/-- A client that finds a malformed header fails every request; no frame is to blame for it. -/
theorem charge_steps (fails : ∀ ledger, permits ledger .fails)
    (charges : ∀ ledger, permits ledger .charges) (status : StatusCode) (message : String)
    (failure : status ≠ .ok) (consistent : client.ledger.Consistent) :
    Steps registry codec permits client.ledger (client.failConnection status message).ledger := by
  unfold failConnection
  split
  · exact .tail ((client.notify _).failPending_steps consistent fails status message failure)
      (.charged (status, message) (charges _))
  · exact .tail (client.failPending_steps consistent fails status message failure)
      (.charged (status, message) (charges _))

/-- After the last frame of a read nothing happens to the ledger, unless reading ends. -/
theorem endBatch_steps
    (fails : client.endBatch.reader = .finished → ∀ ledger, permits ledger .fails)
    (charges : client.decoder.error ≠ none → ∀ ledger, permits ledger .charges)
    (consistent : client.ledger.Consistent) :
    Steps registry codec permits client.ledger client.endBatch.ledger := by
  unfold endBatch at fails ⊢
  split
  · rename_i error found
    simp only [found] at fails
    have fails := fails (finishReading_reader _)
    have charged : Steps registry codec permits client.ledger _ := client.charge_steps fails
      (charges (by simp [found])) (statusForFrameValidation error) (frameValidationMessage error)
      (statusForFrameValidation_failure error) consistent
    exact charged.trans (finishReading_steps _ fails (charged.consistent consistent))
  · rename_i found
    simp only [found] at fails
    exact client.continueReading_steps fails consistent

/-- The end of `shutdown` fails what is pending. -/
theorem finishShutdown_steps (permitted : ∀ ledger, permits ledger .fails)
    (consistent : client.ledger.Consistent) :
    Steps registry codec permits client.ledger client.finishShutdown.ledger := by
  rw [finishShutdown, notifyClosed_ledger]
  split
  · exact .refl
  · exact client.failPending_steps consistent permitted _ _ (by decide)

/-- A poll of the waiting loop fails what is pending only if it closes the transport. -/
theorem drain_steps (expired : Bool)
    (permitted : (client.drain expired).transportOpen = false → ∀ ledger, permits ledger .fails)
    (consistent : client.ledger.Consistent) :
    Steps registry codec permits client.ledger (client.drain expired).ledger := by
  unfold drain at permitted ⊢
  split
  · rename_i inactive
    rw [if_pos inactive] at permitted
    exact client.finishShutdown_steps (permitted client.finishShutdown_closes) consistent
  · exact .refl

omit [DecidableEq τ] in
/-- Beginning to drain leaves the ledger as it is. -/
@[simp] theorem beginShutdown_ledger : client.beginShutdown.ledger = client.ledger := by
  unfold beginShutdown
  dsimp only
  split <;> split <;> rfl

/-- A call of `shutdown` fails what is pending only if it closes the transport at once. -/
theorem shutdown_steps (expired : Bool)
    (permitted : (client.shutdown expired).transportOpen = false → ∀ ledger, permits ledger .fails)
    (consistent : client.ledger.Consistent) :
    Steps registry codec permits client.ledger (client.shutdown expired).ledger := by
  have begun : ({ client with shutdownEntered := true } : ClientConnection ν).beginShutdown.ledger =
      client.ledger := beginShutdown_ledger _
  have drained : Steps registry codec permits _ _ := drain_steps
    ({ client with shutdownEntered := true } : ClientConnection ν).beginShutdown expired permitted
    (begun ▸ consistent)
  rw [begun] at drained
  exact drained

/-- A later poll fails what is pending only if it closes the transport. -/
theorem drainTick_steps (expired aborted : Bool)
    (permitted : (client.drainTick expired aborted).transportOpen = false →
      ∀ ledger, permits ledger .fails)
    (consistent : client.ledger.Consistent) :
    Steps registry codec permits client.ledger (client.drainTick expired aborted).ledger := by
  unfold drainTick at permitted ⊢
  dsimp only at permitted ⊢
  split
  · rename_i cut
    rw [if_pos cut] at permitted
    exact finishShutdown_steps { client with drains := client.drains - 1 }
      (permitted (finishShutdown_closes _)) consistent
  · rename_i waited
    rw [if_neg waited] at permitted
    exact drain_steps { client with drains := client.drains - 1 } expired permitted consistent

/-- A dispatched frame completes or rejects the request on its stream, or accuses the peer
and fails every request. -/
theorem dispatchFrame_steps (frame : Frame) (rest : List Frame)
    (completes : ∀ request, permits client.ledger (.completes request frame))
    (rejects : ∀ request, permits client.ledger (.rejects request frame))
    (fails : client.ledger.Blames frame → ∀ ledger, permits ledger .fails)
    (accuses : client.ledger.Blames frame → ∀ ledger, permits ledger (.accuses frame))
    (consistent : client.ledger.Consistent) :
    Steps registry codec permits client.ledger (client.dispatchFrame frame rest).ledger :=
  dispatch_steps (client.notify _) frame completes rejects fails accuses consistent

omit [DecidableEq τ] in
/-- A retired object may be rewritten once more. -/
theorem retire_replace (before : Ledger ν) (request : Nat) (old middle new : PendingRequest ν)
    (release : Bool) :
    (before.retire request old middle release).replace request new =
      before.retire request old new release := by
  simp [Ledger.retire, Ledger.replace]

omit [DecidableEq τ] in
/-- The object read back after a retiring function. -/
theorem found_of_retire {before : Ledger ν} {request : Nat} {old new : PendingRequest ν}
    {release : Bool} (found : before.requests[request]? = some old)
    (after : client.ledger = before.retire request old new release) :
    client.requests[request]? = some new := by
  have requests : client.requests = before.requests.set request new := congrArg Ledger.requests after
  rw [requests, getElem?_set_found new found, if_pos rfl]

variable {request : Nat} {object : PendingRequest ν}

/-- A wait that is resumed takes its completion, cleans up and returns. -/
theorem resumeWait_ledger (wait : Nat) (posted : Option Frame) (consistent : client.ledger.Consistent)
    (found : client.requests[request]? = some object) :
    (client.resumeWait registry codec request wait posted).ledger =
      client.ledger.retire request object
        (Ledger.returnedObject registry codec object wait posted) true := by
  have cleaned := client.modifyAndClean_ledger (fun object =>
    { object with resumed := object.resumed.erase (wait, posted) }) true found
    (client.listed_of_consistent consistent found) rfl rfl rfl
  have reread := found_of_retire _ found cleaned
  rw [resumeWait, modifyRequest_ledger _ _ reread, cleaned, retire_replace]
  rfl

/-- The rest of `start_request` after an offer of its frame. -/
theorem afterOffer_steps (permitted : permits client.ledger (.admits request)) (frame : Frame)
    (before queue : WriteQueue) (result : Option WriteResult)
    (consistent : client.ledger.Consistent) (found : client.requests[request]? = some object)
    (starting : object.owner = .starting) (framed : RequestFrame frame object.stream)
    (accepted : before.accepted = client.writeQueue.accepted)
    (held : before.held = Function.update client.writeQueue.held request none)
    (offered : WriteQueue.Offered before queue request frame result) :
    Steps registry codec permits client.ledger (client.afterOffer request (queue, result)).ledger := by
  cases offered with
  | accepted history written kept =>
    have after : (client.afterOffer request (queue, some .success)).ledger =
        client.ledger.submit request object frame := by
      simp [afterOffer, finishStart, WriteResult.ok, WriteResult.success, modifyRequest, ledger,
        Ledger.submit, Ledger.hold, Ledger.accept, Ledger.replace, PendingRequest.started,
        modify_found _ found, history, accepted, kept, held]
    rw [after]
    exact .single (.admitted request object frame permitted found starting framed)
  | refused result failed same =>
    subst same
    have failure : result.status ≠ .ok := by simpa [WriteResult.ok] using failed
    have released : ({ client with writeQueue := queue } : ClientConnection ν).ledger =
        client.ledger.hold request none := by
      simp [ledger, Ledger.hold, accepted, held]
    have agrees : ({ client with writeQueue := queue } : ClientConnection ν).ledger.Consistent := by
      rw [released]
      exact Ledger.hold_consistent consistent request none (by simp)
    have listed := listed_of_consistent _ agrees found
    have after : (client.afterOffer request (queue, some result)).ledger =
        ((({ client with writeQueue := queue } : ClientConnection ν).failRequest request
          result.status result.message true).modifyRequest request fun object =>
            Ledger.refusedObject object result.status result.message).ledger := by
      simp only [afterOffer, finishStart, failed, Bool.false_eq_true, if_false]
      rfl
    rw [after]
    by_cases active : object.operation.state = .active
    · obtain ⟨operation, fails, failedLedger⟩ := failRequest_active
        { client with writeQueue := queue } result.status result.message true failure found
        (consistent.sane request object found) listed active
      rw [released] at failedLedger
      rw [modifyRequest_ledger _ _ (found_of_retire _ found failedLedger), failedLedger,
        retire_replace]
      exact .single (.refused request object operation result.status result.message found starting
        fails)
    · have failedLedger := failRequest_over { client with writeQueue := queue } result.status
        result.message true failure found listed active
      rw [released] at failedLedger
      rw [modifyRequest_ledger _ _ (found_of_retire _ found failedLedger), failedLedger,
        retire_replace]
      exact .single (.refusedLate request object result.status result.message found starting active)
  | suspended history written kept =>
    have after : (client.afterOffer request (queue, none)).ledger =
        client.ledger.hold request (some frame) := by
      simp [afterOffer, ledger, Ledger.hold, history, accepted, kept, held]
    rw [after]
    exact .single (.suspended request object frame found starting framed)

omit [DecidableEq τ] in
/-- An allocation that names a stream succeeded. -/
theorem allocation_of_stream {before : Ledger ν} {streamIds : StreamIdAllocator}
    {allocation : StreamIdAllocation} {stream : StreamId} (consistent : before.Consistent)
    (outcome : before.streamIds.allocate = (streamIds, allocation))
    (granted : allocation.stream = some stream) : allocation = .success stream := by
  obtain ⟨-, -, -, ⟨other, success, -⟩ | ⟨exhausted, -⟩⟩ :=
    before.streamIds.allocate_spec consistent.allocator
  · rw [outcome] at success
    obtain rfl : allocation = .success other := success
    obtain rfl : other = stream := by simpa [StreamIdAllocation.success] using granted
    rfl
  · rw [outcome] at exhausted
    obtain rfl : allocation = .exhausted := exhausted
    simp [StreamIdAllocation.exhausted] at granted

omit [DecidableEq τ] in
/-- An allocation that names no stream failed. -/
theorem allocation_exhausted {before : Ledger ν} {streamIds : StreamIdAllocator}
    {allocation : StreamIdAllocation} (consistent : before.Consistent)
    (outcome : before.streamIds.allocate = (streamIds, allocation))
    (denied : allocation.stream = none) : allocation = .exhausted := by
  obtain ⟨-, -, -, ⟨other, success, -⟩ | ⟨exhausted, -⟩⟩ :=
    before.streamIds.allocate_spec consistent.allocator
  · rw [outcome] at success
    obtain rfl : allocation = .success other := success
    simp [StreamIdAllocation.success] at denied
  · rw [outcome] at exhausted
    exact exhausted

/-- A new request is entered in the map and its frame is offered to the queue. -/
theorem register_steps {type : τ} {value : ν type} (frame : Frame) (stream : StreamId)
    (response : τ) (deadline : Option Deadline) (streamIds : StreamIdAllocator)
    (permitted : permits client.ledger (.registers stream))
    (admits : ∀ ledger, permits ledger (.admits client.requests.length))
    (taken : client.streamIds.allocate.1 = streamIds)
    (allocation : client.ledger.streamIds.allocate.2 = .success stream)
    (encoded : (encodeMessage registry codec type value stream).frame = some frame)
    (consistent : client.ledger.Consistent) :
    let registered := (({ client with
      streamIds := streamIds
      requests := client.requests ++ [PendingRequest.create stream response deadline] } :
        ClientConnection ν).emplacePending stream client.requests.length).notify
          { type := .requestStarted, stream := stream }
    Steps registry codec permits client.ledger (registered.afterOffer client.requests.length
      (registered.writeQueue.enqueue client.requests.length frame)).ledger := by
  intro registered
  have ledger_eq : registered.ledger = client.ledger.register stream response deadline := by
    unfold registered emplacePending Ledger.register
    rw [← taken]
    split <;> rename_i entry <;> simp [notify, ledger, entry]
  have entered : Step registry codec permits client.ledger registered.ledger := by
    rw [ledger_eq]
    exact .registered stream response deadline permitted allocation
  have agrees := entered.consistent consistent
  have found : registered.ledger.requests[client.requests.length]? =
      some (PendingRequest.create stream response deadline) := by
    rw [ledger_eq]
    simp [Ledger.register, ledger]
  have framed : RequestFrame frame stream := by
    obtain ⟨version, kind, flags, same, declared, within⟩ :=
      encodeMessage_frame registry codec type value stream .request .none frame encoded
    refine ⟨kind, flags, same, valid_frame frame version ?_ ?_ ?_ ?_ declared within⟩
    · rw [kind]
      rfl
    · rw [flags]
      rfl
    · rw [flags]
      rfl
    · rw [same]
      exact agrees.assigned _ _ found
  have idle : client.writeQueue.held client.requests.length = none := by
    cases holds : client.writeQueue.held client.requests.length with
    | none => rfl
    | some other =>
      obtain ⟨object, present, -⟩ := consistent.held client.requests.length other holds
      have bound := (List.getElem?_eq_some_iff.mp present).1
      exact absurd bound (Nat.lt_irrefl _)
  have queue_eq : registered.writeQueue = client.writeQueue := by
    unfold registered emplacePending
    split <;> rfl
  have offered := registered.writeQueue.enqueue_effect client.requests.length frame
  refine .head entered (registered.afterOffer_steps (admits _) frame _ _ _ agrees found rfl framed
    rfl ?_ offered)
  rw [queue_eq, ← idle, Function.update_eq_self]

/-- `start_request` up to its first suspension. -/
theorem startRequest_steps (type : τ) (value : ν type) (response : τ) (deadline : Option Deadline)
    (permitted : ∀ stream, client.isShuttingDown = false →
      client.streamIds.allocate.2 = .success stream → permits client.ledger (.registers stream))
    (leaks : ∀ stream, client.isShuttingDown = false →
      client.streamIds.allocate.2 = .success stream →
      (encodeMessage registry codec type value stream).frame = none → permits client.ledger .leaks)
    (admits : ∀ ledger, permits ledger (.admits client.requests.length))
    (consistent : client.ledger.Consistent) :
    Steps registry codec permits client.ledger
      (client.startRequest registry codec type value response deadline).ledger := by
  unfold startRequest
  split
  · exact .refl
  · rename_i serving
    have serving : client.isShuttingDown = false := Bool.eq_false_iff.mpr serving
    have taken : client.ledger.streamIds.allocate.2 = .exhausted ∨ permits client.ledger .leaks →
        Step registry codec permits client.ledger
          { client.ledger with streamIds := client.ledger.streamIds.allocate.1 } := .allocated
    cases outcome : client.streamIds.allocate with
    | mk streamIds allocation =>
      have outcome_eq : client.ledger.streamIds.allocate = (streamIds, allocation) := outcome
      rw [outcome_eq] at taken
      dsimp only
      cases granted : allocation.stream with
      | none => exact .single (taken (Or.inl (allocation_exhausted consistent outcome_eq granted)))
      | some stream =>
        have success : client.ledger.streamIds.allocate.2 = .success stream := by
          rw [outcome_eq]
          exact allocation_of_stream consistent outcome_eq granted
        cases encoded : (encodeMessage registry codec type value stream).frame with
        | none =>
          simp only [encoded]
          exact .single (taken (Or.inr (leaks stream serving success encoded)))
        | some frame =>
          simp only [encoded]
          exact client.register_steps frame stream response deadline streamIds
            (permitted stream serving success) admits (congrArg Prod.fst outcome) success encoded
            consistent

omit [DecidableEq τ] in
/-- The object of a dropped handle keeps its owner until the handle is gone, and gives
its stream back. -/
theorem discardPending_found (consistent : client.ledger.Consistent)
    (found : client.requests[request]? = some object) :
    ∃ kept, (client.discardPending request).requests[request]? = some kept ∧
      kept.owner = object.owner ∧ kept.streamReleased = true := by
  have sane := consistent.sane request object found
  have listed := client.listed_of_consistent consistent found
  by_cases active : object.operation.state = .active
  · obtain ⟨operation, offered, -, -, after⟩ := client.discardPending_active found sane listed active
    have requests := congrArg Ledger.requests after
    refine ⟨object.failedWith operation (.failure .cancelled "operation handle released") true, ?_,
      rfl, Bool.or_true _⟩
    exact (congrArg (fun heap => heap[request]?) requests).trans
      ((getElem?_set_found _ found request).trans (if_pos rfl))
  · exact ⟨_, found_of_retire _ found (client.discardPending_over found sane listed active), rfl,
      Bool.or_true _⟩

omit [DecidableEq τ] in
/-- The start of the connection leaves the ledger as it is. -/
@[simp] theorem run_ledger : client.run.ledger = client.ledger := by
  unfold run
  dsimp only
  split <;> rfl

/-- The changes that depend on the event at hand, with the ledger they start
from. -/
inductive Brings (registry : MessageRegistry τ) (codec : Codec τ ν)
    (client after : ClientConnection ν) : ClientEvent ν → Ledger ν → Change → Prop where
  | leaks (type : τ) (value : ν type) (response : τ) (deadline : Option Deadline)
      (stream : StreamId) (serving : client.isShuttingDown = false)
      (allocation : client.streamIds.allocate.2 = .success stream)
      (unencodable : (encodeMessage registry codec type value stream).frame = none) :
      Brings registry codec client after (.startRequest type value response deadline) client.ledger
        .leaks
  | registers (type : τ) (value : ν type) (response : τ) (deadline : Option Deadline)
      (stream : StreamId) (serving : client.isShuttingDown = false)
      (allocation : client.streamIds.allocate.2 = .success stream) :
      Brings registry codec client after (.startRequest type value response deadline) client.ledger
        (.registers stream)
  | admitsNew (type : τ) (value : ν type) (response : τ) (deadline : Option Deadline)
      (ledger : Ledger ν) :
      Brings registry codec client after (.startRequest type value response deadline) ledger
        (.admits client.requests.length)
  | admitsHeld (request : Nat) (ledger : Ledger ν) :
      Brings registry codec client after (.resumeEnqueue request) ledger (.admits request)
  | cancels (request : Nat) (message : String) (object : PendingRequest ν)
      (found : client.requests[request]? = some object) (handle : object.owner = .handle) :
      Brings registry codec client after (.cancel request message) client.ledger (.abandons request)
  | timesOut (request : Nat) (object : PendingRequest ν)
      (found : client.requests[request]? = some object) (expired : object.timer = .expired) :
      Brings registry codec client after (.timerHandler request)
        (client.ledger.replace request { object with timer := .done }) (.abandons request)
  | discards (request : Nat) (object : PendingRequest ν)
      (found : client.requests[request]? = some object) (handle : object.owner = .handle) :
      Brings registry codec client after (.destroyHandle request) client.ledger (.abandons request)
  | returns (request wait : Nat) :
      Brings registry codec client after (.resumeWait request wait) client.ledger (.returns request)
  | abortsWait (request wait : Nat) (ledger : Ledger ν) :
      Brings registry codec client after (.abortWait request wait) ledger (.abortsWait request)
  | completes (frame : Frame) (rest : List Frame) (request : Nat)
      (reading : client.reader = .dispatching (frame :: rest)) :
      Brings registry codec client after .dispatchNext client.ledger (.completes request frame)
  | rejects (frame : Frame) (rest : List Frame) (request : Nat)
      (reading : client.reader = .dispatching (frame :: rest)) :
      Brings registry codec client after .dispatchNext client.ledger (.rejects request frame)
  | fails (event : ClientEvent ν) (ledger : Ledger ν)
      (idle : ∀ frame rest, client.reader ≠ .dispatching (frame :: rest))
      (stops : after.reader = .finished ∨ after.transportOpen = false) :
      Brings registry codec client after event ledger .fails
  | failsBlaming (frame : Frame) (rest : List Frame) (ledger : Ledger ν)
      (reading : client.reader = .dispatching (frame :: rest))
      (blames : client.ledger.Blames frame) : Brings registry codec client after .dispatchNext ledger .fails
  | accuses (frame : Frame) (rest : List Frame) (ledger : Ledger ν)
      (reading : client.reader = .dispatching (frame :: rest))
      (blames : client.ledger.Blames frame) :
      Brings registry codec client after .dispatchNext ledger (.accuses frame)
  | charges (ledger : Ledger ν) (error : client.decoder.error ≠ none) :
      Brings registry codec client after .dispatchNext ledger .charges

/-- Every event other than the loop over frames is a sequence of changes. -/
theorem act_steps (event : ClientEvent ν) (after : ClientConnection ν)
    (idle : ∀ frame rest, client.reader ≠ .dispatching (frame :: rest))
    (consistent : client.ledger.Consistent) (acts : client.Acts registry codec event after) :
    Steps registry codec (client.Brings registry codec after event) client.ledger after.ledger := by
  cases acts with
  | run =>
    rw [run_ledger]
    exact .refl
  | startWriter queue started =>
    rw [client.kept_ledger (client.writeQueue.run_effect queue started).1]
    exact .refl
  | startReader =>
    exact client.continueReading_steps
      (fun finished ledger => .fails _ ledger idle (Or.inl finished)) consistent
  | startRequest type value response deadline =>
    exact client.startRequest_steps type value response deadline
      (fun stream => .registers type value response deadline stream)
      (fun stream => .leaks type value response deadline stream)
      (.admitsNew type value response deadline) consistent
  | resumeEnqueue request queue result resumed =>
    obtain ⟨frame, holds, offered⟩ :=
      client.writeQueue.resumeEnqueue_effect request queue result resumed
    obtain ⟨object, found, starting, framed⟩ := consistent.held request frame holds
    exact client.afterOffer_steps (.admitsHeld request _) frame (client.writeQueue.leave request)
      queue result consistent
      found starting framed rfl (client.writeQueue.leave_held request) offered
  | abortEnqueue request message queue aborted =>
    rw [client.kept_ledger (client.writeQueue.abortEnqueue_kept request message queue aborted).1]
    exact .refl
  | cancel request message object found handle =>
    exact client.cancelPending_steps consistent message (.cancels request message object found handle)
      found
  | timerExpires request object found waiting =>
    rw [client.modifyRequest_ledger _ found]
    exact .single (.touched request object _ found (.timer .expired (by simp [waiting])))
  | timerExpired request object found expired =>
    have replaced := client.modifyRequest_ledger (fun object => { object with timer := .done }) found
    have handled : Step registry codec (client.Brings registry codec
        ((client.modifyRequest request fun object =>
          { object with timer := .done }).timeoutPending request) (.timerHandler request))
        client.ledger
        (client.modifyRequest request fun object => { object with timer := .done }).ledger := by
      rw [replaced]
      exact .touched request object _ found (.timer .done (by simp [expired]))
    have reread : (client.modifyRequest request fun object =>
        { object with timer := .done }).requests[request]? =
          some { object with timer := .done } := by
      simp [modifyRequest, found]
    refine .head handled (timeoutPending_steps _ (handled.consistent consistent) ?_ reread)
    rw [replaced]
    exact .timesOut request object found expired
  | timerCancelled request object found cancelled =>
    rw [client.modifyRequest_ledger _ found]
    exact .single (.touched request object _ found (.timer .done (by simp [cancelled])))
  | destroyHandle request object found idle =>
    obtain ⟨handle, -⟩ := idle
    have discarded : Steps registry codec
        (client.Brings registry codec ((client.discardPending request).modifyRequest request fun object =>
          { object with owner := .released }) (.destroyHandle request)) client.ledger
        (client.discardPending request).ledger :=
      client.discardPending_steps consistent (.discards request object found handle) found handle
    obtain ⟨kept, reread, owner, freed⟩ := client.discardPending_found consistent found
    rw [modifyRequest_ledger _ _ reread]
    exact discarded.tail
      (.touched request kept _ reread (.released (owner.trans handle) freed))
  | asyncWait request object found handle =>
    rw [client.modifyRequest_ledger _ found]
    exact .single (.touched request object _ found (.asyncWait handle))
  | resumeWait request wait object posted found looked =>
    have member : (wait, posted) ∈ object.resumed := by
      obtain ⟨front, back, split, -⟩ := List.lookup_eq_some_iff.mp looked
      rw [split]
      simp
    rw [client.resumeWait_ledger wait posted consistent found]
    exact .single (.returned request object wait posted (.returns request wait) found member)
  | abortWait request wait object found waiting =>
    rw [client.modifyRequest_ledger _ found]
    exact .single (.touched request object _ found
      (.abortWait (.abortsWait request wait _) wait waiting))
  | received bytes => exact .refl
  | endOfFile closes =>
    exact finishReading_steps { client with transportOpen := client.transportOpen && !closes }
      (fun ledger => .fails _ ledger idle (Or.inl (finishReading_reader _))) consistent
  | readFailed closes =>
    exact finishReading_steps { client with transportOpen := client.transportOpen && !closes }
      (fun ledger => .fails _ ledger idle (Or.inl (finishReading_reader _))) consistent
  | shutdown expired =>
    exact client.shutdown_steps expired
      (fun closed ledger => .fails _ ledger idle (Or.inr closed)) consistent
  | drainTick expired aborted =>
    exact client.drainTick_steps expired aborted
      (fun closed ledger => .fails _ ledger idle (Or.inr closed)) consistent
  | resumeWriter queue resumed =>
    have same := client.kept_ledger (client.writeQueue.resumeRun_effect queue resumed).1
    exact same ▸ .refl
  | writeCompleted queue frame completed =>
    have same := client.kept_ledger (client.writeQueue.writeCompleted_effect queue frame completed).1
    exact same ▸ .refl
  | writeFailed what queue failed =>
    have same := client.kept_ledger (client.writeQueue.writeFailed_effect what queue failed).1
    exact same ▸ .refl

/-- Every step of the connection is a sequence of changes. -/
theorem step_steps (event : ClientEvent ν) (after : ClientConnection ν)
    (consistent : client.ledger.Consistent)
    (stepped : client.step registry codec event = some after) :
    Steps registry codec (client.Brings registry codec after event) client.ledger after.ledger := by
  cases client.step_advances stepped with
  | dispatches frame rest reading =>
    exact client.dispatchFrame_steps frame rest (fun request => .completes frame rest request reading)
      (fun request => .rejects frame rest request reading)
      (fun blames ledger => .failsBlaming frame rest ledger reading blames)
      (fun blames ledger => .accuses frame rest ledger reading blames) consistent
  | leaves reading =>
    have idle : ∀ frame rest, client.reader ≠ .dispatching (frame :: rest) := by
      simp [reading]
    exact client.endBatch_steps (fun finished ledger => .fails _ ledger idle (Or.inl finished))
      (fun error ledger => .charges ledger error) consistent
  | acts other acts =>
    exact client.act_steps event after (fun frame rest => other (frame :: rest)) consistent acts

/-- Outside the loop over frames a step is an event of the connection. -/
theorem step_idle (event : ClientEvent ν) (idle : ∀ frames, client.reader ≠ .dispatching frames) :
    client.step registry codec event = client.act registry codec event := by
  cases reading : client.reader with
  | dispatching frames => exact absurd reading (idle frames)
  | notStarted | spawned | awaiting | finished => simp [step, reading]

omit [DecidableEq τ] in
/-- A constructed connection has an empty table. -/
theorem create_consistent (limits : WriteQueueLimits) (maximumStreamId : UInt64) :
    (create limits maximumStreamId : ClientConnection ν).ledger.Consistent where
  allocator := StreamIdAllocator.create_sound .client maximumStreamId
  sane := by simp [create, ledger]
  assigned := by simp [create, ledger]
  entry := by simp [create, ledger]
  listed := by simp [create, ledger]
  inUse := by simp [create, ledger]
  distinct := by simp [create, ledger]
  held := by simp [create, ledger]

variable (registry codec) in
/-- The states a connection can reach from its construction. -/
def Reachable (guard : ClientConnection ν → ClientEvent ν → Prop) (limits : WriteQueueLimits)
    (maximumStreamId : UInt64) : ClientConnection ν → Prop :=
  Reachability.Reaches (step registry codec) guard (create limits maximumStreamId)

/-- In every reachable state the map, the objects and the allocator agree. -/
theorem Reachable.consistent {guard : ClientConnection ν → ClientEvent ν → Prop}
    {limits : WriteQueueLimits} {maximumStreamId : UInt64} {client : ClientConnection ν}
    (reachable : Reachable registry codec guard limits maximumStreamId client) :
    client.ledger.Consistent := by
  apply Reachability.Reaches.invariant (fun client => client.ledger.Consistent)
    (create_consistent limits maximumStreamId) ?_ reachable
  intro before event after consistent _ stepped
  exact (before.step_steps event after consistent stepped).consistent consistent

/-- Nothing happens to the other requests. Their objects stay as they are, their entries
stay in the map, and a stream that one of them has not given back stays in use, whether
the request is still listed or has left the map already. -/
structure Spares (request : Nat) (before after : Ledger ν) : Prop where
  requests : ∀ other : Nat, other ≠ request → after.requests[other]? = before.requests[other]?
  entries : ∀ (stream : StreamId) (other : Nat), other ≠ request →
    before.pending.lookup stream = some other →
    after.pending.lookup stream = some other ∧ stream.value ∈ after.streamIds.inUse
  streams : ∀ (other : Nat) (object : PendingRequest ν), other ≠ request →
    before.requests[other]? = some object → object.streamReleased = false →
    object.operation.stream.value ∈ after.streamIds.inUse

omit [DecidableEq τ] in
/-- An entry's stream is in use. -/
theorem entry_inUse {before : Ledger ν} (consistent : before.Consistent) (stream : StreamId)
    (other : Nat) (entry : before.pending.lookup stream = some other) :
    stream.value ∈ before.streamIds.inUse := by
  obtain ⟨object, present, rfl, -, live⟩ := consistent.entry stream other entry
  exact consistent.inUse other object present (consistent.listed other object present live).2

omit [DecidableEq τ] in
/-- Where nothing changes, everybody is spared. -/
theorem spares_refl {before : Ledger ν} (consistent : before.Consistent) :
    Spares request before before where
  requests := fun _ _ => rfl
  entries := fun stream other _ entry => ⟨entry, entry_inUse consistent stream other entry⟩
  streams := fun other object _ present unreleased =>
    consistent.inUse other object present unreleased

omit [DecidableEq τ] in
/-- Replacing the object of the request itself spares the others. -/
theorem Spares.replace {before after : Ledger ν} (spares : Spares request before after)
    (new : PendingRequest ν) : Spares request before (after.replace request new) where
  requests := fun other different =>
    (List.getElem?_set_ne different.symm).trans (spares.requests other different)
  entries := spares.entries
  streams := spares.streams

omit [DecidableEq τ] in
/-- Taking the request itself out of the map, and giving back the stream it holds, spares
the others. -/
theorem spares_retire {before : Ledger ν} {old : PendingRequest ν} (new : PendingRequest ν)
    (release : Bool) (consistent : before.Consistent)
    (found : before.requests[request]? = some old) :
    Spares request before (before.retire request old new release) := by
  constructor
  · intro other different
    exact List.getElem?_set_ne different.symm
  · intro stream other different entry
    obtain ⟨object, present, rfl, -, live⟩ := consistent.entry stream other entry
    have unreleased := (consistent.listed other object present live).2
    exact ⟨Ledger.retire_listed consistent found other object different entry,
      Ledger.retire_inUse_other consistent found other object different present unreleased⟩
  · intro other object different present unreleased
    exact Ledger.retire_inUse_other consistent found other object different present unreleased

omit [DecidableEq τ] in
/-- Giving up a request spares the others: the cancellation is sent on its own stream. -/
theorem spares_abandons {before after : Ledger ν} {old : PendingRequest ν} {result : OperationResult}
    {release : Bool} (consistent : before.Consistent)
    (found : before.requests[request]? = some old)
    (abandons : Abandons before after request old result release) :
    Spares request before after := by
  obtain ⟨operation, offered, -, -, rfl⟩ := abandons
  have spared := spares_retire (old.failedWith operation result release) release consistent found
  exact ⟨spared.requests, spared.entries, spared.streams⟩

/-- A use of the handle of one request. -/
inductive UsesHandle (request : Nat) : ClientEvent ν → Prop where
  | cancel (message : String) : UsesHandle request (.cancel request message)
  | asyncWait : UsesHandle request (.asyncWait request)
  | resumeWait (wait : Nat) : UsesHandle request (.resumeWait request wait)
  | abortWait (wait : Nat) : UsesHandle request (.abortWait request wait)
  | destroyHandle : UsesHandle request (.destroyHandle request)

/-- A use of one request's handle leaves the other requests alone. -/
theorem usesHandle_spares (event : ClientEvent ν) (after : ClientConnection ν)
    (consistent : client.ledger.Consistent) (uses : UsesHandle request event)
    (acts : client.Acts registry codec event after) :
    Spares request client.ledger after.ledger := by
  cases uses with
  | cancel message =>
    cases acts with
    | cancel _ _ object found =>
      have sane := consistent.sane request object found
      by_cases active : object.operation.state = .active
      · exact spares_abandons consistent found (client.cancelPending_active message found sane
          (client.listed_of_consistent consistent found) active)
      · rw [client.cancelPending_over message found sane active]
        exact spares_refl consistent
  | asyncWait =>
    cases acts with
    | asyncWait _ object found =>
      rw [client.modifyRequest_ledger _ found]
      exact (spares_refl consistent).replace _
  | resumeWait wait =>
    cases acts with
    | resumeWait _ _ object posted found =>
      rw [client.resumeWait_ledger wait posted consistent found]
      exact spares_retire _ true consistent found
  | abortWait wait =>
    cases acts with
    | abortWait _ _ object found =>
      rw [client.modifyRequest_ledger _ found]
      exact (spares_refl consistent).replace _
  | destroyHandle =>
    cases acts with
    | destroyHandle _ object found =>
      have sane := consistent.sane request object found
      have listed := client.listed_of_consistent consistent found
      obtain ⟨kept, reread, -⟩ := client.discardPending_found consistent found
      rw [modifyRequest_ledger _ _ reread]
      have spared : Spares request client.ledger (client.discardPending request).ledger := by
        by_cases active : object.operation.state = .active
        · exact spares_abandons consistent found
            (client.discardPending_active found sane listed active)
        · rw [client.discardPending_over found sane listed active]
          exact spares_retire _ true consistent found
      exact spared.replace _

variable (registry codec) in
/-- The client table invariant. In every reachable state each entry of the map
names an object on its own stream whose operation is active, which is neither
removed nor released, whose channel is open and empty, and whose stream is in
use; the stream of an object that has not given it back is in use, and any two such
objects have different streams. A stream about to be handed out has no entry, so
entering it in the map always inserts, and a use of one request's handle neither erases
the entry nor releases the stream of any other request, listed or not. -/
theorem table_invariant (limits : WriteQueueLimits) (maximumStreamId : UInt64)
    (client : ClientConnection ν)
    (reachable : Reachable registry codec Reachability.unguarded limits maximumStreamId client) :
    (∀ (stream : StreamId) (request : Nat), client.pending.lookup stream = some request →
      ∃ object, client.requests[request]? = some object ∧ object.operation.stream = stream ∧
        object.operation.state = .active ∧ object.removed = false ∧
        object.streamReleased = false ∧ object.channel.closed = false ∧
        object.channel.buffer = [] ∧ stream.value ∈ client.streamIds.inUse) ∧
    (∀ (request : Nat) (object : PendingRequest ν), client.requests[request]? = some object →
      object.streamReleased = false →
      object.operation.stream.value ∈ client.streamIds.inUse) ∧
    (∀ (first second : Nat) (one other : PendingRequest ν), first ≠ second →
      client.requests[first]? = some one → client.requests[second]? = some other →
      one.streamReleased = false → other.streamReleased = false →
      one.operation.stream ≠ other.operation.stream) ∧
    (∀ stream, client.streamIds.allocate.2 = .success stream →
      client.pending.lookup stream = none) ∧
    (∀ (request : Nat) (event : ClientEvent ν) (after : ClientConnection ν),
      UsesHandle request event → client.step registry codec event = some after →
      Spares request client.ledger after.ledger) := by
  have consistent := reachable.consistent
  refine ⟨?_, consistent.inUse, ?_, ?_, ?_⟩
  · intro stream request entry
    obtain ⟨object, found, sameStream, active, live⟩ := consistent.entry stream request entry
    obtain ⟨notClosed, vacant⟩ := (consistent.sane request object found).vacant active
    have unreleased := (consistent.listed request object found live).2
    exact ⟨object, found, sameStream, active, live, unreleased, notClosed, vacant,
      entry_inUse consistent stream request entry⟩
  · intro first second one other different foundOne foundOther unreleased unreleasedOther same
    exact different (consistent.distinct first second one other foundOne foundOther unreleased
      unreleasedOther same)
  · intro stream allocation
    exact Ledger.allocated_unlisted consistent stream allocation
  · intro request event after uses stepped
    cases client.step_advances stepped with
    | dispatches | leaves => cases uses
    | acts _ acts => exact client.usesHandle_spares event after consistent uses acts

/-- A run in which a cancelled request gave its stream to a second request while
its own handle is still alive. -/
def recycled : Option (ClientConnection fun _ : Unit => UInt8) :=
  Reachability.run (step byteRegistry byteCodec) Reachability.unguarded
    (create {} 0xFFFFFFFFFFFFFFFF)
    [.run, .startWriter, .startReader, .startRequest () 5 () none, .resumeWriter, .writeCompleted,
      .asyncWait 0, .cancel 0 "operation cancelled", .resumeWait 0 0,
      .startRequest () 6 () (some 3)]

/-- The second request owns the stream, and the first handle cannot touch it. -/
theorem table_invariant_recycled :
    ∃ client, recycled = some client ∧
      (∃ object, client.requests[1]? = some object ∧ object.operation.stream = ⟨1⟩ ∧
        object.streamReleased = false) ∧
      ∀ after, client.step byteRegistry byteCodec (.destroyHandle 0) = some after →
        after.pending.lookup ⟨1⟩ = some 1 := by
  have reads : recycled.map (fun client => client.pending.lookup ⟨1⟩) = some (some 1) := by
    decide +kernel
  obtain ⟨client, reached, entry⟩ := Option.map_eq_some_iff.mp reads
  obtain ⟨entries, -, -, -, spares⟩ := table_invariant byteRegistry byteCodec {} 0xFFFFFFFFFFFFFFFF
    client (Reachability.run_reaches _ _ _ _ _ reached)
  obtain ⟨object, found, stream, -, -, unreleased, -⟩ := entries ⟨1⟩ 1 entry
  refine ⟨client, reached, ⟨object, found, stream, unreleased⟩, ?_⟩
  intro after stepped
  exact ((spares 0 (.destroyHandle 0) after .destroyHandle stepped).entries ⟨1⟩ 1 (by decide)
    entry).1

end ClientConnection

end Runs

end Rillnet
