import Rillnet.ClientResults
import Rillnet.ConnectionShell

/-!
# The shell of a client connection

Functions that work on requests leave the shell alone, so what the connection
does as a whole is read off the few events that turn it.
-/

namespace Rillnet

section Shell

variable {τ : Type} {ν : τ → Type}

/-- The bytes an event reads from the transport. -/
def ClientEvent.input : ClientEvent ν → Buffer
  | .received bytes => bytes
  | _ => []

namespace ClientConnection

/-- The shell of a connection. -/
def shell (client : ClientConnection ν) : ConnectionShell where
  transportOpen := client.transportOpen
  decoder := client.decoder
  lifecycle := client.lifecycle
  reader := client.reader
  drains := client.drains
  shutdownEntered := client.shutdownEntered
  written := client.writeQueue.written
  sent := client.sent
  dispatched := client.dispatched
  violations := client.violations

variable (client : ClientConnection ν) (request : Nat)

/-- Telling the observers leaves the shell as it is. -/
@[simp] theorem notify_shell (event : DiagnosticsEvent) : (client.notify event).shell = client.shell :=
  rfl

/-- Writing the object of a request leaves the shell as it is. -/
@[simp] theorem modifyRequest_shell (change : PendingRequest ν → PendingRequest ν) :
    (client.modifyRequest request change).shell = client.shell := rfl

/-- The finishing methods of an operation stay within the request and its observers. -/
@[simp] theorem finishOperation_shell (call : Operation StreamId → Operation StreamId × Bool) :
    (client.finishOperation request call).1.shell = client.shell := by
  unfold finishOperation
  split <;> rfl

/-- Entering a request in the map leaves the shell as it is. -/
@[simp] theorem emplacePending_shell (stream : StreamId) :
    (client.emplacePending stream request).shell = client.shell := by
  unfold emplacePending
  split <;> rfl

/-- Leaving the map and giving the stream back leave the shell alone. -/
@[simp] theorem cleanupPending_shell (release : Bool) :
    (client.cleanupPending request release).shell = client.shell := by
  unfold cleanupPending
  split
  · rfl
  · dsimp only
    split <;> split <;> rfl

/-- A cancellation is offered to the queue; what the transport was handed so far stays the
same. -/
@[simp] theorem sendCancellation_shell (stream : StreamId) :
    (client.sendCancellation stream).shell = client.shell := by
  have written := client.writeQueue.tryEnqueueFrame_written (cancellationFrame stream)
  simp [shell, sendCancellation, WriteQueue.tryEnqueue, written]

/-- Giving a request up cleans its entry and offers a cancellation, and does no more. -/
@[simp] theorem abandonPending_shell : (client.abandonPending request).shell = client.shell := by
  simp [abandonPending]

/-- A deadline that passes ends one request, not the connection. -/
@[simp] theorem timeoutPending_shell : (client.timeoutPending request).shell = client.shell := by
  unfold timeoutPending
  dsimp only
  split <;> simp

/-- A cancellation by the application ends one request, not the connection. -/
@[simp] theorem cancelPending_shell (message : String) :
    (client.cancelPending request message).1.shell = client.shell := by
  unfold cancelPending
  dsimp only
  split <;> simp

/-- A handle that is destroyed ends at most its own request. -/
@[simp] theorem discardPending_shell : (client.discardPending request).shell = client.shell := by
  unfold discardPending
  dsimp only
  rw [cleanupPending_shell]
  split <;> simp

/-- A failed request is taken out of the map while the connection goes on. -/
@[simp] theorem failRequest_shell (status : StatusCode) (message : String) (release : Bool) :
    (client.failRequest request status message release).shell = client.shell := by
  simp [failRequest]

/-- The loop that fails all requests works on the map alone, round after round. -/
theorem failPendingLoop_shell (status : StatusCode) (message : String) (fuel : Nat)
    (client : ClientConnection ν) :
    (failPendingLoop status message fuel client).shell = client.shell := by
  induction fuel generalizing client with
  | zero => rfl
  | succ fuel inductionHypothesis =>
    unfold failPendingLoop
    split
    · rfl
    · rw [inductionHypothesis, failRequest_shell]

/-- Failing every request leaves it to the caller to close the connection. -/
@[simp] theorem failPending_shell (status : StatusCode) (message : String) :
    (client.failPending status message).shell = client.shell :=
  failPendingLoop_shell status message _ client

/-- The end of the connection is reported, at most once, after the shell has turned. -/
@[simp] theorem notifyClosed_shell : client.notifyClosed.shell = client.shell := by
  unfold notifyClosed
  split <;> rfl

/-- Recording an ended stream leaves the shell as it is. -/
@[simp] theorem markTerminal_shell (frame : Frame) :
    (client.markTerminal frame).shell = client.shell := by
  unfold markTerminal
  split <;> rfl

/-- A response that reaches its request leaves the connection as it is. -/
@[simp] theorem deliver_shell (frame : Frame) :
    (client.deliver request frame).shell = client.shell := by
  simp [deliver]

/-- `fail_connection` closes the transport and records the violation, and the shell sees
nothing else of it: the failed requests are not its concern. -/
theorem failConnection_shell (status : StatusCode) (message : String) :
    (client.failConnection status message).shell = client.shell.fail (status, message) := by
  have failed : ∀ other : ClientConnection ν, other.shell = client.shell →
      ({ other.failPending status message with
        transportOpen := false
        violations := (other.failPending status message).violations ++ [(status, message)] } :
          ClientConnection ν).shell = client.shell.fail (status, message) := by
    intro other same
    have kept := (other.failPending_shell status message).trans same
    exact congrArg (fun shell : ConnectionShell => shell.fail (status, message)) kept
  unfold failConnection
  dsimp only
  split
  · exact failed _ rfl
  · exact failed _ rfl

/-- Routing a frame leaves the shell alone, or fails the connection. -/
theorem dispatch_shell (frame : Frame) :
    (client.dispatch frame).shell = client.shell ∨
      ∃ violation, (client.dispatch frame).shell = client.shell.fail violation := by
  unfold dispatch
  split
  · exact Or.inr ⟨_, client.failConnection_shell _ _⟩
  · split
    · exact Or.inr ⟨_, client.failConnection_shell _ _⟩
    · split
      · exact Or.inr ⟨_, client.failConnection_shell _ _⟩
      · split
        · exact Or.inl (by simp)
        · split
          · split
            · exact Or.inr ⟨_, client.failConnection_shell _ _⟩
            · exact Or.inl (by simp)
          · dsimp only
            split
            · exact Or.inl (by simp)
            · refine Or.inr ⟨(.malformedFrame, "duplicate terminal frame"), ?_⟩
              rw [failConnection_shell, finishOperation_shell]

/-- A frame that is dispatched joins the dispatched ones, whether the connection is failed
over it or not. -/
theorem dispatchFrame_shell (frame : Frame) (rest : List Frame) :
    (client.dispatchFrame frame rest).shell = client.shell.seen frame rest ∨
      ∃ violation,
        (client.dispatchFrame frame rest).shell = (client.shell.fail violation).seen frame rest := by
  have routed := dispatch_shell (client.notify
    { type := .messageTransferred, stream := frame.header.stream, inbound := true }) frame
  rcases routed with same | ⟨violation, failed⟩
  · exact Or.inl (congrArg (fun shell : ConnectionShell => shell.seen frame rest) same)
  · exact Or.inr ⟨violation, congrArg (fun shell : ConnectionShell => shell.seen frame rest) failed⟩

/-- When reading ends, the reader is finished and the connection is closed if it may be;
the transport is left as it was. -/
theorem finishReading_shell :
    client.finishReading.shell =
      { client.shell with
        reader := .finished
        lifecycle := (client.shell.lifecycle.transition .closed).1 } := by
  have kept := client.failPending_shell .connectionClosed
    "connection closed while awaiting a response"
  rw [finishReading, notifyClosed_shell]
  exact congrArg (fun shell : ConnectionShell => { shell with
    reader := .finished
    lifecycle := (shell.lifecycle.transition .closed).1 }) kept

/-- The end of `shutdown` closes the transport and the connection, whether requests were
left over or not. -/
theorem finishShutdown_shell :
    client.finishShutdown.shell =
      { client.shell with
        transportOpen := false
        lifecycle := (client.shell.lifecycle.transition .closed).1 } := by
  have kept : (if client.pending.entries.isEmpty then client
      else client.failPending .connectionClosed "connection drain period expired").shell =
        client.shell := by
    split <;> simp
  rw [finishShutdown, notifyClosed_shell]
  exact congrArg (fun shell : ConnectionShell => { shell with
    transportOpen := false
    lifecycle := (shell.lifecycle.transition .closed).1 }) kept

/-- The answer of the queue decides about one request only. -/
@[simp] theorem finishStart_shell (sent : WriteResult) :
    (client.finishStart request sent).shell = client.shell := by
  unfold finishStart
  split <;> simp

/-- The rest of `start_request` or of its wait for space hands nothing to the transport. -/
theorem afterOffer_shell (offered : WriteQueue × Option WriteResult)
    (written : offered.1.written = client.writeQueue.written) :
    (client.afterOffer request offered).shell = client.shell := by
  have queued : ({ client with writeQueue := offered.1 } : ClientConnection ν).shell =
      client.shell := by
    simp [shell, written]
  unfold afterOffer
  split
  · exact queued
  · rw [finishStart_shell]
    exact queued

section Calls

variable [DecidableEq τ] (registry : MessageRegistry τ) (codec : Codec τ ν)

/-- A new request enters the map and offers its frame; the shell does not turn. -/
@[simp] theorem startRequest_shell (type : τ) (value : ν type) (response : τ)
    (deadline : Option Deadline) :
    (client.startRequest registry codec type value response deadline).shell = client.shell := by
  unfold startRequest
  split
  · rfl
  · dsimp only
    split
    · rfl
    · split
      · rfl
      · rw [afterOffer_shell _ _ _ (WriteQueue.enqueue_effect _ _ _).same_written, notify_shell,
          emplacePending_shell]
        rfl

/-- A wait that returns cleans up after its own request only. -/
@[simp] theorem resumeWait_shell (wait : Nat) (posted : Option Frame) :
    (client.resumeWait registry codec request wait posted).shell = client.shell := by
  simp [resumeWait]

end Calls

/-- The first act of `shutdown` moves an active connection to draining and changes nothing
else. -/
theorem beginShutdown_shell :
    client.beginShutdown.shell = { client.shell with lifecycle := client.lifecycle.drained } := by
  unfold beginShutdown ConnectionState.drained
  cases state : client.lifecycle <;>
    simp [shell, transition, ConnectionState.transition, ConnectionState.canTransition, state]

section Turns

open ConnectionShell (Turn)

variable (consistent : client.ledger.Consistent)
include consistent

/-- When reading has ended no request is pending any more: what was left is failed. -/
theorem finishReading_vacated : client.finishReading.pending.entries = [] := by
  have ledger_eq := congrArg Ledger.pending client.finishReading_ledger
  have failed := (client.failPending_spec consistent .connectionClosed
    "connection closed while awaiting a response" (by decide)).2
  exact (congrArg AList.entries ledger_eq).trans failed.pending

/-- After `shutdown` no request is pending: the map was empty, or its entries are failed. -/
theorem finishShutdown_vacated : client.finishShutdown.pending.entries = [] := by
  have same : client.finishShutdown.pending = (if client.pending.entries.isEmpty then client
      else client.failPending .connectionClosed "connection drain period expired").pending :=
    congrArg Ledger.pending (notifyClosed_ledger _)
  rw [same]
  split
  · rename_i empty
    exact List.isEmpty_iff.mp empty
  · exact (client.failPending_spec consistent _ _ (by decide)).2.pending

/-- Failing the connection keeps the table in order. -/
theorem failConnection_consistent (status : StatusCode) (message : String)
    (failure : status ≠ .ok) : (client.failConnection status message).ledger.Consistent := by
  unfold failConnection
  dsimp only
  split
  · have failed := failPending_consistent (client.notify
      { type := .protocolError, status := status, inbound := true, message := message }) consistent
      status message failure
    exact Ledger.history_consistent failed _ rfl rfl rfl rfl
  · exact Ledger.history_consistent (client.failPending_consistent consistent status message failure)
      _ rfl rfl rfl rfl

/-- The reader goes on to wait for bytes, or ends where the transport is closed. -/
theorem continueReading_turn (begun : client.reader = .spawned ∨ client.reader = .dispatching [])
    (sound : client.reader = .dispatching [] → client.decoder.error = none) :
    Turn (client.continueReading.pending.entries = []) client.shell []
      client.continueReading.shell := by
  unfold continueReading
  by_cases usable : client.transportOpen = true
  · rw [if_pos usable]
    exact .awaits begun sound usable
  · rw [if_neg usable, finishReading_shell]
    refine .ended ?_ client.transportOpen id (client.finishReading_vacated consistent)
    rcases begun with spawned | dispatched
    · exact Or.inl spawned
    · exact Or.inr (Or.inr dispatched)

/-- After the last frame of a read the reader goes on, unless the decoder found an error:
then the connection is failed and reading ends. -/
theorem endBatch_turn (reading : client.reader = .dispatching []) :
    Turn (client.endBatch.pending.entries = []) client.shell [] client.endBatch.shell := by
  unfold endBatch
  cases found : client.decoder.error with
  | none => exact client.continueReading_turn consistent (Or.inr reading) (fun _ => found)
  | some error =>
    have failed := client.failConnection_consistent consistent (statusForFrameValidation error)
      (frameValidationMessage error) (statusForFrameValidation_failure error)
    dsimp only
    rw [finishReading_shell, failConnection_shell]
    exact .malformed _ reading (by simp [shell, found]) (finishReading_vacated _ failed)

/-- A read that ends or fails finishes the reader, and may find the transport closed. -/
theorem readEnded_turn (awaiting : client.reader = .awaiting) (closes : Bool) :
    let ended := ({ client with transportOpen := client.transportOpen && !closes } :
      ClientConnection ν).finishReading
    Turn (ended.pending.entries = []) client.shell [] ended.shell := by
  intro ended
  have shell_eq := ({ client with transportOpen := client.transportOpen && !closes } :
    ClientConnection ν).finishReading_shell
  rw [shell_eq]
  refine .ended (Or.inr (Or.inl awaiting)) (client.transportOpen && !closes) ?_
    (finishReading_vacated _ consistent)
  intro usable
  exact (Bool.and_eq_true_iff.mp usable).1

/-- The waiting loop of `shutdown` finishes with an empty map or stays suspended. -/
theorem drain_shell (expired : Bool) :
    ((client.drain expired).pending.entries = [] ∧ (client.drain expired).shell =
      { client.shell with
        transportOpen := false
        lifecycle := (client.shell.lifecycle.transition .closed).1 }) ∨
    (client.drain expired).shell = { client.shell with drains := client.shell.drains + 1 } := by
  unfold drain
  split
  · exact Or.inl ⟨client.finishShutdown_vacated consistent, client.finishShutdown_shell⟩
  · exact Or.inr rfl

/-- A call of `shutdown` finishes at once, or begins to drain and suspends. -/
theorem shutdown_turn (expired : Bool) :
    Turn ((client.shutdown expired).pending.entries = []) client.shell []
      (client.shutdown expired).shell := by
  have begun := ({ client with shutdownEntered := true } : ClientConnection ν).beginShutdown_shell
  have agrees : ({ client with shutdownEntered := true } : ClientConnection ν
      ).beginShutdown.ledger.Consistent := by
    rw [beginShutdown_ledger]
    exact consistent
  rcases drain_shell _ agrees expired with ⟨vacated, shell_eq⟩ | shell_eq
  · rw [shutdown, shell_eq, begun]
    exact .closed vacated
  · rw [shutdown, shell_eq, begun]
    exact .shutdown

/-- A later poll of `shutdown` finishes it, or it stays suspended. -/
theorem drainTick_turn (expired aborted : Bool) (suspended : client.drains ≠ 0) :
    Turn ((client.drainTick expired aborted).pending.entries = []) client.shell []
      (client.drainTick expired aborted).shell := by
  unfold drainTick
  dsimp only
  split
  · rw [finishShutdown_shell]
    exact .ticked suspended (finishShutdown_vacated _ consistent)
  · rcases drain_shell ({ client with drains := client.drains - 1 } : ClientConnection ν) consistent
      expired with ⟨vacated, shell_eq⟩ | shell_eq
    · rw [shell_eq]
      exact .ticked suspended vacated
    · have again : client.drains - 1 + 1 = client.drains := Nat.succ_pred_eq_of_ne_zero suspended
      have same : (({ client with drains := client.drains - 1 } : ClientConnection ν).drain
          expired).shell = client.shell := by
        rw [shell_eq]
        simp [shell, again]
      rw [same]
      exact .kept

end Turns

section Events

variable [DecidableEq τ] {registry : MessageRegistry τ} {codec : Codec τ ν}

open ConnectionShell (Turn)

/-- Every event other than the loop over frames turns the shell. -/
theorem act_turn (event : ClientEvent ν) (after : ClientConnection ν)
    (consistent : client.ledger.Consistent) (acts : client.Acts registry codec event after) :
    Turn (after.pending.entries = []) client.shell event.input after.shell := by
  have quiet : after.shell = client.shell → Turn (after.pending.entries = []) client.shell []
      after.shell := by
    intro same
    rw [same]
    exact .kept
  cases acts with
  | run fresh =>
    have shell_eq : client.run.shell = { client.shell with
        reader := .spawned
        lifecycle := if client.shell.lifecycle = .created then .active
          else client.shell.lifecycle } := by
      unfold run
      cases state : client.lifecycle <;> simp [shell, transition, notify,
        ConnectionState.transition, ConnectionState.canTransition, state]
    rw [shell_eq]
    exact .run fresh
  | startWriter queue started =>
    exact quiet (by simp [shell, (client.writeQueue.run_effect queue started).2.1])
  | startReader spawned =>
    exact client.continueReading_turn consistent (Or.inl spawned) (by simp [spawned])
  | startRequest type value response deadline => exact quiet (by simp)
  | resumeEnqueue request queue result resumed =>
    obtain ⟨frame, -, offered⟩ :=
      client.writeQueue.resumeEnqueue_effect request queue result resumed
    exact quiet (client.afterOffer_shell request (queue, result) offered.same_written)
  | abortEnqueue request message queue aborted =>
    have effect := client.writeQueue.abortEnqueue_kept request message queue aborted
    exact quiet (by simp [shell, effect.2.1])
  | cancel request message => exact quiet (by simp)
  | timerExpires request => exact quiet rfl
  | timerExpired request => exact quiet (by simp)
  | timerCancelled request => exact quiet rfl
  | destroyHandle request => exact quiet (by simp)
  | asyncWait request => exact quiet rfl
  | resumeWait request wait object posted => exact quiet (by simp)
  | abortWait request wait => exact quiet rfl
  | received bytes awaiting => exact .received bytes awaiting
  | endOfFile closes awaiting => exact client.readEnded_turn consistent awaiting closes
  | readFailed closes awaiting => exact client.readEnded_turn consistent awaiting closes
  | shutdown expired => exact client.shutdown_turn consistent expired
  | drainTick expired aborted suspended =>
    exact client.drainTick_turn consistent expired aborted suspended
  | resumeWriter queue resumed =>
    have written := (client.writeQueue.resumeRun_effect queue resumed).2.1
    have turned : Turn (client.pending.entries = []) client.shell [] _ := .sent client.writeQueue.inHand
    simp only [shell, written]
    exact turned
  | writeCompleted queue frame completed =>
    have effect := client.writeQueue.writeCompleted_effect queue frame completed
    exact quiet (by simp [shell, notify, effect.2.1])
  | writeFailed what queue failed =>
    have written := (client.writeQueue.writeFailed_effect what queue failed).2.1
    have turned : Turn (client.pending.entries = []) client.shell [] _ := .lost
    simp only [shell, written]
    exact turned

/-- Every step of the connection turns the shell. -/
theorem step_turn (event : ClientEvent ν) (after : ClientConnection ν)
    (consistent : client.ledger.Consistent)
    (stepped : client.step registry codec event = some after) :
    Turn (after.pending.entries = []) client.shell event.input after.shell := by
  cases client.step_advances stepped with
  | dispatches frame rest reading =>
    rcases client.dispatchFrame_shell frame rest with shell_eq | ⟨violation, shell_eq⟩
    · rw [shell_eq]
      exact .seen frame rest reading
    · rw [shell_eq]
      exact .accused frame rest violation reading
  | leaves reading => exact client.endBatch_turn consistent reading
  | acts _ acts => exact client.act_turn event after consistent acts

end Events

end ClientConnection

end Shell

end Rillnet
