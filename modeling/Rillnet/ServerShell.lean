import Rillnet.ServerViews
import Rillnet.ConnectionShell
import Rillnet.Library.Reachability

/-!
# The shell of a server connection

Handlers and their operations leave the shell of a server connection alone. The
events that turn it turn it as they do at a client; a second request on an active
stream closes the transport without a violation.
-/

namespace Rillnet

section Shell

variable {τ : Type} {ν : τ → Type}

/-- The bytes an event reads from the transport. -/
def ServerEvent.input : ServerEvent ν → Buffer
  | .received bytes => bytes
  | _ => []

namespace ServerConnection

/-- The shell of a connection. -/
def shell (server : ServerConnection ν) : ConnectionShell where
  transportOpen := server.transportOpen
  decoder := server.decoder
  lifecycle := server.lifecycle
  reader := server.reader
  drains := server.drains
  shutdownEntered := server.shutdownEntered
  written := server.writeQueue.written
  sent := server.sent
  dispatched := server.dispatched
  violations := server.violations

variable (server : ServerConnection ν) (invocation : Nat)

/-- Telling the observers leaves the shell as it is. -/
@[simp] theorem notify_shell (event : DiagnosticsEvent) : (server.notify event).shell = server.shell :=
  rfl

/-- Writing an invocation leaves the shell as it is. -/
@[simp] theorem modifyInvocation_shell (change : Invocation ν → Invocation ν) :
    (server.modifyInvocation invocation change).shell = server.shell := rfl

/-- A method of an operation stays within its invocation and the observers. -/
@[simp] theorem callOperation_shell (call : Operation StreamId → Operation StreamId × Bool) :
    (server.callOperation invocation call).1.shell = server.shell := by
  unfold callOperation
  split <;> rfl

/-- An error is offered to the queue; what the transport was handed so far stays the same. -/
@[simp] theorem sendOperationError_shell (stream : StreamId) (status : StatusCode) :
    (server.sendOperationError stream status).shell = server.shell := by
  have written := server.writeQueue.tryEnqueueFrame_written (makeErrorFrame stream status)
  simp [shell, sendOperationError, WriteQueue.tryEnqueue, written]

/-- Recording an ended stream leaves the shell as it is. -/
@[simp] theorem markTerminal_shell (frame : Frame) :
    (server.markTerminal frame).shell = server.shell := by
  unfold markTerminal
  split <;> rfl

/-- The end of the connection is reported, at most once, after the shell has turned. -/
@[simp] theorem notifyClosed_shell : server.notifyClosed.shell = server.shell := by
  unfold notifyClosed
  split <;> rfl

/-- A queue that is closed keeps what it gave to the transport. -/
@[simp] theorem closeQueueWhenIdle_shell : server.closeQueueWhenIdle.shell = server.shell := by
  unfold closeQueueWhenIdle
  split <;> rfl

/-- A handler that ends gives its entry back and may close an idle queue, and the
connection goes on. -/
@[simp] theorem finishHandler_shell : (server.finishHandler invocation).shell = server.shell := by
  unfold finishHandler
  split
  · rfl
  · rw [closeQueueWhenIdle_shell]
    rfl

/-- The operations that are failed with the connection are no part of the shell. -/
@[simp] theorem failOperationsOnConnectionClose_shell :
    server.failOperationsOnConnectionClose.shell = server.shell :=
  failOperations_view callOperation_shell server

/-- `fail_connection` closes the transport and records the violation. -/
theorem failConnection_shell (status : StatusCode) (message : String) :
    (server.failConnection status message).shell = server.shell.fail (status, message) := by
  unfold failConnection
  dsimp only
  split <;> rfl

/-- Routing a frame leaves the shell alone, fails the connection, or closes the
transport. -/
theorem dispatch_shell (frame : Frame) :
    (server.dispatch frame).shell = server.shell ∨
      (∃ violation, (server.dispatch frame).shell = server.shell.fail violation) ∨
      (server.dispatch frame).shell = { server.shell with transportOpen := false } := by
  unfold dispatch
  split
  · exact Or.inl (by simp)
  · split
    · exact Or.inr (Or.inl ⟨_, server.failConnection_shell _ _⟩)
    · split
      · exact Or.inr (Or.inl ⟨_, server.failConnection_shell _ _⟩)
      · split
        · split
          · exact Or.inl (by simp)
          · exact Or.inr (Or.inl ⟨_, server.failConnection_shell _ _⟩)
        · split
          · exact Or.inl (by simp)
          · split
            · exact Or.inl (by simp)
            · unfold spawnHandler
              split
              · exact Or.inr (Or.inr rfl)
              · exact Or.inl rfl

open ConnectionShell (Turn)

/-- A dispatched frame joins the dispatched ones; it is served, or the connection is
failed over it, or the transport is closed over a second request on an active stream. -/
theorem dispatchFrame_turn (frame : Frame) (rest : List Frame)
    (reading : server.reader = .dispatching (frame :: rest)) :
    Turn True server.shell [] (server.dispatchFrame frame rest).shell := by
  have routed := dispatch_shell (server.notify
    { type := .messageTransferred, stream := frame.header.stream, inbound := true }) frame
  have after : (server.dispatchFrame frame rest).shell = (dispatch (server.notify
      { type := .messageTransferred, stream := frame.header.stream, inbound := true })
        frame).shell.seen frame rest := rfl
  rw [after]
  rcases routed with same | ⟨violation, failed⟩ | severed
  · rw [same]
    exact .seen frame rest reading
  · rw [failed]
    exact .accused frame rest violation reading
  · rw [severed]
    exact .severed frame rest reading

/-- When reading ends, the reader is finished and the connection is closed if it may be;
the transport is left as it was. -/
theorem finishReading_shell (lost : Bool) :
    (server.finishReading lost).shell =
      { server.shell with
        reader := .finished
        lifecycle := (server.shell.lifecycle.transition .closed).1 } := by
  have kept : (if lost then server.failOperationsOnConnectionClose else server).shell =
      server.shell := by
    split <;> simp
  have closed := closeQueueWhenIdle_shell ({ (if lost then server.failOperationsOnConnectionClose
    else server) with reading := false, reader := .finished } : ServerConnection ν)
  rw [finishReading, notifyClosed_shell]
  have after : ({ (if lost then server.failOperationsOnConnectionClose else server) with
      reading := false, reader := .finished } : ServerConnection ν).shell =
        { server.shell with reader := .finished } :=
    congrArg (fun shell : ConnectionShell => { shell with reader := .finished }) kept
  exact congrArg (fun shell : ConnectionShell => { shell with
    lifecycle := (shell.lifecycle.transition .closed).1 }) (closed.trans after)

/-- The reader goes on to wait for bytes, or ends where the transport is closed. -/
theorem continueReading_turn (begun : server.reader = .spawned ∨ server.reader = .dispatching [])
    (sound : server.reader = .dispatching [] → server.decoder.error = none) :
    Turn True server.shell [] server.continueReading.shell := by
  unfold continueReading
  by_cases usable : server.transportOpen = true
  · rw [if_pos usable]
    exact .awaits begun sound usable
  · rw [if_neg usable, finishReading_shell]
    refine .ended ?_ server.transportOpen id trivial
    rcases begun with spawned | dispatched
    · exact Or.inl spawned
    · exact Or.inr (Or.inr dispatched)

/-- After the last frame of a read the reader goes on, unless the decoder found an error:
then the connection is failed and reading ends. -/
theorem endBatch_turn (reading : server.reader = .dispatching []) :
    Turn True server.shell [] server.endBatch.shell := by
  unfold endBatch
  cases found : server.decoder.error with
  | none => exact server.continueReading_turn (Or.inr reading) (fun _ => found)
  | some error =>
    dsimp only
    rw [finishReading_shell]
    exact .malformed (statusForFrameValidation error, frameValidationMessage error) reading
      (by simp [shell, found]) trivial

/-- The end of `shutdown` closes the transport and the connection. -/
theorem finishShutdown_shell :
    server.finishShutdown.shell =
      { server.shell with
        transportOpen := false
        lifecycle := (server.shell.lifecycle.transition .closed).1 } := by
  have kept : (if server.activeHandlers = 0 then server
      else server.failOperationsOnConnectionClose).shell = server.shell := by
    split <;> simp
  rw [finishShutdown, notifyClosed_shell]
  exact congrArg (fun shell : ConnectionShell => { shell with
    transportOpen := false
    lifecycle := (shell.lifecycle.transition .closed).1 }) kept

/-- The first act of `shutdown` moves an active connection to draining and changes nothing
else. -/
theorem beginShutdown_shell :
    server.beginShutdown.shell = { server.shell with lifecycle := server.lifecycle.drained } := by
  unfold beginShutdown ConnectionState.drained
  cases state : server.lifecycle <;>
    simp [shell, transition, ConnectionState.transition, ConnectionState.canTransition, state]

/-- The waiting loop of `shutdown` finishes or stays suspended; which of the two depends
on the handlers, whom the shell does not see. -/
theorem drain_shell (expired : Bool) :
    (server.drain expired).shell =
      { server.shell with
        transportOpen := false
        lifecycle := (server.shell.lifecycle.transition .closed).1 } ∨
    (server.drain expired).shell = { server.shell with drains := server.shell.drains + 1 } := by
  unfold drain
  split
  · exact Or.inl server.finishShutdown_shell
  · exact Or.inr rfl

/-- A call of `shutdown` finishes at once, or begins to drain and suspends. -/
theorem shutdown_turn (expired : Bool) :
    Turn True server.shell [] (server.shutdown expired).shell := by
  have begun := ({ server with shutdownEntered := true } : ServerConnection ν).beginShutdown_shell
  rcases drain_shell ({ server with shutdownEntered := true } : ServerConnection ν).beginShutdown
    expired with shell_eq | shell_eq
  · rw [shutdown, shell_eq, begun]
    exact .closed trivial
  · rw [shutdown, shell_eq, begun]
    exact .shutdown

/-- A later poll of `shutdown` finishes it, or it stays suspended. -/
theorem drainTick_turn (expired aborted : Bool) (suspended : server.drains ≠ 0) :
    Turn True server.shell [] (server.drainTick expired aborted).shell := by
  unfold drainTick
  dsimp only
  split
  · rw [finishShutdown_shell]
    exact .ticked suspended trivial
  · rcases drain_shell ({ server with drains := server.drains - 1 } : ServerConnection ν) expired with
      shell_eq | shell_eq
    · rw [shell_eq]
      exact .ticked suspended trivial
    · have again : server.drains - 1 + 1 = server.drains := Nat.succ_pred_eq_of_ne_zero suspended
      have same : (({ server with drains := server.drains - 1 } : ServerConnection ν).drain
          expired).shell = server.shell := by
        rw [shell_eq]
        simp [shell, again]
      rw [same]
      exact .kept

/-- What follows the offer of a response hands nothing to the transport. -/
theorem afterOffer_shell (offered : WriteQueue × Option WriteResult)
    (written : offered.1.written = server.writeQueue.written) :
    (server.afterOffer invocation offered).shell = server.shell := by
  have queued : ({ server with writeQueue := offered.1 } : ServerConnection ν).shell =
      server.shell := by
    simp [shell, written]
  unfold afterOffer
  dsimp only
  split
  · exact queued
  · rw [finishHandler_shell]
    exact queued

section Events

variable [DecidableEq τ] {registry : MessageRegistry τ} {codec : Codec τ ν}

/-- A handler that starts stays within its invocation; an undecodable request is answered
through the queue. -/
@[simp] theorem startHandler_shell (object : Invocation ν) :
    (server.startHandler registry codec invocation object).shell = server.shell := by
  unfold startHandler
  dsimp only
  split
  · rfl
  · simp

/-- A handler that returns settles its operation and offers its response through the queue. -/
@[simp] theorem handlerReturns_shell (object : Invocation ν) (type : τ) (value : ν type) :
    (server.handlerReturns registry codec invocation object type value).shell = server.shell := by
  unfold handlerReturns
  split
  · simp
  · dsimp only
    split
    · rw [afterOffer_shell _ _ _ (WriteQueue.enqueue_effect _ _ _).same_written,
        callOperation_shell]
    · simp

/-- Every event other than the loop over frames turns the shell. -/
theorem act_turn (event : ServerEvent ν) (after : ServerConnection ν)
    (acts : server.Acts registry codec event after) :
    Turn True server.shell event.input after.shell := by
  have quiet : after.shell = server.shell → Turn True server.shell [] after.shell := by
    intro same
    rw [same]
    exact .kept
  cases acts with
  | handle request response =>
    refine quiet ?_
    unfold handle
    split <;> rfl
  | run fresh =>
    have shell_eq : server.run.shell = { server.shell with
        reader := .spawned
        lifecycle := if server.shell.lifecycle = .created then .active
          else server.shell.lifecycle } := by
      unfold run
      cases state : server.lifecycle <;> simp [shell, transition, notify,
        ConnectionState.transition, ConnectionState.canTransition, state]
    rw [shell_eq]
    exact .run fresh
  | startWriter queue started =>
    exact quiet (by simp [shell, (server.writeQueue.run_effect queue started).2.1])
  | startReader spawned => exact server.continueReading_turn (Or.inl spawned) (by simp [spawned])
  | received bytes awaiting => exact .received bytes awaiting
  | endOfFile closes awaiting =>
    rw [finishReading_shell]
    exact .ended (Or.inr (Or.inl awaiting)) (server.transportOpen && !closes)
      (fun usable => (Bool.and_eq_true_iff.mp usable).1) trivial
  | readFailed closes awaiting =>
    rw [finishReading_shell]
    exact .ended (Or.inr (Or.inl awaiting)) (server.transportOpen && !closes)
      (fun usable => (Bool.and_eq_true_iff.mp usable).1) trivial
  | startHandler invocation object => exact quiet (by simp)
  | handlerReturns invocation type value object => exact quiet (by simp)
  | handlerThrows invocation object => exact quiet (by simp)
  | resumeEnqueue invocation queue result resumed =>
    obtain ⟨frame, -, offered⟩ :=
      server.writeQueue.resumeEnqueue_effect invocation queue result resumed
    exact quiet (server.afterOffer_shell invocation (queue, result) offered.same_written)
  | abortEnqueue invocation message queue aborted =>
    have effect := server.writeQueue.abortEnqueue_kept invocation message queue aborted
    exact quiet (by simp [shell, effect.2.1])
  | shutdown expired => exact server.shutdown_turn expired
  | drainTick expired aborted suspended => exact server.drainTick_turn expired aborted suspended
  | resumeWriter queue resumed =>
    have written := (server.writeQueue.resumeRun_effect queue resumed).2.1
    have turned : Turn True server.shell [] _ := .sent server.writeQueue.inHand
    simp only [shell, written]
    exact turned
  | writeCompleted queue frame completed =>
    have effect := server.writeQueue.writeCompleted_effect queue frame completed
    exact quiet (by simp [shell, notify, effect.2.1])
  | writeFailed what queue failed =>
    have written := (server.writeQueue.writeFailed_effect what queue failed).2.1
    have turned : Turn True server.shell [] _ := .lost
    simp only [shell, written]
    exact turned

/-- Every step of the connection turns the shell. -/
theorem step_turn (event : ServerEvent ν) (after : ServerConnection ν)
    (stepped : server.step registry codec event = some after) :
    Turn True server.shell event.input after.shell := by
  cases server.step_advances stepped with
  | dispatches frame rest reading => exact server.dispatchFrame_turn frame rest reading
  | leaves reading => exact server.endBatch_turn reading
  | acts acts => exact server.act_turn event after acts

end Events

end ServerConnection

end Shell

end Rillnet
