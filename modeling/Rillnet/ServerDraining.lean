import Rillnet.ServerRoster

/-!
# What becomes of the responses of a server

A handler is over once the queue answered its response. A response is lost when the
queue refuses it, which it does to a frame larger than its limits, after a write
failed, and when the wait for space was aborted. A frame that the queue took is
written completely only when the transport has reported its write.
-/

namespace Rillnet

/-- The frames that the transport has written completely. -/
def WriteQueue.completed (queue : WriteQueue) : List Frame :=
  match queue.writer with
  | .writing _ => queue.written.dropLast
  | .finished result => if result.ok then queue.written else queue.written.dropLast
  | _ => queue.written

/-- Only a closed queue refuses an offer. -/
theorem WriteQueue.offer_refused (queue : WriteQueue) (producer : Nat) (frame : Frame)
    {result : WriteResult} (offered : (queue.offer producer frame).2 = some result)
    (failed : result.ok = false) : queue.closed = true := by
  unfold offer at offered
  dsimp only at offered
  split at offered
  · rename_i taken
    rw [Option.some.inj offered, failed] at taken
    simp at taken
  · split at offered
    · rename_i closed
      rw [← queue.tryEnqueueFrame_closed frame]
      exact closed
    · simp at offered

namespace Operation

variable (operation : Operation StreamId)

/-- An operation that is not cancelled after a cancellation is in the state it was in. -/
theorem cancel_kept (message : String) {state : OperationState}
    (reached : (operation.cancel message).1.state = state) (other : state ≠ .cancelled) :
    operation.state = state := by
  unfold cancel requestCancellation at reached
  cases before : operation.state <;> simp_all [isTerminal, finish_eq, OperationState.canTransition]

theorem lost_kept {state : OperationState} (reached : operation.lost.state = state)
    (other : state ≠ .failed) : operation.state = state := by
  unfold lost requestCancellation at reached
  cases before : operation.state <;>
    simp_all [isTerminal, fail, finish_eq, OperationState.canTransition]

theorem fail_kept (status : StatusCode) (message : String) (failure : status ≠ .ok)
    {state : OperationState} (reached : (operation.fail status message).1.state = state)
    (other : state ≠ .failed) : operation.state = state := by
  rw [operation.fail_eq _ _ failure] at reached
  split at reached
  · exact absurd reached.symm other
  · exact reached

end Operation

section Draining

variable {τ : Type} {ν : τ → Type}

/-- The handler completed its operation and the queue refused its response. -/
def Invocation.lostResponse (object : Invocation ν) : Bool :=
  decide (object.stage = .finished) && decide (object.operation.state = .completed) &&
    object.reply.isNone

/-- A handler that has not returned has not completed its operation. -/
def Invocation.Early (object : Invocation ν) : Prop :=
  object.operation.state = .completed → object.stage = .responding ∨ object.stage = .finished

theorem Invocation.Goes.early {accepted : Nat} {ends : Ending → Prop} {old new : Invocation ν}
    (goes : old.Goes accepted ends new) (early : old.Early) : new.Early := by
  intro completed
  cases goes with
  | same => exact early completed
  | cancelled => exact early (old.operation.cancel_kept _ completed (by simp))
  | lost => exact early (old.operation.lost_kept completed (by simp))
  | started argument spawned =>
    have ended := early completed
    simp [spawned] at ended
  | suspended handling active => exact Or.inl rfl
  | undecodable | dropped | refused | replied => exact Or.inr rfl

/-- A response is lost only when the queue refuses it. -/
theorem Invocation.Goes.loses {accepted : Nat} {ends : Ending → Prop} {old new : Invocation ν}
    (goes : old.Goes accepted ends new) (early : old.Early) (kept : old.lostResponse = false)
    (lost : new.lostResponse = true) : ends .refused := by
  obtain ⟨⟨finished, completed⟩, unanswered⟩ : (new.stage = .finished ∧
      new.operation.state = .completed) ∧ new.reply = none := by
    simpa [lostResponse] using lost
  have impossible : old.stage = .finished → old.operation.state = .completed →
      old.reply = none → False := by
    intro ended done silent
    simp [lostResponse, ended, done, silent] at kept
  cases goes with
  | same => exact (impossible finished completed unanswered).elim
  | cancelled =>
    have done := old.operation.cancel_kept _ completed (by simp)
    exact (impossible finished done unanswered).elim
  | lost =>
    have done := old.operation.lost_kept completed (by simp)
    exact (impossible finished done unanswered).elim
  | started argument spawned => simp at finished
  | undecodable status message offered rejects spawned failure =>
    have ended := early (old.operation.fail_kept status message failure completed (by simp))
    simp [spawned] at ended
  | dropped silent handling =>
    have ended := early completed
    simp [handling] at ended
  | refused operation refuses ready => exact refuses
  | suspended handling active => simp at finished
  | replied operation frame replies framed ready => simp at unanswered

namespace ServerConnection

variable (server : ServerConnection ν)

section Runs

variable [DecidableEq τ] (registry : MessageRegistry τ) (codec : Codec τ ν)

/-- No write has failed when a response is offered to the queue, the response is
not larger than the queue, and the wait for space was not aborted. -/
def accommodates : ServerEvent ν → Bool
  | .handlerReturns invocation type value =>
    !decide server.writeQueue.broken && server.invocations[invocation]?.all fun object =>
      (object.replyFrame registry codec type value).all fun frame =>
        decide (WriteQueue.bytesOf frame ≤ server.writeQueue.limits.maxBytes.toNat) &&
          decide (server.writeQueue.limits.maxFrames ≠ 0)
  | .resumeEnqueue invocation =>
    !decide server.writeQueue.broken &&
      match server.writeQueue.producers.lookup invocation with
      | some ⟨_, .failed _⟩ => server.writeQueue.closed
      | _ => true
  | _ => true

variable {registry codec}

/-- The two events in which the queue answers a handler, with a refusal or not. -/
theorem ending_answered {event : ServerEvent ν} {invocation : Nat} {outcome : Ending}
    (ended : server.ending registry codec event = some (invocation, outcome))
    (answers : outcome = .refused ∨ ∃ frame, outcome = .replied frame) :
    (∃ type value object frame result, event = .handlerReturns invocation type value ∧
      server.invocations[invocation]? = some object ∧
      object.replyFrame registry codec type value = some frame ∧
      (server.writeQueue.enqueue invocation frame).2 = some result ∧
      outcome = if result.ok then .replied frame else .refused) ∨
    ∃ frame queue result, event = .resumeEnqueue invocation ∧
      server.writeQueue.held invocation = some frame ∧
      server.writeQueue.resumeEnqueue invocation = some (queue, some result) ∧
      outcome = if result.ok then .replied frame else .refused := by
  cases event with
  | handlerReturns place type value =>
    simp only [ending] at ended
    obtain ⟨object, found, rest⟩ := Option.bind_eq_some_iff.mp ended
    cases sends : object.replyFrame registry codec type value with
    | none =>
      obtain ⟨-, rfl⟩ : place = invocation ∧ Ending.silent = outcome := by simpa [sends] using rest
      simp at answers
    | some frame =>
      simp only [sends] at rest
      split at rest
      · obtain ⟨result, answered, same⟩ := Option.map_eq_some_iff.mp rest
        obtain ⟨rfl, rfl⟩ := Prod.mk.inj same
        exact Or.inl ⟨type, value, object, frame, result, rfl, found, sends, answered, rfl⟩
      · obtain ⟨-, rfl⟩ : place = invocation ∧ Ending.silent = outcome := by simpa using rest
        simp at answers
  | resumeEnqueue place =>
    simp only [ending] at ended
    obtain ⟨frame, holds, rest⟩ := Option.bind_eq_some_iff.mp ended
    obtain ⟨⟨queue, answer⟩, resumed, answered⟩ := Option.bind_eq_some_iff.mp rest
    obtain ⟨result, rfl, same⟩ := Option.map_eq_some_iff.mp answered
    obtain ⟨rfl, rfl⟩ := Prod.mk.inj same
    exact Or.inr ⟨frame, queue, result, rfl, holds, resumed, rfl⟩
  | startHandler place =>
    simp only [ending] at ended
    obtain ⟨object, -, rejected⟩ := Option.bind_eq_some_iff.mp ended
    split at rejected
    · simp at rejected
    · obtain ⟨-, rfl⟩ := Prod.mk.inj (Option.some.inj rejected)
      simp at answers
  | handlerThrows place =>
    obtain ⟨-, rfl⟩ := Prod.mk.inj (Option.some.inj ended)
    simp at answers
  | _ => simp [ending] at ended

omit [DecidableEq τ] in
theorem refused_result {result : WriteResult} {frame : Frame}
    (outcome : Ending.refused = if result.ok then .replied frame else .refused) :
    result.ok = false := by
  cases ok : result.ok with
  | false => rfl
  | true => simp [ok] at outcome

/-- The two events in which the queue refuses a response. -/
theorem ending_refused {event : ServerEvent ν} {invocation : Nat}
    (ended : server.ending registry codec event = some (invocation, .refused)) :
    (∃ type value object frame result, event = .handlerReturns invocation type value ∧
      server.invocations[invocation]? = some object ∧
      object.replyFrame registry codec type value = some frame ∧
      (server.writeQueue.enqueue invocation frame).2 = some result ∧ result.ok = false) ∨
    ∃ frame queue result, event = .resumeEnqueue invocation ∧
      server.writeQueue.held invocation = some frame ∧
      server.writeQueue.resumeEnqueue invocation = some (queue, some result) ∧
      result.ok = false := by
  rcases server.ending_answered ended (Or.inl rfl) with
    ⟨type, value, object, frame, result, rfl, found, sends, answered, outcome⟩ |
      ⟨frame, queue, result, rfl, holds, resumed, outcome⟩
  · exact Or.inl ⟨type, value, object, frame, result, rfl, found, sends, answered,
      refused_result outcome⟩
  · exact Or.inr ⟨frame, queue, result, rfl, holds, resumed, refused_result outcome⟩

/-- No response is refused by a queue that accommodates it. -/
theorem Reachable.accommodated {guard : ServerConnection ν → ServerEvent ν → Prop}
    {limits : WriteQueueLimits} {server : ServerConnection ν}
    (reachable : Reachable registry codec guard limits server) {event : ServerEvent ν}
    {after : ServerConnection ν} (stepped : server.step registry codec event = some after)
    (accommodates : server.accommodates registry codec event = true) (invocation : Nat) :
    server.ending registry codec event ≠ some (invocation, .refused) := by
  intro ended
  rcases server.ending_refused ended with
    ⟨type, value, object, frame, result, rfl, found, sends, answered, failed⟩ |
    ⟨frame, queue, result, rfl, holds, resumed, failed⟩
  · obtain ⟨unbroken, fits, nonzero⟩ : ¬ server.writeQueue.broken ∧
        WriteQueue.bytesOf frame ≤ server.writeQueue.limits.maxBytes.toNat ∧
        server.writeQueue.limits.maxFrames ≠ 0 := by
      simpa [ServerConnection.accommodates, found, sends] using accommodates
    have small : ¬ (WriteQueue.bytesOf frame > server.writeQueue.limits.maxBytes.toNat ∨
        server.writeQueue.limits.maxFrames = 0) := by
      rintro (large | zero)
      · omega
      · exact nonzero zero
    rw [WriteQueue.enqueue, if_neg small] at answered
    have closed := server.writeQueue.offer_refused invocation frame answered failed
    cases server.step_acts stepped (by simp) with
    | handlerReturns _ _ _ object found handling =>
      exact unbroken (reachable.closed_broken found (by simp [handling]) closed)
  · obtain ⟨unbroken, aborted⟩ := Bool.and_eq_true_iff.mp accommodates
    obtain ⟨object, found, responding, -⟩ :=
      (Reachable.wired reachable).sound.held invocation frame holds
    have closed : server.writeQueue.closed = true := by
      unfold WriteQueue.resumeEnqueue at resumed
      split at resumed
      · exact (server.writeQueue.leave invocation).offer_refused invocation _
          (congrArg Prod.snd (Option.some.inj resumed)) failed
      · rename_i waits
        simpa [waits] using aborted
      · simp at resumed
    have broken := reachable.closed_broken found (by simp [responding]) closed
    simp [broken] at unbroken

end Runs

end ServerConnection

end Draining

end Rillnet
