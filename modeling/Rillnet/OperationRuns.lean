import Rillnet.Operation
import Rillnet.Library.Reachability

/-!
# Runs of one operation

An operation as its users see it: any calls in any order, also from inside the
completion handler, which runs in the middle of the call that committed the result.
A finishing call is cut in two there. `attempt` is what happens up to the handler,
`conclude` what happens after it, and `inHandler` holds the calls in between, the
innermost first. The code of a handler is not fixed: while one runs, any call but
`set_completion_handler` may be made, until the handler returns or throws.

What the finishing calls returned and which handlers were called with what result
are kept as history.
-/

namespace Rillnet

/-- The calls that try to commit a result. -/
inductive TerminalCall where
  | complete (message : String)
  | fail (status : StatusCode) (message : String)
  | cancel (message : String)
  | timeout (message : String)
deriving DecidableEq, Repr

namespace TerminalCall

/-- The state a call commits. -/
def state : TerminalCall → OperationState
  | .complete _ => .completed
  | .fail _ _ => .failed
  | .cancel _ => .cancelled
  | .timeout _ => .failed

/-- The result a call commits. -/
def result : TerminalCall → OperationResult
  | .complete message => .success message
  | .fail status message => .failure status message
  | .cancel message => .failure .cancelled message
  | .timeout message => .failure .timeoutError message

def isTimeout : TerminalCall → Bool
  | .timeout _ => true
  | _ => false

/-- A call that does not ask for a failure without a status commits an ok result exactly
if it completes. -/
theorem ok_iff_completed (call : TerminalCall) (proper : ∀ message, call ≠ .fail .ok message) :
    call.result.ok = true ↔ call.state = .completed := by
  cases call with
  | complete message => simp [result, state, OperationResult.ok, OperationResult.success]
  | fail status message =>
    have failure : status ≠ .ok := fun ok => proper message (by rw [ok])
    simp [result, state, OperationResult.ok, OperationResult.failure, failure]
  | cancel message => simp [result, state, OperationResult.ok, OperationResult.failure]
  | timeout message => simp [result, state, OperationResult.ok, OperationResult.failure]

end TerminalCall

/-- Every call that changes an operation. -/
inductive OperationCall (κ : Type) where
  | activate
  | setDeadline (deadline : Deadline)
  | requestCancellation
  | setCompletionHandler (handler : Option κ)
  | finish (call : TerminalCall)
deriving DecidableEq, Repr

/-- What can happen next: a call, or the end of the running handler. -/
inductive OperationEvent (κ : Type) where
  | call (call : OperationCall κ)
  | handlerReturns
  | handlerThrows
deriving DecidableEq, Repr

/-- An operation with the finishing calls that are inside its completion handler. -/
structure OperationRun (κ : Type) where
  operation : Operation κ
  inHandler : List TerminalCall := []
  returned : List (TerminalCall × Bool) := []
  notified : List (κ × OperationResult) := []
deriving DecidableEq, Repr

variable {κ : Type}

namespace Operation

/-- A finishing call up to the call of the completion handler. -/
def attempt (operation : Operation κ) : TerminalCall → Operation κ × Bool
  | .complete message => operation.complete message
  | .fail status message => operation.fail status message
  | .cancel message => operation.cancel message
  | .timeout message => operation.finish .failed (.failure .timeoutError message)

/-- A finishing call after the completion handler: only `timeout` has more to do. -/
def conclude (operation : Operation κ) (call : TerminalCall) (committed : Bool) : Operation κ :=
  match call with
  | .timeout _ => { operation with timedOut := operation.timedOut || committed }
  | _ => operation

/-- What the accessors show. -/
def observed (operation : Operation κ) :
    OperationState × Option OperationResult × Option Deadline × Bool × Bool :=
  (operation.state, operation.result, operation.deadline, operation.cancellationRequested,
    operation.timedOut)

/-- Whether a call is answered with `false` or an invalid transition. -/
def refuses (operation : Operation κ) : OperationCall κ → Bool
  | .activate => decide (operation.activate.2 = .invalidTransition)
  | .setDeadline deadline => !(operation.setDeadline deadline).2
  | .requestCancellation => !operation.requestCancellation.2
  | .setCompletionHandler _ => false
  | .finish call => !(operation.attempt call).2

end Operation

namespace OperationRun

/-- A newly constructed operation. -/
def create (stream : StreamId) (handler : Option κ) : OperationRun κ where
  operation := { stream := stream, completionHandler := handler }

/-- A finishing call returns. -/
def returns (run : OperationRun κ) (call : TerminalCall) (committed : Bool) : OperationRun κ :=
  { run with
    operation := run.operation.conclude call committed
    returned := run.returned ++ [(call, committed)] }

/-- A finishing call: it enters the completion handler with the committed result, or
returns at once. -/
def finish (run : OperationRun κ) (call : TerminalCall) : OperationRun κ :=
  let outcome := run.operation.attempt call
  match Operation.notified outcome with
  | some report =>
    { run with
      operation := outcome.1
      inHandler := call :: run.inHandler
      notified := run.notified ++ [report] }
  | none => { run with operation := outcome.1 }.returns call outcome.2

def call (run : OperationRun κ) : OperationCall κ → OperationRun κ
  | .activate => { run with operation := run.operation.activate.1 }
  | .setDeadline deadline => { run with operation := (run.operation.setDeadline deadline).1 }
  | .requestCancellation => { run with operation := run.operation.requestCancellation.1 }
  | .setCompletionHandler handler =>
    { run with operation := run.operation.setCompletionHandler handler }
  | .finish call => run.finish call

/-- A running handler may not be replaced. -/
def mayCall (run : OperationRun κ) : OperationCall κ → Bool
  | .setCompletionHandler _ => run.inHandler.isEmpty
  | _ => true

/-- One step. The end of a handler ends the innermost finishing call, with its answer
or with the handler's exception. -/
def step (run : OperationRun κ) : OperationEvent κ → Option (OperationRun κ)
  | .call call => if run.mayCall call then some (run.call call) else none
  | .handlerReturns =>
    match run.inHandler with
    | [] => none
    | call :: rest => some ({ run with inHandler := rest }.returns call true)
  | .handlerThrows =>
    match run.inHandler with
    | [] => none
    | _ :: rest => some { run with inHandler := rest }

end OperationRun

namespace Operation

variable (operation : Operation κ)

/-- An active operation commits what a call asks for, unless that is a failure without
a status. Everything else is refused, and a refusal leaves a trace only where `cancel`
is called before the activation. -/
theorem attempt_cases (call : TerminalCall) :
    (operation.state = .active ∧ (call.result.ok = true ↔ call.state = .completed) ∧
      ∃ requested, operation.attempt call = ({ operation with
        state := call.state
        result := some call.result
        cancellationRequested := requested }, true)) ∨
    operation.attempt call = (operation, false) ∨
    (operation.state = .created ∧ (∃ message, call = .cancel message) ∧
      operation.attempt call = ({ operation with cancellationRequested := true }, false)) := by
  by_cases active : operation.state = .active
  · cases call with
    | complete message =>
      refine Or.inl ⟨active, TerminalCall.ok_iff_completed _ (by simp),
        operation.cancellationRequested, ?_⟩
      simp only [attempt, complete_eq, if_pos active]
      rfl
    | fail status message =>
      by_cases failure : status = .ok
      · right
        left
        simp [attempt, fail, failure]
      · refine Or.inl ⟨active, TerminalCall.ok_iff_completed _ (by simp [failure]),
          operation.cancellationRequested, ?_⟩
        simp only [attempt, operation.fail_eq status message failure, if_pos active]
        rfl
    | cancel message =>
      refine Or.inl ⟨active, TerminalCall.ok_iff_completed _ (by simp), true, ?_⟩
      simp only [attempt, operation.cancel_eq message (by simp [active]), if_pos active]
      rfl
    | timeout message =>
      refine Or.inl ⟨active, TerminalCall.ok_iff_completed _ (by simp),
        operation.cancellationRequested, ?_⟩
      simp only [attempt, operation.finish_eq .failed (.failure .timeoutError message) rfl,
        if_pos active]
      rfl
  · right
    cases call with
    | complete message => simp [attempt, complete_eq, active]
    | fail status message =>
      by_cases failure : status = .ok
      · simp [attempt, fail, failure]
      · simp [attempt, operation.fail_eq status message failure, active]
    | cancel message =>
      by_cases created : operation.state = .created
      · right
        exact ⟨created, ⟨message, rfl⟩, operation.cancel_created message created⟩
      · simp [attempt, operation.cancel_eq message created, active]
    | timeout message =>
      simp [attempt, operation.finish_eq .failed (.failure .timeoutError message) rfl, active]

/-- In a terminal state every finishing call is refused and leaves no trace. -/
theorem attempt_terminal (terminal : operation.isTerminal = true) (call : TerminalCall) :
    operation.attempt call = (operation, false) := by
  have states := operation.isTerminal_iff.mp terminal
  rcases operation.attempt_cases call with ⟨active, -, -⟩ | refused | ⟨created, -, -⟩
  · simp [active] at states
  · exact refused
  · simp [created] at states

/-- In a terminal state no other call but the installation of a handler does anything
either. -/
theorem calls_terminal (terminal : operation.isTerminal = true) (deadline : Deadline) :
    operation.activate = (operation, .invalidTransition) ∧
      operation.setDeadline deadline = (operation, false) ∧
      operation.requestCancellation = (operation, false) := by
  have activated : operation.state ≠ .created := by
    intro created
    simp [isTerminal, created] at terminal
  exact ⟨by rw [activate_eq, if_neg activated], by simp [setDeadline, terminal],
    by simp [requestCancellation, terminal]⟩

/-- A call that committed nothing has nothing to do after the handler. -/
@[simp] theorem conclude_refused (call : TerminalCall) : operation.conclude call false = operation := by
  cases call <;> simp [conclude]

/-- A finishing call whose handler makes no calls. -/
def perform : TerminalCall → Operation κ × Bool
  | .complete message => operation.complete message
  | .fail status message => operation.fail status message
  | .cancel message => operation.cancel message
  | .timeout message => operation.timeout message

/-- Its two parts together are the whole call. -/
theorem conclude_attempt (call : TerminalCall) :
    ((operation.attempt call).1.conclude call (operation.attempt call).2,
      (operation.attempt call).2) = operation.perform call := by
  cases call <;> rfl

end Operation

namespace OperationRun

/-- The finishing calls that returned `true`. -/
def winners (run : OperationRun κ) : List (TerminalCall × Bool) := run.returned.filter Prod.snd

/-- No result was committed yet. -/
structure Undecided (run : OperationRun κ) : Prop where
  live : run.operation.isTerminal = false
  result : run.operation.result = none
  outside : run.inHandler = []
  silent : run.notified = []
  winners : run.winners = []
  timedOut : run.operation.timedOut = false

/-- The call that committed the result is inside the handler, has returned, or was left
by the handler's exception. -/
inductive Stage (run : OperationRun κ) (call : TerminalCall) : Prop where
  | inside (inHandler : run.inHandler = [call]) (winners : run.winners = [])
      (timedOut : run.operation.timedOut = false)
  | returned (outside : run.inHandler = []) (winners : run.winners = [(call, true)])
      (timedOut : run.operation.timedOut = call.isTimeout)
  | thrown (outside : run.inHandler = []) (winners : run.winners = [])
      (timedOut : run.operation.timedOut = false)

/-- A call committed its result, and these were the calls of completion handlers. -/
structure Decided (run : OperationRun κ) (call : TerminalCall)
    (reports : List (κ × OperationResult)) : Prop where
  state : run.operation.state = call.state
  result : run.operation.result = some call.result
  proper : call.result.ok = true ↔ call.state = .completed
  reported : run.notified = reports
  stage : run.Stage call

section Steps

variable {run after : OperationRun κ} {call : TerminalCall} {reports : List (κ × OperationResult)}

theorem create_undecided (stream : StreamId) (handler : Option κ) :
    (create stream handler).Undecided where
  live := rfl
  result := rfl
  outside := rfl
  silent := rfl
  winners := rfl
  timedOut := rfl

theorem Decided.terminal (decided : run.Decided call reports) : run.operation.isTerminal = true := by
  rw [Operation.isTerminal_iff, decided.state]
  cases call <;> simp [TerminalCall.state]

/-- A refused call returns at once, with the trace it left. -/
theorem finish_refused {traced : Operation κ}
    (refused : run.operation.attempt call = (traced, false)) :
    run.finish call = { run with
      operation := traced
      returned := run.returned ++ [(call, false)] } := by
  simp [finish, refused, Operation.notified, returns]

/-- What a step can be. -/
theorem step_cases {event : OperationEvent κ} (stepped : run.step event = some after) :
    (∃ made, event = .call made ∧ after = run.call made) ∨
    (∃ inner rest, event = .handlerReturns ∧ run.inHandler = inner :: rest ∧
      after = { run with inHandler := rest }.returns inner true) ∨
    (∃ inner rest, event = .handlerThrows ∧ run.inHandler = inner :: rest ∧
      after = { run with inHandler := rest }) := by
  cases event with
  | call made =>
    simp only [step] at stepped
    split at stepped
    · exact Or.inl ⟨made, rfl, (Option.some.inj stepped).symm⟩
    · simp at stepped
  | handlerReturns =>
    cases handlers : run.inHandler with
    | nil => simp [step, handlers] at stepped
    | cons inner rest =>
      simp only [step, handlers, Option.some.injEq] at stepped
      exact Or.inr (Or.inl ⟨inner, rest, rfl, rfl, stepped.symm⟩)
  | handlerThrows =>
    cases handlers : run.inHandler with
    | nil => simp [step, handlers] at stepped
    | cons inner rest =>
      simp only [step, handlers, Option.some.injEq] at stepped
      exact Or.inr (Or.inr ⟨inner, rest, rfl, rfl, stepped.symm⟩)

/-- Answers of `false` do not win. -/
theorem winners_refused (run : OperationRun κ) (call : TerminalCall) :
    (run.returned ++ [(call, false)]).filter Prod.snd = run.winners := by
  rw [List.filter_append]
  exact List.append_nil _

/-- Answers of `true` win. -/
theorem winners_committed (run : OperationRun κ) (call : TerminalCall) :
    (run.returned ++ [(call, true)]).filter Prod.snd = run.winners ++ [(call, true)] := by
  rw [List.filter_append]
  rfl

/-- The stage depends on the calls inside, the winners and the timeout only. -/
theorem Stage.congr {other : OperationRun κ} (stage : run.Stage call)
    (handlers : other.inHandler = run.inHandler) (won : other.winners = run.winners)
    (timed : other.operation.timedOut = run.operation.timedOut) : other.Stage call := by
  cases stage with
  | inside inHandler winners timedOut =>
    exact .inside (handlers.trans inHandler) (won.trans winners) (timed.trans timedOut)
  | returned outside winners timedOut =>
    exact .returned (handlers.trans outside) (won.trans winners) (timed.trans timedOut)
  | thrown outside winners timedOut =>
    exact .thrown (handlers.trans outside) (won.trans winners) (timed.trans timedOut)

/-- A finishing call commits nothing, or its own result, in which case the handler
installed at that moment is called. -/
theorem Undecided.finish (undecided : run.Undecided) (winner : TerminalCall) :
    (run.finish winner).Undecided ∨
      (run.finish winner).Decided winner (run.operation.completionHandler.toList.map fun handler =>
        (handler, winner.result)) := by
  obtain ⟨live, result, outside, silent, winners, timedOut⟩ := undecided
  rcases run.operation.attempt_cases winner with
    ⟨-, proper, requested, commits⟩ | refused | ⟨-, -, refused⟩
  · right
    cases handler : run.operation.completionHandler with
    | some installed =>
      have entered : run.finish winner = { run with
          operation := { run.operation with
            state := winner.state
            result := some winner.result
            cancellationRequested := requested }
          inHandler := winner :: run.inHandler
          notified := run.notified ++ [(installed, winner.result)] } := by
        simp [OperationRun.finish, commits, Operation.notified, handler]
      rw [entered]
      exact ⟨rfl, rfl, proper, by simp [silent], .inside (by simp [outside]) winners timedOut⟩
    | none =>
      have returned : run.finish winner = { run with
          operation := { run.operation with
            state := winner.state
            result := some winner.result
            cancellationRequested := requested } }.returns winner true := by
        simp [OperationRun.finish, commits, Operation.notified, handler]
      have won : (run.returned ++ [(winner, true)]).filter Prod.snd = [(winner, true)] := by
        rw [winners_committed, winners]
        rfl
      rw [returned]
      refine ⟨?_, ?_, proper, silent, .returned outside won ?_⟩
      · cases winner <;> rfl
      · cases winner <;> rfl
      · cases winner <;> simp [returns, Operation.conclude, TerminalCall.isTimeout, timedOut]
  · left
    rw [finish_refused refused]
    exact ⟨live, result, outside, silent, (run.winners_refused winner).trans winners, timedOut⟩
  · left
    rw [finish_refused refused]
    exact ⟨live, result, outside, silent, (run.winners_refused winner).trans winners, timedOut⟩

/-- Before a result is committed, a step commits none, or it is a finishing call that
commits its own. -/
theorem Undecided.step (undecided : run.Undecided) {event : OperationEvent κ}
    (stepped : run.step event = some after) :
    after.Undecided ∨ ∃ winner, event = .call (.finish winner) ∧ after = run.finish winner ∧
      after.Decided winner (run.operation.completionHandler.toList.map fun handler =>
        (handler, winner.result)) := by
  obtain ⟨made, rfl, rfl⟩ | ⟨inner, rest, -, inside, -⟩ | ⟨inner, rest, -, inside, -⟩ :=
    step_cases stepped
  · obtain ⟨live, result, outside, silent, winners, timedOut⟩ := undecided
    cases made with
    | activate =>
      left
      rw [OperationRun.call, Operation.activate_eq]
      split
      · exact ⟨rfl, result, outside, silent, winners, timedOut⟩
      · exact ⟨live, result, outside, silent, winners, timedOut⟩
    | setDeadline deadline =>
      have set : (run.operation.setDeadline deadline).1 =
          { run.operation with deadline := some deadline } := by
        simp [Operation.setDeadline, live]
      rw [OperationRun.call, set]
      exact Or.inl ⟨live, result, outside, silent, winners, timedOut⟩
    | requestCancellation =>
      have requested : run.operation.requestCancellation.1 =
          { run.operation with cancellationRequested := true } := by
        simp [Operation.requestCancellation, live]
      rw [OperationRun.call, requested]
      exact Or.inl ⟨live, result, outside, silent, winners, timedOut⟩
    | setCompletionHandler handler =>
      exact Or.inl ⟨live, result, outside, silent, winners, timedOut⟩
    | finish winner =>
      rcases Undecided.finish ⟨live, result, outside, silent, winners, timedOut⟩ winner with
        still | decided
      · exact Or.inl still
      · exact Or.inr ⟨winner, rfl, rfl, decided⟩
  · simp [undecided.outside] at inside
  · simp [undecided.outside] at inside

/-- After a result was committed, a call changes nothing that can be observed and
calls no handler. -/
theorem Decided.calls (decided : run.Decided call reports) (made : OperationCall κ) :
    (run.call made).Decided call reports ∧
      (run.call made).operation.observed = run.operation.observed ∧
      (run.call made).inHandler = run.inHandler := by
  have terminal := decided.terminal
  cases made with
  | activate =>
    have same : run.call (.activate : OperationCall κ) = run := by
      simp [OperationRun.call, (run.operation.calls_terminal terminal 0).1]
    rw [same]
    exact ⟨decided, rfl, rfl⟩
  | setDeadline deadline =>
    have same : run.call (.setDeadline deadline : OperationCall κ) = run := by
      simp [OperationRun.call, (run.operation.calls_terminal terminal deadline).2.1]
    rw [same]
    exact ⟨decided, rfl, rfl⟩
  | requestCancellation =>
    have same : run.call (.requestCancellation : OperationCall κ) = run := by
      simp [OperationRun.call, (run.operation.calls_terminal terminal 0).2.2]
    rw [same]
    exact ⟨decided, rfl, rfl⟩
  | setCompletionHandler handler =>
    obtain ⟨state, result, proper, reported, stage⟩ := decided
    exact ⟨⟨state, result, proper, reported, stage.congr rfl rfl rfl⟩, rfl, rfl⟩
  | finish loser =>
    obtain ⟨state, result, proper, reported, stage⟩ := decided
    have same : run.call (.finish loser) = { run with returned := run.returned ++ [(loser, false)] } :=
      finish_refused (run.operation.attempt_terminal terminal loser)
    rw [same]
    exact ⟨⟨state, result, proper, reported, stage.congr rfl (run.winners_refused loser) rfl⟩, rfl,
      rfl⟩

/-- Once the committing call is no longer inside the handler, a step changes nothing
that can be observed; the end of the handler only settles whether it was a timeout. -/
theorem Decided.step (decided : run.Decided call reports) {event : OperationEvent κ}
    (stepped : run.step event = some after) :
    after.Decided call reports ∧
      (run.inHandler = [] →
        after.operation.observed = run.operation.observed ∧ after.inHandler = []) := by
  obtain ⟨made, -, rfl⟩ | ⟨inner, rest, -, inside, rfl⟩ | ⟨inner, rest, -, inside, rfl⟩ :=
    step_cases stepped
  · obtain ⟨still, observed, handlers⟩ := decided.calls made
    exact ⟨still, fun outside => ⟨observed, handlers.trans outside⟩⟩
  · refine ⟨?_, by simp [inside]⟩
    obtain ⟨state, result, proper, reported, stage⟩ := decided
    cases stage with
    | inside inHandler winners timedOut =>
      obtain ⟨rfl, rfl⟩ := List.cons.inj (inside.symm.trans inHandler)
      have won : (run.returned ++ [(inner, true)]).filter Prod.snd = [(inner, true)] := by
        rw [winners_committed, winners]
        rfl
      refine ⟨?_, ?_, proper, reported, .returned rfl won ?_⟩
      · cases inner <;> exact state
      · cases inner <;> exact result
      · cases inner <;> simp [returns, Operation.conclude, TerminalCall.isTimeout, timedOut]
    | returned outside => simp [outside] at inside
    | thrown outside => simp [outside] at inside
  · refine ⟨?_, by simp [inside]⟩
    obtain ⟨state, result, proper, reported, stage⟩ := decided
    cases stage with
    | inside inHandler winners timedOut =>
      obtain ⟨rfl, rfl⟩ := List.cons.inj (inside.symm.trans inHandler)
      exact ⟨state, result, proper, reported, .thrown rfl winners timedOut⟩
    | returned outside => simp [outside] at inside
    | thrown outside => simp [outside] at inside

end Steps

/-- The runs of an operation constructed with a handler. -/
def Reachable (stream : StreamId) (handler : Option κ) : OperationRun κ → Prop :=
  Reachability.Reaches step Reachability.unguarded (create stream handler)

/-- Right before and after the moment at which a call commits its result, in a run that
reaches the given state. -/
structure Moment (stream : StreamId) (handler : Option κ) (run before : OperationRun κ)
    (winner : TerminalCall) : Prop where
  reached : Reachable stream handler before
  vacant : before.operation.result = none
  committed : (before.finish winner).operation.result = some winner.result
  followed : Reachability.Reaches step Reachability.unguarded (before.finish winner) run

section Runs

variable {stream : StreamId} {handler : Option κ} {run : OperationRun κ}

/-- A run has committed nothing, or there was the one moment at which it did. -/
theorem Reachable.decided (reachable : Reachable stream handler run) :
    run.Undecided ∨ ∃ before winner, Moment stream handler run before winner ∧
      run.Decided winner (before.operation.completionHandler.toList.map fun handler =>
        (handler, winner.result)) := by
  induction reachable with
  | start => exact Or.inl (create_undecided stream handler)
  | @next before after event reached _ stepped inductionHypothesis =>
    rcases inductionHypothesis with undecided | ⟨earlier, winner, moment, decided⟩
    · rcases undecided.step stepped with still | ⟨winner, rfl, rfl, decided⟩
      · exact Or.inl still
      · exact Or.inr ⟨before, winner,
          ⟨reached, undecided.result, decided.result, .start⟩, decided⟩
    · exact Or.inr ⟨earlier, winner, ⟨moment.reached, moment.vacant, moment.committed,
        .next moment.followed trivial stepped⟩, (decided.step stepped).1⟩

/-- A call that returned `true` is the one that committed. -/
theorem Decided.winner {winner : TerminalCall} {reports : List (κ × OperationResult)}
    (decided : run.Decided winner reports) {call : TerminalCall}
    (won : (call, true) ∈ run.returned) :
    call = winner ∧ run.inHandler = [] ∧ run.winners = [(winner, true)] ∧
      run.operation.timedOut = winner.isTimeout := by
  have member : (call, true) ∈ run.winners := List.mem_filter.mpr ⟨won, rfl⟩
  cases decided.stage with
  | inside _ winners _ => simp [winners] at member
  | returned outside winners timedOut =>
    rw [winners, List.mem_singleton] at member
    exact ⟨(Prod.mk.inj member).1, outside, winners, timedOut⟩
  | thrown _ winners _ => simp [winners] at member

theorem Undecided.loses (undecided : run.Undecided) {call : TerminalCall} :
    (call, true) ∉ run.returned := by
  intro won
  have member : (call, true) ∈ run.winners := List.mem_filter.mpr ⟨won, rfl⟩
  rw [undecided.winners] at member
  simp at member

/-- What can be observed after the committing call has returned stays. -/
theorem Decided.stays {winner : TerminalCall} {reports : List (κ × OperationResult)}
    (decided : run.Decided winner reports) (outside : run.inHandler = []) {later : OperationRun κ}
    (reaches : Reachability.Reaches OperationRun.step Reachability.unguarded run later) :
    later.operation.observed = run.operation.observed := by
  have kept : later.Decided winner reports ∧ later.inHandler = [] ∧
      later.operation.observed = run.operation.observed := by
    apply reaches.invariant (fun later => later.Decided winner reports ∧ later.inHandler = [] ∧
      later.operation.observed = run.operation.observed) ⟨decided, outside, rfl⟩
    rintro before event after ⟨still, free, same⟩ - stepped
    obtain ⟨next, unchanged⟩ := still.step stepped
    obtain ⟨observed, freed⟩ := unchanged free
    exact ⟨next, freed, observed.trans same⟩
  exact kept.2.2

variable (run) in
/-- An operation commits exactly one result. In every run, at most one finishing call
returns `true`, and then the result and the state are its own; there is a result
exactly in a terminal state, and it is ok exactly if the operation was completed. Once
that call has returned, nothing that can be observed changes any more. The handler
installed at the moment of the commit is called once with the result, and no handler
is called otherwise. The operation is timed out exactly if a `timeout` returned
`true`. -/
theorem commits_once (stream : StreamId) (handler : Option κ)
    (reachable : Reachable stream handler run) :
    run.winners.length ≤ 1 ∧
    (∀ call, (call, true) ∈ run.returned →
      run.operation.result = some call.result ∧ run.operation.state = call.state) ∧
    (run.operation.result.isSome = true ↔ run.operation.isTerminal = true) ∧
    (∀ result, run.operation.result = some result →
      (result.ok = true ↔ run.operation.state = .completed)) ∧
    (∀ call, (call, true) ∈ run.returned → ∀ later,
      Reachability.Reaches step Reachability.unguarded run later →
      later.operation.observed = run.operation.observed) ∧
    (run.operation.result = none → run.notified = []) ∧
    (∀ result, run.operation.result = some result →
      ∃ before winner, Moment stream handler run before winner ∧ winner.result = result ∧
        run.notified = before.operation.completionHandler.toList.map fun handler =>
          (handler, result)) ∧
    (run.operation.timedOut = true ↔ ∃ message, (.timeout message, true) ∈ run.returned) := by
  rcases reachable.decided with undecided | ⟨before, winner, moment, decided⟩
  · refine ⟨by simp [undecided.winners], fun _ won => absurd won undecided.loses,
      by simp [undecided.result, undecided.live], by simp [undecided.result],
      fun _ won => absurd won undecided.loses, fun _ => undecided.silent,
      by simp [undecided.result], ?_⟩
    rw [undecided.timedOut]
    simp [undecided.loses]
  · refine ⟨?_, ?_, by simp [decided.result, decided.terminal], ?_, ?_, by simp [decided.result], ?_,
      ?_⟩
    · cases decided.stage with
      | inside _ winners _ => simp [winners]
      | returned _ winners _ => simp [winners]
      | thrown _ winners _ => simp [winners]
    · intro call won
      obtain ⟨rfl, -⟩ := decided.winner won
      exact ⟨decided.result, decided.state⟩
    · intro result committed
      obtain rfl := Option.some.inj (decided.result.symm.trans committed)
      rw [decided.state]
      exact decided.proper
    · intro call won later reaches
      exact decided.stays (decided.winner won).2.1 reaches
    · intro result committed
      obtain rfl := Option.some.inj (decided.result.symm.trans committed)
      exact ⟨before, winner, moment, rfl, decided.reported⟩
    · constructor
      · intro timedOut
        cases decided.stage with
        | inside _ _ untimed => simp [untimed] at timedOut
        | thrown _ _ untimed => simp [untimed] at timedOut
        | returned _ winners same =>
          have won : (winner, true) ∈ run.winners := by simp [winners]
          have member := (List.mem_filter.mp won).1
          cases winner with
          | timeout message => exact ⟨message, member⟩
          | complete message => simp [same, TerminalCall.isTimeout] at timedOut
          | fail status message => simp [same, TerminalCall.isTimeout] at timedOut
          | cancel message => simp [same, TerminalCall.isTimeout] at timedOut
      · rintro ⟨message, won⟩
        obtain ⟨rfl, -, -, timedOut⟩ := decided.winner won
        exact timedOut

end Runs

/-- A `timeout` whose handler tries to cancel, and a completion that comes too late. -/
def timedOutOnce : Option (OperationRun Nat) :=
  Reachability.run step Reachability.unguarded (create ⟨1⟩ (some 7))
    [.call .activate, .call (.finish (.timeout "late")), .call (.finish (.cancel "inside")),
      .handlerReturns, .call (.setCompletionHandler (some 8)), .call (.finish (.complete "after"))]

/-- The first handler hears of the timeout once, and nothing changes afterwards. -/
theorem commits_once_inside :
    ∃ run, timedOutOnce = some run ∧ run.notified = [(7, .failure .timeoutError "late")] ∧
      run.operation.timedOut = true ∧
      ∀ later, Reachability.Reaches step Reachability.unguarded run later →
        later.operation.observed = run.operation.observed := by
  have reads : timedOutOnce.map (fun run =>
      (run.notified, run.returned.contains (.timeout "late", true))) =
        some ([(7, .failure .timeoutError "late")], true) := by
    decide +kernel
  obtain ⟨run, reached, both⟩ := Option.map_eq_some_iff.mp reads
  obtain ⟨reported, listed⟩ := Prod.mk.inj both
  have won : (.timeout "late", true) ∈ run.returned := by simpa using listed
  obtain ⟨-, -, -, -, stays, -, -, timedOut⟩ := commits_once run ⟨1⟩ (some 7)
    (Reachability.run_reaches _ _ _ _ _ reached)
  exact ⟨run, reached, reported, timedOut.mpr ⟨"late", won⟩, stays _ won⟩

/-- A refused call changes nothing that can be observed and calls no handler, in every
state, unless it is a `cancel` before the activation and before any request for
cancellation: that one is refused after it has recorded the request. -/
theorem refused_calls_change_nothing (run : OperationRun κ) (made : OperationCall κ) :
    (run.operation.refuses made = true →
      (run.call made).operation.observed = run.operation.observed ∧
        (run.call made).notified = run.notified) ↔
    ¬ ((∃ message, made = .finish (.cancel message)) ∧ run.operation.state = .created ∧
      run.operation.cancellationRequested = false) := by
  cases made with
  | activate =>
    refine iff_of_true ?_ (by simp)
    intro refused
    by_cases created : run.operation.state = .created
    · simp [Operation.refuses, Operation.activate_eq, created] at refused
    · simp [OperationRun.call, Operation.activate_eq, created]
  | setDeadline deadline =>
    refine iff_of_true ?_ (by simp)
    intro refused
    cases terminal : run.operation.isTerminal with
    | false => simp [Operation.refuses, Operation.setDeadline, terminal] at refused
    | true => simp [OperationRun.call, Operation.setDeadline, terminal]
  | requestCancellation =>
    refine iff_of_true ?_ (by simp)
    intro refused
    cases terminal : run.operation.isTerminal with
    | false => simp [Operation.refuses, Operation.requestCancellation, terminal] at refused
    | true => simp [OperationRun.call, Operation.requestCancellation, terminal]
  | setCompletionHandler handler => simp [Operation.refuses]
  | finish call =>
    rcases run.operation.attempt_cases call with
      ⟨active, -, requested, commits⟩ | refused | ⟨created, ⟨message, rfl⟩, refused⟩
    · simp [Operation.refuses, commits, active]
    · have silent : run.call (.finish call) =
          { run with returned := run.returned ++ [(call, false)] } := finish_refused refused
      rw [silent]
      refine iff_of_true (fun _ => ⟨rfl, rfl⟩) ?_
      rintro ⟨⟨message, same⟩, created, unrequested⟩
      obtain rfl := OperationCall.finish.inj same
      -- A cancellation before the activation would have recorded the request.
      rw [Operation.attempt, run.operation.cancel_created message created] at refused
      have recorded := congrArg (fun outcome => outcome.1.cancellationRequested) refused
      simp [unrequested] at recorded
    · have traced : run.call (.finish (.cancel message)) = { run with
          operation := { run.operation with cancellationRequested := true }
          returned := run.returned ++ [(.cancel message, false)] } := finish_refused refused
      rw [traced]
      cases requested : run.operation.cancellationRequested <;>
        simp [Operation.refuses, refused, created, Operation.observed, requested]

/-- `cancel` on an operation that was never activated is refused, yet the operation then
says that its cancellation was requested. -/
theorem refused_cancel_requests :
    ∃ run : OperationRun Unit, Reachable ⟨3⟩ none run ∧
      run.operation.refuses (.finish (.cancel "")) = true ∧
      run.operation.cancellationRequested = false ∧
      (run.call (.finish (.cancel ""))).operation.cancellationRequested = true :=
  ⟨create ⟨3⟩ none, .start, by decide, rfl, by decide⟩

end OperationRun

end Rillnet
