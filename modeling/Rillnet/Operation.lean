import Rillnet.Frame
import Rillnet.StatusCode

/-!
# Lifecycles and operations

The connection and operation lifecycles are tables of allowed transitions. An
operation commits one terminal result: the first of `complete`, `fail`, `cancel`
and `timeout` that the lifecycle table allows wins, and the rest are refused.
The completion handler is a value of the parameter `κ`; a call reports whether
it committed, and the committing call invokes the handler with the result.
-/

namespace Rillnet

/-- The states of a connection, a client's and a server's alike. -/
inductive ConnectionState where
  | created
  | connecting
  | accepting
  | active
  | draining
  | closing
  | closed
deriving DecidableEq, Repr

/-- The states of an operation; the last three are final. -/
inductive OperationState where
  | created
  | active
  | completed
  | failed
  | cancelled
deriving DecidableEq, Repr

/-- What a refused transition reports. -/
inductive LifecycleTransitionError where
  | none
  | invalidTransition
deriving DecidableEq, Repr

/-- The table of the transitions of a connection. -/
def ConnectionState.canTransition : ConnectionState → ConnectionState → Bool
  | .created, next => decide (next = .connecting) || decide (next = .accepting)
  | .connecting, next | .accepting, next => decide (next = .active)
  | .active, next =>
    decide (next = .draining) || decide (next = .closing) || decide (next = .closed)
  | .draining, next => decide (next = .closing) || decide (next = .closed)
  | .closing, next => decide (next = .closed)
  | .closed, _ => false

/-- The table of the transitions of an operation: nothing leads out of a final state. -/
def OperationState.canTransition : OperationState → OperationState → Bool
  | .created, next => decide (next = .active)
  | .active, next =>
    decide (next = .completed) || decide (next = .failed) || decide (next = .cancelled)
  | .completed, _ | .failed, _ | .cancelled, _ => false

/-- A refused transition leaves the state alone. -/
def ConnectionState.transition (state next : ConnectionState) :
    ConnectionState × LifecycleTransitionError :=
  if state.canTransition next then (next, .none) else (state, .invalidTransition)

/-- A refused transition leaves the state alone. -/
def OperationState.transition (state next : OperationState) :
    OperationState × LifecycleTransitionError :=
  if state.canTransition next then (next, .none) else (state, .invalidTransition)

/-- A status with its message. -/
structure OperationResult where
  status : StatusCode
  message : String
deriving DecidableEq, Repr

namespace OperationResult

def success (message : String) : OperationResult := ⟨.ok, message⟩
def failure (status : StatusCode) (message : String) : OperationResult := ⟨status, message⟩
def ok (result : OperationResult) : Bool := decide (result.status = .ok)

end OperationResult

/-- A time point of the steady clock, in nanoseconds. -/
abbrev Deadline := Int

/-- The operation's members; the handler is absent until one is installed. -/
structure Operation (κ : Type) where
  stream : StreamId
  state : OperationState := .created
  result : Option OperationResult := none
  deadline : Option Deadline := none
  cancellationRequested : Bool := false
  timedOut : Bool := false
  completionHandler : Option κ := none
deriving DecidableEq, Repr

namespace Operation

variable {κ : Type}

/-- Whether the operation is over. -/
def isTerminal (operation : Operation κ) : Bool :=
  decide (operation.state = .completed) || decide (operation.state = .failed) ||
    decide (operation.state = .cancelled)

/-- The operation begins. -/
def activate (operation : Operation κ) : Operation κ × LifecycleTransitionError :=
  let (state, error) := operation.state.transition .active
  ({ operation with state := state }, error)

/-- A deadline may be set as long as the operation is not over. -/
def setDeadline (operation : Operation κ) (deadline : Deadline) : Operation κ × Bool :=
  if operation.isTerminal then (operation, false)
  else ({ operation with deadline := some deadline }, true)

/-- Cancellation may be asked for as long as the operation is not over. -/
def requestCancellation (operation : Operation κ) : Operation κ × Bool :=
  if operation.isTerminal then (operation, false)
  else ({ operation with cancellationRequested := true }, true)

/-- An absent handler is an empty function. -/
def setCompletionHandler (operation : Operation κ) (handler : Option κ) : Operation κ :=
  { operation with completionHandler := handler }

/-- Commit a terminal state and its result, unless the lifecycle refuses it. -/
def finish (operation : Operation κ) (terminalState : OperationState) (result : OperationResult) :
    Operation κ × Bool :=
  let (state, error) := operation.state.transition terminalState
  if error ≠ .none then (operation, false)
  else ({ operation with state := state, result := some result }, true)

/-- End the operation with success. -/
def complete (operation : Operation κ) (message : String) : Operation κ × Bool :=
  operation.finish .completed (.success message)

/-- End the operation with an error; success is no error, and changes nothing. -/
def fail (operation : Operation κ) (status : StatusCode) (message : String) : Operation κ × Bool :=
  if status = .ok then (operation, false)
  else operation.finish .failed (.failure status message)

/-- The cancellation request is recorded before the transition is tried. -/
def cancel (operation : Operation κ) (message : String) : Operation κ × Bool :=
  let (requested, accepted) := operation.requestCancellation
  if accepted then requested.finish .cancelled (.failure .cancelled message)
  else (operation, false)

/-- End the operation because its deadline passed, and remember that this was the reason. -/
def timeout (operation : Operation κ) (message : String) : Operation κ × Bool :=
  let (finished, didTimeout) := operation.finish .failed (.failure .timeoutError message)
  ({ finished with timedOut := finished.timedOut || didTimeout }, didTimeout)

/-- The call of the completion handler made by a terminal call with the given
outcome: the installed handler and the committed result. -/
def notified (outcome : Operation κ × Bool) : Option (κ × OperationResult) :=
  if outcome.2 then
    match outcome.1.completionHandler, outcome.1.result with
    | some handler, some result => some (handler, result)
    | _, _ => none
  else none

section Laws

variable (operation : Operation κ)

/-- Terminal states are the three the lifecycle never leaves. -/
theorem isTerminal_iff : operation.isTerminal = true ↔
    operation.state = .completed ∨ operation.state = .failed ∨ operation.state = .cancelled := by
  simp [isTerminal, or_assoc]

/-- An active operation is not terminal. -/
theorem isTerminal_active (active : operation.state = .active) : operation.isTerminal = false := by
  simp [isTerminal, active]

/-- What `activate` does. -/
theorem activate_eq : operation.activate =
    if operation.state = .created then ({ operation with state := .active }, .none)
    else (operation, .invalidTransition) := by
  by_cases created : operation.state = .created
  · simp [activate, OperationState.transition, OperationState.canTransition, created]
  · have refused : operation.state.canTransition .active = false := by
      cases state : operation.state with
      | created => exact absurd state created
      | active => rfl
      | completed => rfl
      | failed => rfl
      | cancelled => rfl
    simp [activate, OperationState.transition, created, refused]

/-- A finishing call commits exactly on an active operation. -/
theorem finish_eq (terminalState : OperationState) (result : OperationResult)
    (terminal : OperationState.active.canTransition terminalState = true) :
    operation.finish terminalState result =
      if operation.state = .active then
        ({ operation with state := terminalState, result := some result }, true)
      else (operation, false) := by
  by_cases active : operation.state = .active
  · simp [finish, OperationState.transition, active, terminal]
  · have refused : operation.state.canTransition terminalState = false := by
      cases state : operation.state <;> cases terminalState <;>
        simp_all [OperationState.canTransition]
    simp [finish, OperationState.transition, active, refused]

/-- What `complete` does. -/
theorem complete_eq (message : String) :
    operation.complete message =
      if operation.state = .active then
        ({ operation with state := .completed, result := some (.success message) }, true)
      else (operation, false) :=
  operation.finish_eq .completed (.success message) rfl

/-- What `fail` does with a failure status. -/
theorem fail_eq (status : StatusCode) (message : String) (failure : status ≠ .ok) :
    operation.fail status message =
      if operation.state = .active then
        ({ operation with state := .failed, result := some (.failure status message) }, true)
      else (operation, false) := by
  rw [fail, if_neg failure]
  exact operation.finish_eq .failed (.failure status message) rfl

/-- What `timeout` does. -/
theorem timeout_eq (message : String) :
    operation.timeout message =
      if operation.state = .active then
        ({ operation with
          state := .failed
          result := some (.failure .timeoutError message)
          timedOut := true }, true)
      else (operation, false) := by
  rw [timeout, operation.finish_eq .failed (.failure .timeoutError message) rfl]
  by_cases active : operation.state = .active
  · simp [active]
  · simp [active]

/-- What `cancel` does to an operation that was activated: the request for
cancellation is recorded exactly when the cancellation wins. -/
theorem cancel_eq (message : String) (activated : operation.state ≠ .created) :
    operation.cancel message =
      if operation.state = .active then
        ({ operation with
          state := .cancelled
          result := some (.failure .cancelled message)
          cancellationRequested := true }, true)
      else (operation, false) := by
  by_cases active : operation.state = .active
  · have live := operation.isTerminal_active active
    simp [cancel, requestCancellation, live, finish_eq, OperationState.canTransition, active]
  · have terminal : operation.isTerminal = true := by
      rw [isTerminal_iff]
      cases state : operation.state <;> simp_all
    simp [cancel, requestCancellation, terminal, active]

/-- What `cancel` does before the activation: it is refused, but the request for
cancellation is recorded. -/
theorem cancel_created (message : String) (created : operation.state = .created) :
    operation.cancel message = ({ operation with cancellationRequested := true }, false) := by
  simp [cancel, requestCancellation, isTerminal, created, finish, OperationState.transition,
    OperationState.canTransition]

end Laws

end Operation

end Rillnet
