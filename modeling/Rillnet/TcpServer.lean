import Rillnet.Operation
import Rillnet.Library.Channel
import Rillnet.Library.Heap
import Rillnet.Library.Reachability
import Mathlib.Logic.Function.Iterate

/-!
# The TCP server and its shutdown

The server accepts connections in a loop and keeps the drain handlers that were
registered for them. A call of `shutdown` moves the handlers into coroutines of
their own, leaves the moved-from functions in the vector, and waits in a loop whose
bound is the size of the vector at each test. Each coroutine calls its handler with
the deadline of the call that spawned it and sends one completion, also when the
handler throws; a moved-from function throws at once.

One function stands for each piece of code that runs between two suspensions. The
loop that spawns the coroutines is one piece, and what a coroutine does is a step
of its own. Code of the application runs anywhere in between, also the connection
handler of an accept that completed although the server was stopped.

Handlers are numbered in the order of their registration. The handlers invoked,
with the deadline they got, and those that were cleared without having been moved
are kept as history.
-/

namespace Rillnet

/-- Where the accept loop stands. -/
inductive AcceptLoop where
  | notStarted
  | accepting
  | finished
deriving DecidableEq, Repr

/-- Where a call of `shutdown` stands: in `async_receive`, about to go on with a
completion, or returned. -/
inductive ShutdownStage where
  | receiving
  | resumed
  | returned
deriving DecidableEq, Repr

/-- One call of `shutdown`: its deadline, its channel, the counter of its loop, and
the number of coroutines it spawned. -/
structure ShutdownCall where
  deadline : Deadline
  completion : Channel Unit Unit
  index : Nat := 0
  stage : ShutdownStage := .resumed
  spawned : Nat

/-- Where a drain coroutine stands: not started, in its handler, suspended in
`async_send`, or done. -/
inductive DrainStage where
  | spawned
  | draining
  | sending
  | finished
deriving DecidableEq, Repr

/-- A drain coroutine: its handler, absent if it was moved from before, the call that
spawned it and the deadline it was given. -/
structure DrainCoroutine where
  handler : Option Nat
  call : Nat
  deadline : Deadline
  stage : DrainStage := .spawned
deriving DecidableEq, Repr

/-- The members of the server, its coroutines and its history. -/
structure TcpServer where
  connectionHandler : Bool := false
  connectionShutdownHandlers : List (Option Nat) := []
  stopping : Bool := false
  acceptLoop : AcceptLoop := .notStarted
  calls : List ShutdownCall := []
  drains : List DrainCoroutine := []
  registered : Nat := 0
  invoked : List (Nat × Deadline) := []
  discarded : List Nat := []

/-- What can happen next at a server. -/
inductive TcpServerEvent where
  | onConnection
  | registerConnectionShutdown
  | run
  | acceptCompleted (registrations : Nat)
  | acceptFailed (aborted : Bool)
  | stop
  | shutdown (deadline : Deadline)
  | startDrain (drain : Nat)
  | drainReturns (drain : Nat)
  | drainThrows (drain : Nat)
  | resumeShutdown (call : Nat)
deriving DecidableEq, Repr

/-- Ask the channel for a completion; errors are ignored. -/
def ShutdownCall.receive (call : ShutdownCall) : ShutdownCall :=
  match call.completion.receive () with
  | (completion, .suspended) => { call with completion := completion, stage := .receiving }
  | (completion, _) => { call with completion := completion, stage := .resumed }

/-- Offer a completion to the call, which is resumed if it is waiting. -/
def ShutdownCall.send (call : ShutdownCall) : Option ShutdownCall :=
  (call.completion.trySend ()).map fun (completion, receiver) =>
    { call with
      completion := completion
      stage := if receiver.isSome then .resumed else call.stage }

namespace TcpServer

def registerConnectionShutdown (server : TcpServer) : TcpServer :=
  { server with
    connectionShutdownHandlers := server.connectionShutdownHandlers ++ [some server.registered]
    registered := server.registered + 1 }

/-- The test of the accept loop: begin another accept, or leave. -/
def continueAccepting (server : TcpServer) : TcpServer :=
  { server with acceptLoop := if server.stopping then .finished else .accepting }

/-- An accept completed: the connection handler registers some drain handlers. -/
def acceptCompleted (server : TcpServer) (registrations : Nat) : TcpServer :=
  let handled :=
    if server.connectionHandler then Nat.iterate registerConnectionShutdown registrations server
    else server
  handled.continueAccepting

def acceptFailed (server : TcpServer) (aborted : Bool) : TcpServer :=
  if server.stopping || aborted then { server with acceptLoop := .finished }
  else server.continueAccepting

def stop (server : TcpServer) : TcpServer := { server with stopping := true }

/-- The test of the loop of a `shutdown`: wait for another completion, or clear the
vector and return. -/
def continueShutdown (server : TcpServer) (index : Nat) : TcpServer :=
  match server.calls[index]? with
  | none => server
  | some call =>
    if call.index < server.connectionShutdownHandlers.length then
      { server with calls := server.calls.set index call.receive }
    else
      { server with
        calls := server.calls.set index { call with stage := .returned }
        connectionShutdownHandlers := []
        discarded := server.discarded ++ server.connectionShutdownHandlers.reduceOption }

/-- Everything `shutdown` does before it waits for the first time. -/
def shutdown (server : TcpServer) (deadline : Deadline) : TcpServer :=
  let stopped := server.stop
  let handlers := stopped.connectionShutdownHandlers
  let spawned : TcpServer := { stopped with
    calls := stopped.calls ++ [{
      deadline := deadline
      completion := Channel.fresh handlers.length
      spawned := handlers.length }]
    drains := stopped.drains ++ handlers.map fun handler =>
      { handler := handler, call := stopped.calls.length, deadline := deadline }
    connectionShutdownHandlers := handlers.map fun _ => none }
  spawned.continueShutdown stopped.calls.length

/-- The end of a handler, however it came about: the coroutine sends its completion. -/
def finishDrain (server : TcpServer) (index : Nat) (drain : DrainCoroutine) : TcpServer :=
  match server.calls[drain.call]?.bind ShutdownCall.send with
  | none => { server with drains := server.drains.set index { drain with stage := .sending } }
  | some call =>
    { server with
      drains := server.drains.set index { drain with stage := .finished }
      calls := server.calls.set drain.call call }

/-- A drain coroutine starts and calls its handler. -/
def startDrain (server : TcpServer) (index : Nat) (drain : DrainCoroutine) : TcpServer :=
  match drain.handler with
  | none => server.finishDrain index drain
  | some handler =>
    { server with
      drains := server.drains.set index { drain with stage := .draining }
      invoked := server.invoked ++ [(handler, drain.deadline)] }

/-- A `shutdown` goes on with a completion. -/
def resumeShutdown (server : TcpServer) (index : Nat) (call : ShutdownCall) : TcpServer :=
  { server with
    calls := server.calls.set index { call with index := call.index + 1 } }.continueShutdown index

/-- One step of the server. -/
def step (server : TcpServer) : TcpServerEvent → Option TcpServer
  | .onConnection => some { server with connectionHandler := true }
  | .registerConnectionShutdown => some server.registerConnectionShutdown
  | .run => if server.acceptLoop = .accepting then none else some server.continueAccepting
  | .acceptCompleted registrations =>
    if server.acceptLoop = .accepting then some (server.acceptCompleted registrations) else none
  | .acceptFailed aborted =>
    if server.acceptLoop = .accepting then some (server.acceptFailed aborted) else none
  | .stop => some server.stop
  | .shutdown deadline => some (server.shutdown deadline)
  | .startDrain index =>
    match server.drains[index]? with
    | some drain => if drain.stage = .spawned then some (server.startDrain index drain) else none
    | none => none
  | .drainReturns index | .drainThrows index =>
    match server.drains[index]? with
    | some drain => if drain.stage = .draining then some (server.finishDrain index drain) else none
    | none => none
  | .resumeShutdown index =>
    match server.calls[index]? with
    | some call => if call.stage = .resumed then some (server.resumeShutdown index call) else none
    | none => none

/-- What an event does, with the condition under which it can happen. -/
inductive Acts (server : TcpServer) : TcpServerEvent → TcpServer → Prop where
  | onConnection : Acts server .onConnection { server with connectionHandler := true }
  | registerConnectionShutdown :
      Acts server .registerConnectionShutdown server.registerConnectionShutdown
  | run (idle : server.acceptLoop ≠ .accepting) : Acts server .run server.continueAccepting
  | acceptCompleted (registrations : Nat) (accepting : server.acceptLoop = .accepting) :
      Acts server (.acceptCompleted registrations) (server.acceptCompleted registrations)
  | acceptFailed (aborted : Bool) (accepting : server.acceptLoop = .accepting) :
      Acts server (.acceptFailed aborted) (server.acceptFailed aborted)
  | stop : Acts server .stop server.stop
  | shutdown (deadline : Deadline) : Acts server (.shutdown deadline) (server.shutdown deadline)
  | startDrain (index : Nat) (drain : DrainCoroutine)
      (found : server.drains[index]? = some drain) (spawned : drain.stage = .spawned) :
      Acts server (.startDrain index) (server.startDrain index drain)
  | drainReturns (index : Nat) (drain : DrainCoroutine)
      (found : server.drains[index]? = some drain) (draining : drain.stage = .draining) :
      Acts server (.drainReturns index) (server.finishDrain index drain)
  | drainThrows (index : Nat) (drain : DrainCoroutine)
      (found : server.drains[index]? = some drain) (draining : drain.stage = .draining) :
      Acts server (.drainThrows index) (server.finishDrain index drain)
  | resumeShutdown (index : Nat) (call : ShutdownCall)
      (found : server.calls[index]? = some call) (resumed : call.stage = .resumed) :
      Acts server (.resumeShutdown index) (server.resumeShutdown index call)

/-- There is nothing else a step does. -/
theorem step_acts {server after : TcpServer} {event : TcpServerEvent}
    (stepped : server.step event = some after) : server.Acts event after := by
  cases event with
  | onConnection =>
    obtain rfl := Option.some.inj stepped
    exact .onConnection
  | registerConnectionShutdown =>
    obtain rfl := Option.some.inj stepped
    exact .registerConnectionShutdown
  | run =>
    obtain ⟨idle, tested⟩ := Option.ite_none_left_eq_some.mp stepped
    obtain rfl := Option.some.inj tested
    exact .run idle
  | acceptCompleted registrations =>
    obtain ⟨accepting, accepted⟩ := Option.ite_none_right_eq_some.mp stepped
    obtain rfl := Option.some.inj accepted
    exact .acceptCompleted registrations accepting
  | acceptFailed aborted =>
    obtain ⟨accepting, failed⟩ := Option.ite_none_right_eq_some.mp stepped
    obtain rfl := Option.some.inj failed
    exact .acceptFailed aborted accepting
  | stop =>
    obtain rfl := Option.some.inj stepped
    exact .stop
  | shutdown deadline =>
    obtain rfl := Option.some.inj stepped
    exact .shutdown deadline
  | startDrain index =>
    simp only [step] at stepped
    split at stepped
    · rename_i drain found
      obtain ⟨spawned, started⟩ := Option.ite_none_right_eq_some.mp stepped
      obtain rfl := Option.some.inj started
      exact .startDrain index drain found spawned
    · simp at stepped
  | drainReturns index =>
    simp only [step] at stepped
    split at stepped
    · rename_i drain found
      obtain ⟨draining, ended⟩ := Option.ite_none_right_eq_some.mp stepped
      obtain rfl := Option.some.inj ended
      exact .drainReturns index drain found draining
    · simp at stepped
  | drainThrows index =>
    simp only [step] at stepped
    split at stepped
    · rename_i drain found
      obtain ⟨draining, ended⟩ := Option.ite_none_right_eq_some.mp stepped
      obtain rfl := Option.some.inj ended
      exact .drainThrows index drain found draining
    · simp at stepped
  | resumeShutdown index =>
    simp only [step] at stepped
    split at stepped
    · rename_i call found
      obtain ⟨resumed, continued⟩ := Option.ite_none_right_eq_some.mp stepped
      obtain rfl := Option.some.inj continued
      exact .resumeShutdown index call found resumed
    · simp at stepped

end TcpServer

namespace ShutdownCall

variable {call : ShutdownCall} {spawned finished : Nat}

@[simp] theorem receive_deadline (call : ShutdownCall) : call.receive.deadline = call.deadline := by
  unfold ShutdownCall.receive
  split <;> rfl

@[simp] theorem receive_index (call : ShutdownCall) : call.receive.index = call.index := by
  unfold ShutdownCall.receive
  split <;> rfl

@[simp] theorem receive_spawned (call : ShutdownCall) : call.receive.spawned = call.spawned := by
  unfold ShutdownCall.receive
  split <;> rfl

/-- The completions that have arrived at the call and that it has not gone on with. -/
def pending (call : ShutdownCall) : Nat :=
  call.completion.buffer.length + if call.stage = .resumed then 1 else 0

/-- The call has room for a completion of each coroutine it spawned, and every
completion sent to it was received or is on its way. -/
structure Keeps (call : ShutdownCall) (spawned finished : Nat) : Prop where
  count : call.spawned = spawned
  capacity : call.completion.capacity = spawned
  stillOpen : call.completion.closed = false
  waits : call.completion.waiting = if call.stage = .receiving then [()] else []
  received : call.index + call.pending = finished

/-- The call is about to test its loop. -/
structure Tests (call : ShutdownCall) (spawned finished : Nat) : Prop where
  count : call.spawned = spawned
  capacity : call.completion.capacity = spawned
  stillOpen : call.completion.closed = false
  waits : call.completion.waiting = []
  received : call.index + call.completion.buffer.length = finished

theorem Tests.receive (tests : call.Tests spawned finished) :
    call.receive.Keeps spawned finished ∧ call.receive.stage ≠ .returned := by
  unfold ShutdownCall.receive
  split
  · rename_i completion asked
    obtain ⟨vacant, -, empty, stillOpen, waiting, capacity⟩ :=
      call.completion.receive_suspended completion () asked
    refine ⟨⟨tests.count, capacity.trans tests.capacity, stillOpen, ?_, ?_⟩, by simp⟩
    · simp [waiting, tests.waits]
    · have received := tests.received
      simp [pending, empty, vacant] at received ⊢
      exact received
  · rename_i completion reception others asked
    cases reception with
    | suspended => exact absurd rfl others
    | message value =>
      obtain ⟨buffer, -, idle, stillOpen, capacity⟩ :=
        call.completion.receive_message completion value () asked
      refine ⟨⟨tests.count, capacity.trans tests.capacity, stillOpen.trans tests.stillOpen, ?_,
        ?_⟩, by simp⟩
      · simp [idle]
      · have received := tests.received
        simp [pending, buffer] at received ⊢
        exact received
    | closed =>
      have ended := (call.completion.receive_closed completion () asked).2.2
      simp [tests.stillOpen] at ended

theorem Tests.returns (tests : call.Tests spawned finished) :
    ({ call with stage := .returned } : ShutdownCall).Keeps spawned finished where
  count := tests.count
  capacity := tests.capacity
  stillOpen := tests.stillOpen
  waits := by simp [tests.waits]
  received := by simpa [pending] using tests.received

/-- A call that goes on has taken one completion off. -/
theorem Keeps.tests (keeps : call.Keeps spawned finished) (resumed : call.stage = .resumed) :
    ({ call with index := call.index + 1 } : ShutdownCall).Tests spawned finished where
  count := keeps.count
  capacity := keeps.capacity
  stillOpen := keeps.stillOpen
  waits := by simpa [resumed] using keeps.waits
  received := by
    have received := keeps.received
    simp only [pending, resumed, if_true] at received
    dsimp only
    omega

/-- There is room for the completion of a coroutine that has not sent it. -/
theorem Keeps.send (keeps : call.Keeps spawned finished) (more : finished < spawned) :
    ∃ sent, call.send = some sent ∧ sent.Keeps spawned (finished + 1) ∧
      sent.deadline = call.deadline ∧ sent.index = call.index ∧
      (sent.stage = .returned ↔ call.stage = .returned) := by
  have received := keeps.received
  have capacity := keeps.capacity
  cases sending : call.completion.trySend () with
  | none =>
    rcases (call.completion.trySend_refused_iff ()).mp sending with closed | ⟨-, full⟩
    · simp [keeps.stillOpen] at closed
    · simp only [pending] at received
      omega
  | some outcome =>
    obtain ⟨completion, receiver⟩ := outcome
    cases receiver with
    | none =>
      obtain ⟨-, idle, still, buffer, stillOpen, size⟩ :=
        call.completion.trySend_buffered completion () sending
      have awake : call.stage ≠ .receiving := by
        intro receiving
        have waits := keeps.waits
        simp [receiving, idle] at waits
      refine ⟨{ call with completion := completion }, by simp [ShutdownCall.send, sending], ?_, rfl,
        rfl, Iff.rfl⟩
      refine ⟨keeps.count, size.trans capacity, stillOpen, by simp [still, awake], ?_⟩
      simp only [pending, buffer, List.length_append, List.length_singleton] at received ⊢
      omega
    | some receiver =>
      obtain ⟨-, waiting, vacant, buffer, stillOpen, size⟩ :=
        call.completion.trySend_handed completion () receiver sending
      have receiving : call.stage = .receiving := by
        by_contra awake
        have waits := keeps.waits
        simp [awake, waiting] at waits
      have alone : completion.waiting = [] := by
        have waits := keeps.waits
        simpa [receiving, waiting] using waits
      refine ⟨{ call with completion := completion, stage := .resumed },
        by simp [ShutdownCall.send, sending], ?_, rfl, rfl, by simp [receiving]⟩
      refine ⟨keeps.count, size.trans capacity, stillOpen, by simp [alone], ?_⟩
      simp only [pending, receiving, vacant, buffer] at received ⊢
      simpa using received

end ShutdownCall

end Rillnet
