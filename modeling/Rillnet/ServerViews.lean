import Rillnet.ServerConnection

/-!
# Steps and views of a server connection

`Acts` lists what the events other than the loop over frames do, each with the
condition under which it can happen; a fact about all of them is proved by cases on it.

Many statements are about a part of a server connection only. A view is steady if it
does not show what `shutdown` changes: the lifecycle, the transport, the report of the
close, the suspended calls and the operations. It is still if it does not show the
queue and the reader either. What these parts of the code do is then invisible to it,
whatever else it shows.
-/

namespace Rillnet

namespace ServerConnection

section Views

variable {τ : Type} {ν : τ → Type} {α : Type} {view : ServerConnection ν → α}

/-- Failing the operations is invisible to a view that calls of operations leave alone. -/
theorem failOperations_view
    (calls : ∀ (server : ServerConnection ν) (invocation : Nat)
      (call : Operation StreamId → Operation StreamId × Bool),
      view (server.callOperation invocation call).1 = view server)
    (server : ServerConnection ν) : view server.failOperationsOnConnectionClose = view server := by
  unfold failOperationsOnConnectionClose
  generalize server.operations.entries = entries
  induction entries generalizing server with
  | nil => rfl
  | cons entry rest inductionHypothesis =>
    rw [List.foldl_cons, inductionHypothesis, calls, calls]

/-- A view that does not show what `shutdown` changes. -/
structure Steady (view : ServerConnection ν → α) : Prop where
  transition : ∀ server next, view (server.transition next) = view server
  closes : ∀ server : ServerConnection ν,
    view { server with transportOpen := false } = view server
  tells : ∀ server, view server.notifyClosed = view server
  suspends : ∀ (server : ServerConnection ν) (drains : Nat),
    view { server with drains := drains } = view server
  enters : ∀ server : ServerConnection ν,
    view { server with shutdownEntered := true } = view server
  calls : ∀ (server : ServerConnection ν) (invocation : Nat)
    (call : Operation StreamId → Operation StreamId × Bool),
    view (server.callOperation invocation call).1 = view server

namespace Steady

variable (steady : Steady view) (server : ServerConnection ν)
include steady

/-- A steady view does not show the end of `shutdown`. -/
theorem finishShutdown : view server.finishShutdown = view server := by
  unfold ServerConnection.finishShutdown
  dsimp only
  rw [steady.tells, steady.transition, steady.closes]
  split
  · rfl
  · exact failOperations_view steady.calls server

/-- It does not show the poll of the waiting loop. -/
theorem drain (expired : Bool) : view (server.drain expired) = view server := by
  unfold ServerConnection.drain
  split
  · exact steady.finishShutdown server
  · exact steady.suspends server _

/-- It does not show that the connection begins to drain. -/
theorem beginShutdown : view server.beginShutdown = view server := by
  unfold ServerConnection.beginShutdown
  dsimp only
  split
  · split
    · rw [steady.transition, steady.transition, steady.transition]
    · rw [steady.transition, steady.transition]
  · split
    · rw [steady.transition]
    · rfl

/-- It shows nothing of a call of `shutdown`. -/
theorem shutdown (expired : Bool) : view (server.shutdown expired) = view server := by
  rw [ServerConnection.shutdown, steady.drain, steady.beginShutdown, steady.enters]

/-- It shows nothing of a later poll. -/
theorem drainTick (expired aborted : Bool) :
    view (server.drainTick expired aborted) = view server := by
  unfold ServerConnection.drainTick
  dsimp only
  split
  · rw [steady.finishShutdown, steady.suspends]
  · rw [steady.drain, steady.suspends]

end Steady

/-- A view that shows neither the queue nor the reader. -/
structure Still (view : ServerConnection ν → α) : Prop extends Steady view where
  opens : ∀ server, view (server.notify { type := .connectionOpened }) = view server
  queues : ∀ (server : ServerConnection ν) (queue : WriteQueue),
    view { server with writeQueue := queue } = view server
  reads : ∀ (server : ServerConnection ν) (reading : Bool) (reader : Reader),
    view { server with reading := reading, reader := reader } = view server

namespace Still

variable (still : Still view) (server : ServerConnection ν)
include still

/-- A still view does not show the queue, closed or not. -/
theorem closeQueueWhenIdle : view server.closeQueueWhenIdle = view server := by
  unfold ServerConnection.closeQueueWhenIdle
  split
  · exact still.queues server _
  · rfl

/-- It does not show the end of reading. -/
theorem finishReading (lost : Bool) : view (server.finishReading lost) = view server := by
  unfold ServerConnection.finishReading
  dsimp only
  rw [still.tells, still.transition, still.closeQueueWhenIdle, still.reads]
  split
  · exact failOperations_view still.calls server
  · rfl

/-- It does not show how the reader goes on. -/
theorem continueReading : view server.continueReading = view server := by
  unfold ServerConnection.continueReading
  split
  · exact still.reads server server.reading .awaiting
  · exact still.finishReading server false

/-- It does not show the start of the connection. -/
theorem run : view server.run = view server := by
  refine (still.reads _ _ .spawned).trans ?_
  split
  · rw [still.opens, still.transition, still.transition]
  · rfl

end Still

end Views

section Acting

variable {τ : Type} [DecidableEq τ] {ν : τ → Type} (registry : MessageRegistry τ)
  (codec : Codec τ ν) (server : ServerConnection ν)

/-- What an event other than the loop over frames does. -/
inductive Acts : ServerEvent ν → ServerConnection ν → Prop where
  | handle (request response : τ) :
      Acts (.handle request response) (server.handle registry request response)
  | run (fresh : server.reader = .notStarted) : Acts .run server.run
  | startWriter (queue : WriteQueue) (started : server.writeQueue.run = some queue)
      (running : server.reader ≠ .notStarted) :
      Acts .startWriter { server with writeQueue := queue }
  | startReader (spawned : server.reader = .spawned)
      (started : server.writeQueue.writer ≠ .notStarted) : Acts .startReader server.continueReading
  | received (bytes : Buffer) (awaiting : server.reader = .awaiting)
      (sized : 0 < bytes.length ∧ bytes.length ≤ 4096) :
      Acts (.received bytes) (server.received bytes)
  | endOfFile (closes : Bool) (awaiting : server.reader = .awaiting) :
      Acts (.endOfFile closes)
        ({ server with transportOpen := server.transportOpen && !closes }.finishReading
          !(server.transportOpen && !closes))
  | readFailed (closes : Bool) (awaiting : server.reader = .awaiting) :
      Acts (.readFailed closes)
        ({ server with transportOpen := server.transportOpen && !closes }.finishReading true)
  | startHandler (invocation : Nat) (object : Invocation ν)
      (found : server.invocations[invocation]? = some object) (spawned : object.stage = .spawned) :
      Acts (.startHandler invocation) (server.startHandler registry codec invocation object)
  | handlerReturns (invocation : Nat) (type : τ) (value : ν type) (object : Invocation ν)
      (found : server.invocations[invocation]? = some object)
      (handling : object.stage = .handling) (responds : type = object.handler.response) :
      Acts (.handlerReturns invocation type value)
        (server.handlerReturns registry codec invocation object type value)
  | handlerThrows (invocation : Nat) (object : Invocation ν)
      (found : server.invocations[invocation]? = some object)
      (handling : object.stage = .handling) :
      Acts (.handlerThrows invocation) (server.finishHandler invocation)
  | resumeEnqueue (invocation : Nat) (queue : WriteQueue) (result : Option WriteResult)
      (resumed : server.writeQueue.resumeEnqueue invocation = some (queue, result)) :
      Acts (.resumeEnqueue invocation) (server.afterOffer invocation (queue, result))
  | abortEnqueue (invocation : Nat) (message : String) (queue : WriteQueue)
      (aborted : server.writeQueue.abortEnqueue invocation message = some queue) :
      Acts (.abortEnqueue invocation message) { server with writeQueue := queue }
  | shutdown (expired : Bool) : Acts (.shutdown expired) (server.shutdown expired)
  | drainTick (expired aborted : Bool) (suspended : server.drains ≠ 0) :
      Acts (.drainTick expired aborted) (server.drainTick expired aborted)
  | resumeWriter (queue : WriteQueue) (resumed : server.writeQueue.resumeRun = some queue) :
      Acts .resumeWriter { server with
        writeQueue := queue
        sent := if server.transportOpen then server.sent ++ server.writeQueue.inHand
          else server.sent }
  | writeCompleted (queue : WriteQueue) (frame : Frame)
      (completed : server.writeQueue.writeCompleted = some (queue, frame)) :
      Acts .writeCompleted (({ server with writeQueue := queue }.notify
        { type := .bytesTransferred, bytes := (encodeFrame frame).length }).notify
          { type := .messageTransferred, stream := frame.header.stream })
  | writeFailed (what : String) (queue : WriteQueue)
      (failed : server.writeQueue.writeFailed what = some queue) :
      Acts (.writeFailed what) { server with writeQueue := queue, transportOpen := false }

/-- What a step of the connection does. -/
inductive Advances : ServerEvent ν → ServerConnection ν → Prop where
  | dispatches (frame : Frame) (rest : List Frame)
      (reading : server.reader = .dispatching (frame :: rest)) :
      Advances .dispatchNext (server.dispatchFrame frame rest)
  | leaves (reading : server.reader = .dispatching []) : Advances .dispatchNext server.endBatch
  | acts {event : ServerEvent ν} {after : ServerConnection ν}
      (acts : server.Acts registry codec event after) : Advances event after

variable {registry codec}

/-- There is nothing else an event does. -/
theorem act_acts {event : ServerEvent ν} {after : ServerConnection ν}
    (acted : server.act registry codec event = some after) :
    server.Acts registry codec event after := by
  cases event with
  | handle request response =>
    obtain rfl := Option.some.inj acted
    exact .handle request response
  | run =>
    obtain ⟨fresh, started⟩ := Option.ite_none_right_eq_some.mp acted
    obtain rfl := Option.some.inj started
    exact .run fresh
  | startWriter =>
    obtain ⟨running, begun⟩ := Option.ite_none_left_eq_some.mp acted
    obtain ⟨queue, started, rfl⟩ := Option.map_eq_some_iff.mp begun
    exact .startWriter queue started running
  | startReader =>
    obtain ⟨⟨spawned, started⟩, reads⟩ := Option.ite_none_right_eq_some.mp acted
    obtain rfl := Option.some.inj reads
    exact .startReader spawned started
  | received bytes =>
    obtain ⟨⟨awaiting, sized⟩, pushed⟩ := Option.ite_none_right_eq_some.mp acted
    obtain rfl := Option.some.inj pushed
    exact .received bytes awaiting sized
  | endOfFile closes =>
    obtain ⟨awaiting, ended⟩ := Option.ite_none_right_eq_some.mp acted
    obtain rfl := Option.some.inj ended
    exact .endOfFile closes awaiting
  | readFailed closes =>
    obtain ⟨awaiting, ended⟩ := Option.ite_none_right_eq_some.mp acted
    obtain rfl := Option.some.inj ended
    exact .readFailed closes awaiting
  | dispatchNext => simp [act] at acted
  | startHandler invocation =>
    simp only [act] at acted
    split at acted
    · rename_i object found
      obtain ⟨spawned, started⟩ := Option.ite_none_right_eq_some.mp acted
      obtain rfl := Option.some.inj started
      exact .startHandler invocation object found spawned
    · simp at acted
  | handlerReturns invocation type value =>
    simp only [act] at acted
    split at acted
    · rename_i object found
      obtain ⟨⟨handling, responds⟩, returned⟩ := Option.ite_none_right_eq_some.mp acted
      obtain rfl := Option.some.inj returned
      exact .handlerReturns invocation type value object found handling responds
    · simp at acted
  | handlerThrows invocation =>
    simp only [act] at acted
    split at acted
    · rename_i object found
      obtain ⟨handling, thrown⟩ := Option.ite_none_right_eq_some.mp acted
      obtain rfl := Option.some.inj thrown
      exact .handlerThrows invocation object found handling
    · simp at acted
  | resumeEnqueue invocation =>
    obtain ⟨⟨queue, result⟩, resumed, rfl⟩ := Option.map_eq_some_iff.mp acted
    exact .resumeEnqueue invocation queue result resumed
  | abortEnqueue invocation message =>
    obtain ⟨queue, aborted, rfl⟩ := Option.map_eq_some_iff.mp acted
    exact .abortEnqueue invocation message queue aborted
  | shutdown expired =>
    obtain rfl := Option.some.inj acted
    exact .shutdown expired
  | drainTick expired aborted =>
    obtain ⟨suspended, ticked⟩ := Option.ite_none_left_eq_some.mp acted
    obtain rfl := Option.some.inj ticked
    exact .drainTick expired aborted suspended
  | resumeWriter =>
    obtain ⟨queue, resumed, rfl⟩ := Option.map_eq_some_iff.mp acted
    exact .resumeWriter queue resumed
  | writeCompleted =>
    obtain ⟨⟨queue, frame⟩, completed, rfl⟩ := Option.map_eq_some_iff.mp acted
    exact .writeCompleted queue frame completed
  | writeFailed what =>
    obtain ⟨queue, failed, rfl⟩ := Option.map_eq_some_iff.mp acted
    exact .writeFailed what queue failed

/-- There is nothing else a step does. -/
theorem step_advances {event : ServerEvent ν} {after : ServerConnection ν}
    (stepped : server.step registry codec event = some after) :
    server.Advances registry codec event after := by
  unfold step at stepped
  split at stepped
  · rename_i frame rest reading
    obtain rfl := Option.some.inj stepped
    exact .dispatches frame rest reading
  · rename_i reading
    obtain rfl := Option.some.inj stepped
    exact .leaves reading
  · obtain ⟨-, acted⟩ := Option.ite_none_right_eq_some.mp stepped
    exact .acts (server.act_acts acted)
  · exact .acts (server.act_acts stepped)

/-- A step other than the loop over frames. -/
theorem step_acts {event : ServerEvent ν} {after : ServerConnection ν}
    (stepped : server.step registry codec event = some after) (other : event ≠ .dispatchNext) :
    server.Acts registry codec event after := by
  cases server.step_advances stepped with
  | dispatches | leaves => exact absurd rfl other
  | acts acts => exact acts

end Acting

end ServerConnection

end Rillnet
