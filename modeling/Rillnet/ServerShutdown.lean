import Rillnet.ConnectionQueues
import Rillnet.ServerEndings

/-!
# Graceful shutdown of a server connection

`shutdown` polls until no handler is active and then closes the transport. A handler
is over once the queue answered its response, which the writer may not have written
yet; nothing in `shutdown` waits for the writer. Whether something finished is lost
is decided by the schedule: by how many writes the writer completes between the
moment at which the queue last took a frame and the poll that ends the wait.

The run is watched beside the connection. When the queue takes a frame, the watch
notes how far the writer is behind; from then on it counts the completed writes. It
also notes whether the queue refused a response in some step.
-/

namespace Rillnet

namespace WriteQueue

variable {queue : WriteQueue}

/-- How many of the accepted frames are not written completely. -/
def behind (queue : WriteQueue) : Nat := queue.accepted.length - queue.completed.length

/-- What is written completely was accepted before everything else: frames are written
in the order in which they were taken. -/
theorem Conserves.completed_prefix (conserves : queue.Conserves) :
    queue.completed <+: queue.accepted := by
  have written : queue.written <+: queue.accepted := by
    rw [conserves.frames, List.append_assoc]
    exact List.prefix_append _ _
  have shorter : queue.written.dropLast <+: queue.accepted :=
    (List.dropLast_prefix _).trans written
  unfold completed
  split
  · exact shorter
  · split
    · exact written
    · exact shorter
  · exact written

/-- An offer is refused exactly by a closed queue. -/
theorem offer_refused_iff (queue : WriteQueue) (producer : Nat) (frame : Frame) :
    (∃ result, (queue.offer producer frame).2 = some result ∧ result.ok = false) ↔
      queue.closed = true := by
  constructor
  · rintro ⟨result, offered, failed⟩
    exact queue.offer_refused producer frame offered failed
  · intro closed
    simp [offer, tryEnqueueFrame, canFit, closed, WriteResult.ok, WriteResult.failure]

/-- An enqueue is refused when the frame is larger than the limits or the queue closed. -/
theorem enqueue_refused_iff (queue : WriteQueue) (producer : Nat) (frame : Frame) :
    (∃ result, (queue.enqueue producer frame).2 = some result ∧ result.ok = false) ↔
      (queue.limits.maxBytes.toNat < bytesOf frame ∨ queue.limits.maxFrames = 0) ∨
        queue.closed = true := by
  unfold enqueue
  split
  · rename_i unfit
    have refused : ∃ result : WriteResult, some (WriteResult.failure .resourceLimitExceeded
        "write queue capacity exceeded") = some result ∧ result.ok = false :=
      ⟨_, rfl, rfl⟩
    exact ⟨fun _ => Or.inl unfit, fun _ => refused⟩
  · rename_i fits
    rw [queue.offer_refused_iff]
    exact ⟨Or.inr, fun unfit => unfit.resolve_left fits⟩

end WriteQueue

section Losing

variable {τ : Type} {ν : τ → Type}

/-- A lost response stays lost. -/
theorem Invocation.Goes.stays_lost {accepted : Nat} {ends : Ending → Prop} {old new : Invocation ν}
    (goes : old.Goes accepted ends new) (lost : old.lostResponse = true) :
    new.lostResponse = true := by
  obtain ⟨⟨finished, completed⟩, unanswered⟩ : (old.stage = .finished ∧
      old.operation.state = .completed) ∧ old.reply = none := by
    simpa [lostResponse] using lost
  have activated : old.operation.state ≠ .created := by simp [completed]
  have inactive : old.operation.state ≠ .active := by simp [completed]
  cases goes with
  | same => exact lost
  | cancelled =>
    rw [old.operation.cancel_eq _ activated, if_neg inactive]
    exact lost
  | lost =>
    rw [old.operation.lost_eq activated, if_neg inactive]
    exact lost
  | started argument spawned => simp [finished] at spawned
  | undecodable status message offered rejects spawned failure => simp [finished] at spawned
  | dropped silent handling => simp [finished] at handling
  | suspended handling active => simp [finished] at handling
  | refused operation refuses ready | replied operation frame replies framed ready =>
    rcases ready with ⟨handling, -⟩ | ⟨responding, -⟩
    · simp [finished] at handling
    · simp [finished] at responding

/-- A coroutine whose response the queue refuses loses it. -/
theorem Invocation.Goes.refusal_loses {accepted : Nat} {ends : Ending → Prop}
    {old new : Invocation ν} (goes : old.Goes accepted ends new)
    (only : ∀ ending, ends ending → ending = .refused) (running : old.stage ≠ .finished)
    (finished : new.stage = .finished)
    (responding : old.stage = .responding → old.operation.state = .completed)
    (unanswered : old.reply = none) : new.lostResponse = true := by
  cases goes with
  | same | cancelled | lost => exact absurd finished running
  | started argument spawned => simp at finished
  | suspended handling active => simp at finished
  | undecodable status message offered rejects => simpa using only _ rejects
  | dropped silent => simpa using only _ silent
  | replied operation frame replies => simpa using only _ replies
  | refused operation refuses ready =>
    have completed : operation.state = .completed := by
      rcases ready with ⟨-, -, rfl⟩ | ⟨responds, rfl⟩
      · rfl
      · exact responding responds
    simp [lostResponse, completed, unanswered]

end Losing

section Shutdown

variable {τ : Type} {ν : τ → Type}

/-- How many writes an event completes. -/
def ServerEvent.completedWrites : ServerEvent ν → Nat
  | .writeCompleted => 1
  | _ => 0

namespace ServerConnection

variable (server : ServerConnection ν)

/-- A call of `shutdown` leaves its loop because no handler is active. -/
def StopsWaiting (event : ServerEvent ν) : Prop :=
  server.activeHandlers = 0 ∧
    ((∃ expired, event = .shutdown expired) ∨ ∃ expired, event = .drainTick expired false)

/-- Every accepted frame was written completely, and with it the response of every
handler that completed its operation. -/
structure Delivered : Prop where
  frames : server.writeQueue.completed = server.writeQueue.accepted
  responses : ∀ (invocation : Nat) (object : Invocation ν),
    server.invocations[invocation]? = some object → object.operation.state = .completed →
    ∃ position frame, object.reply = some position ∧
      server.writeQueue.completed[position]? = some frame ∧ ReplyFrame frame object.stream

/-- Everything finished was delivered before the step, if the step leaves the transport
closed. -/
def LosesNothing (after : ServerConnection ν) : Prop :=
  after.transportOpen = false → server.Delivered

/-- Without active handlers the loop of `shutdown` is left. -/
theorem drain_idle (idle : server.activeHandlers = 0) (expired : Bool) :
    (server.drain expired).transportOpen = false ∧
      (server.drain expired).writeQueue = server.writeQueue := by
  refine ⟨?_, writeQueue_steady.drain server expired⟩
  unfold drain
  rw [if_pos (by simp [idle])]
  exact congrArg ConnectionShell.transportOpen server.finishShutdown_shell

theorem beginShutdown_kept :
    server.beginShutdown.activeHandlers = server.activeHandlers ∧
      server.beginShutdown.writeQueue = server.writeQueue := by
  unfold beginShutdown
  dsimp only
  split <;> split <;> exact ⟨rfl, rfl⟩

section Steps

variable [DecidableEq τ] (registry : MessageRegistry τ) (codec : Codec τ ν)

/-- The queue refuses a response in this event. A handler returns the response
of an active operation, and the frame is larger than the limits or the queue is closed;
or a handler that waited for space is resumed with an error, or after the queue was
closed. -/
def refusesResponse : ServerEvent ν → Bool
  | .handlerReturns invocation type value => server.invocations[invocation]?.any fun object =>
    decide (object.operation.state = .active) &&
      (object.replyFrame registry codec type value).any fun frame =>
        decide (server.writeQueue.limits.maxBytes.toNat < WriteQueue.bytesOf frame) ||
          decide (server.writeQueue.limits.maxFrames = 0) || server.writeQueue.closed
  | .resumeEnqueue invocation =>
    match server.writeQueue.producers.lookup invocation with
    | some ⟨_, .failed _⟩ => true
    | some ⟨_, .signalled⟩ => server.writeQueue.closed
    | _ => false
  | _ => false

variable {server} {registry codec} {event : ServerEvent ν} {after : ServerConnection ν}

/-- These are the events in which a coroutine ends because its response was refused. -/
theorem ending_refused_iff : (∃ invocation, server.ending registry codec event =
    some (invocation, .refused)) ↔ server.refusesResponse registry codec event = true := by
  have answered : ∀ (answer : Option WriteResult) (place : Nat) (frame : Frame),
      (∃ invocation, (answer.map fun result =>
        (place, if result.ok then Ending.replied frame else .refused)) =
          some (invocation, .refused)) ↔ ∃ result, answer = some result ∧ result.ok = false := by
    intro answer place frame
    cases answer with
    | none => simp
    | some result => cases ok : result.ok <;> simp [ok]
  cases event with
  | handlerReturns place type value =>
    cases found : server.invocations[place]? with
    | none => simp [ending, refusesResponse, found]
    | some object =>
      cases sends : object.replyFrame registry codec type value with
      | none => simp [ending, refusesResponse, found, sends]
      | some frame =>
        by_cases active : object.operation.state = .active
        · simp only [ending, refusesResponse, found, sends, Option.bind_some, if_pos active,
            Option.any_some, answered, WriteQueue.enqueue_refused_iff]
          simp [active]
        · simp [ending, refusesResponse, found, sends, active]
  | resumeEnqueue place =>
    cases found : server.writeQueue.producers.lookup place with
    | none => simp [ending, refusesResponse, WriteQueue.held, found]
    | some producer =>
      obtain ⟨frame, wake⟩ := producer
      cases wake with
      | waiting =>
        simp [ending, refusesResponse, WriteQueue.held, WriteQueue.resumeEnqueue, found]
      | signalled =>
        have closed := (server.writeQueue.leave place).offer_refused_iff place frame
        simp only [ending, refusesResponse, WriteQueue.held, WriteQueue.resumeEnqueue, found,
          Option.map_some, Option.bind_some, answered, closed]
        rfl
      | failed message =>
        simp [ending, refusesResponse, WriteQueue.held, WriteQueue.resumeEnqueue, found,
          WriteResult.ok, WriteResult.failure]
  | startHandler place =>
    simp only [ending, refusesResponse]
    cases found : server.invocations[place]? with
    | none => simp
    | some object =>
      dsimp only [Option.bind_some]
      split <;> simp
  | _ => simp [ending, refusesResponse]

/-- Responses are lost in the events in which the queue refuses one, and in no others. -/
theorem step_loses (sound : server.book.Sound)
    (early : ∀ (invocation : Nat) (object : Invocation ν),
      server.invocations[invocation]? = some object → object.Early)
    (stepped : server.step registry codec event = some after) :
    (∃ object ∈ after.invocations, object.lostResponse = true) ↔
      (∃ object ∈ server.invocations, object.lostResponse = true) ∨
        server.refusesResponse registry codec event = true := by
  have silent : ∀ (invocation : Nat) (object : Invocation ν),
      server.invocations[invocation]? = some object → object.stage ≠ .finished →
      object.reply = none := by
    intro invocation object found running
    cases replied : object.reply with
    | none => rfl
    | some position => exact absurd (sound.reply invocation object position found replied).1 running
  constructor
  · rintro ⟨new, member, lost⟩
    obtain ⟨invocation, present⟩ := List.mem_iff_getElem?.mp member
    rcases server.step_book sound event after stepped with same | change
    · have unchanged : after.invocations = server.invocations := congrArg Book.invocations same
      exact Or.inl ⟨new, unchanged ▸ member, lost⟩
    · rcases change.comes present with ⟨object, found, goes⟩ | ⟨frame, handler, -, -, -, rfl⟩
      · cases kept : object.lostResponse with
        | true => exact Or.inl ⟨object, List.mem_of_getElem? found, kept⟩
        | false =>
          have brought := goes.loses (early invocation object found) kept lost
          exact Or.inr (ending_refused_iff.mp ⟨invocation, server.brings_ends brought⟩)
      · simp [Invocation.spawn, Invocation.lostResponse] at lost
  · intro loses
    rcases loses with ⟨object, member, lost⟩ | refuses
    · obtain ⟨invocation, found⟩ := List.mem_iff_getElem?.mp member
      rcases server.step_book sound event after stepped with same | change
      · have unchanged : after.invocations = server.invocations := congrArg Book.invocations same
        exact ⟨object, unchanged ▸ member, lost⟩
      · obtain ⟨new, present, goes⟩ := change.goes found
        exact ⟨new, List.mem_of_getElem? present, goes.stays_lost lost⟩
    · obtain ⟨invocation, ended⟩ := ending_refused_iff.mpr refuses
      obtain ⟨⟨object, found, running⟩, new, present, finished⟩ :=
        server.ending_ended sound stepped ended
      rcases server.step_book sound event after stepped with same | change
      · have unchanged : after.invocations = server.invocations := congrArg Book.invocations same
        rw [unchanged, found] at present
        obtain rfl := Option.some.inj present
        exact absurd finished running
      · obtain ⟨other, here, goes⟩ := change.goes found
        obtain rfl : new = other := Option.some.inj (present.symm.trans here)
        refine ⟨new, List.mem_of_getElem? present, goes.refusal_loses ?_ running finished
          (sound.responding invocation object found) (silent invocation object found running)⟩
        intro ending brought
        have again := server.brings_ends brought
        rw [ended] at again
        exact (Prod.mk.inj (Option.some.inj again)).2.symm

/-- Only the end of a write adds to the frames that are written completely. -/
theorem step_writes (conserves : server.writeQueue.Conserves) (driven : server.writeQueue.Driven)
    (stepped : server.step registry codec event = some after) :
    after.writeQueue.completed.length =
      server.writeQueue.completed.length + event.completedWrites := by
  cases drives : event.drives with
  | false =>
    have undriven : WriteQueue.Undriven (fun _ _ => True) _ := WriteQueue.undriven_underWrite
      server.writeQueue.underWrite server.writeQueue.completed
    have kept := step_keeps undriven server ⟨conserves, rfl, rfl⟩ (fun _ _ _ => trivial) drives
      stepped
    have still : event.completedWrites = 0 := by
      cases event <;> first | rfl | simp [ServerEvent.drives] at drives
    rw [kept.2.2, still, Nat.add_zero]
  | true =>
    cases event with
    | resumeWriter =>
      cases server.step_acts stepped (by simp) with
      | resumeWriter queue resumed =>
        exact congrArg List.length (WriteQueue.resumeRun_underWrite resumed).2.1
    | writeCompleted =>
      cases server.step_acts stepped (by simp) with
      | writeCompleted queue frame completed =>
        have whole := congrArg List.length (driven.writeCompleted_underWrite completed).2.2
        rw [List.length_append, List.length_singleton] at whole
        exact whole
    | writeFailed what =>
      cases server.step_acts stepped (by simp) with
      | writeFailed _ queue failed =>
        exact congrArg List.length (WriteQueue.writeFailed_underWrite failed).2
    | _ => simp [ServerEvent.drives] at drives

/-- A call of `shutdown` that stops waiting closes the transport and leaves the
queue alone. -/
theorem stopsWaiting_closes (stops : server.StopsWaiting event)
    (stepped : server.step registry codec event = some after) :
    after.transportOpen = false ∧ after.writeQueue = server.writeQueue := by
  obtain ⟨idle, ⟨expired, rfl⟩ | ⟨expired, rfl⟩⟩ := stops
  · cases server.step_acts stepped (by simp)
    obtain ⟨handlers, queue⟩ :=
      ({ server with shutdownEntered := true } : ServerConnection ν).beginShutdown_kept
    obtain ⟨closed, kept⟩ := drain_idle _ (handlers.trans idle) expired
    exact ⟨closed, kept.trans queue⟩
  · cases server.step_acts stepped (by simp)
    exact drain_idle { server with drains := server.drains - 1 } idle expired

end Steps

end ServerConnection

/-- A server under watch: how many accepted frames were not written completely when the
queue last took one, how many writes were completed since, and whether the queue refused
a response in any step of the run. -/
structure WriterWatch (ν : τ → Type) where
  server : ServerConnection ν
  backlog : Nat := 0
  writes : Nat := 0
  refused : Bool := false

namespace WriterWatch

def create (limits : WriteQueueLimits) : WriterWatch ν where
  server := ServerConnection.create limits

section Runs

variable [DecidableEq τ] (registry : MessageRegistry τ) (codec : Codec τ ν)

/-- One step of the server, with what the watch sees of it. -/
def step (watch : WriterWatch ν) (event : ServerEvent ν) : Option (WriterWatch ν) :=
  (watch.server.step registry codec event).map fun after =>
    let taken := watch.server.writeQueue.accepted.length < after.writeQueue.accepted.length
    { server := after
      backlog := if taken then after.writeQueue.behind else watch.backlog
      writes := if taken then 0 else watch.writes + event.completedWrites
      refused := watch.refused || watch.server.refusesResponse registry codec event }

/-- The states reached in the runs of the server. -/
def Reachable (limits : WriteQueueLimits) : WriterWatch ν → Prop :=
  Reachability.Reaches (step registry codec) Reachability.unguarded (create limits)

variable {registry codec} {watch after : WriterWatch ν} {event : ServerEvent ν}
variable {limits : WriteQueueLimits}

theorem step_server (stepped : watch.step registry codec event = some after) :
    watch.server.step registry codec event = some after.server := by
  obtain ⟨server, moved, rfl⟩ := Option.map_eq_some_iff.mp stepped
  exact moved

/-- The server under watch runs like any server. -/
theorem Reachable.server (reachable : Reachable registry codec limits watch) :
    ServerConnection.Reachable registry codec Reachability.unguarded limits watch.server :=
  Reachability.Reaches.project WriterWatch.server
    (fun _ _ _ _ stepped => ⟨trivial, step_server stepped⟩) reachable

/-- What the watch knows. The writer has caught up by as much as it has written since the
queue last took a frame; and a response is lost exactly if one was refused. -/
structure Informed (watch : WriterWatch ν) : Prop where
  counted : watch.server.writeQueue.completed.length + watch.backlog =
    watch.server.writeQueue.accepted.length + watch.writes
  lost : watch.refused = true ↔
    ∃ object ∈ watch.server.invocations, object.lostResponse = true
  early : ∀ (invocation : Nat) (object : Invocation ν),
    watch.server.invocations[invocation]? = some object → object.Early

/-- Every step keeps the watch informed. -/
theorem Informed.step (informed : watch.Informed)
    (reachable : ServerConnection.Reachable registry codec Reachability.unguarded limits
      watch.server) (stepped : watch.step registry codec event = some after) : after.Informed := by
  obtain ⟨server, moved, rfl⟩ := Option.map_eq_some_iff.mp stepped
  have wired := ServerConnection.Reachable.wired reachable
  have later := ServerConnection.Reachable.wired (.next reachable trivial moved)
  constructor
  · have written := ServerConnection.step_writes wired.conserves
      (ServerConnection.Reachable.driven reachable) moved
    have bound := later.conserves.completed_prefix.length_le
    have grown : watch.server.writeQueue.accepted.length ≤ server.writeQueue.accepted.length := by
      cases watch.server.step_serves wired.sound moved with
      | dispatched _ _ _ _ _ accepted | ended _ _ _ _ _ _ _ _ _ _ _ accepted
      | proceeded _ _ _ accepted => simp [accepted]
    have counted := informed.counted
    dsimp only
    split
    · unfold WriteQueue.behind
      omega
    · omega
  · have loses := ServerConnection.step_loses wired.sound informed.early moved
    rw [loses, ← informed.lost, Bool.or_eq_true]
  · intro invocation new present
    rcases watch.server.step_book wired.sound event server moved with same | change
    · have unchanged : server.invocations = watch.server.invocations :=
        congrArg Book.invocations same
      rw [unchanged] at present
      exact informed.early invocation new present
    · rcases change.comes present with ⟨object, found, goes⟩ | ⟨frame, handler, -, -, -, rfl⟩
      · exact goes.early (informed.early invocation object found)
      · intro completed
        simp [Invocation.spawn, Operation.activate, OperationState.transition,
          OperationState.canTransition] at completed

theorem Reachable.informed (reachable : Reachable registry codec limits watch) :
    watch.Informed := by
  apply Reachability.Reaches.invariant_of_reached Informed ?_ ?_ reachable
  · exact ⟨rfl, by simp [create, ServerConnection.create], by
      simp [create, ServerConnection.create]⟩
  · intro before event after reached informed _ stepped
    exact informed.step (Reachable.server reached) stepped

/-- The writer has caught up exactly when everything accepted is written completely. -/
theorem Reachable.caught_up_iff (reachable : Reachable registry codec limits watch) :
    watch.server.writeQueue.completed = watch.server.writeQueue.accepted ↔
      watch.writes = watch.backlog := by
  have counted := reachable.informed.counted
  constructor
  · intro whole
    rw [whole] at counted
    omega
  · intro same
    have conserves := (ServerConnection.Reachable.wired reachable.server).conserves
    exact conserves.completed_prefix.eq_of_length (by omega)

variable (registry codec) in
/-- Graceful shutdown. Take any run of a server up to a step in which a call of `shutdown`
stops waiting because no handler is active. Nothing finished is lost in this step if and
only if, between the moment at which the queue last took a frame and this step, the writer
completed as many writes as it was behind at that moment, and the queue refused no response
in any step of the run. The poll closes the transport at once, whether the writer caught up
or not. -/
theorem graceful_shutdown (limits : WriteQueueLimits) (watch : WriterWatch ν)
    (reachable : Reachable registry codec limits watch) (event : ServerEvent ν)
    (stops : watch.server.StopsWaiting event) (after : ServerConnection ν)
    (stepped : watch.server.step registry codec event = some after) :
    after.transportOpen = false ∧ after.writeQueue = watch.server.writeQueue ∧
    (watch.server.LosesNothing after ↔
      watch.writes = watch.backlog ∧ watch.refused = false) := by
  have informed := reachable.informed
  have wired := ServerConnection.Reachable.wired reachable.server
  obtain ⟨closed, queue⟩ := ServerConnection.stopsWaiting_closes stops stepped
  refine ⟨closed, queue, ?_⟩
  constructor
  · intro loses
    have delivered := loses closed
    refine ⟨reachable.caught_up_iff.mp delivered.frames, ?_⟩
    by_contra refused
    obtain ⟨object, member, lost⟩ := informed.lost.mp (by simpa using refused)
    obtain ⟨invocation, found⟩ := List.mem_iff_getElem?.mp member
    obtain ⟨⟨-, completed⟩, unanswered⟩ : (object.stage = .finished ∧
        object.operation.state = .completed) ∧ object.reply = none := by
      simpa [Invocation.lostResponse] using lost
    obtain ⟨position, frame, replied, -⟩ := delivered.responses invocation object found completed
    simp [unanswered] at replied
  · rintro ⟨caughtUp, unrefused⟩ -
    have frames := reachable.caught_up_iff.mpr caughtUp
    refine ⟨frames, ?_⟩
    intro invocation object found completed
    have counted : watch.server.activeHandlers = watch.server.operations.entries.length :=
      (ServerConnection.Reachable.tallied reachable.server).counted
    have finished : object.stage = .finished := by
      by_contra running
      have vacant := counted.symm.trans stops.1
      have listed := wired.sound.listed invocation object found running
      have present := Roster.erase_length (Option.isSome_of_eq_some listed)
      change _ = watch.server.operations.entries.length at present
      omega
    have replied : object.reply ≠ none := by
      intro unanswered
      have refused := informed.lost.mpr ⟨object, List.mem_of_getElem? found, by
        simp [Invocation.lostResponse, finished, completed, unanswered]⟩
      simp [unrefused] at refused
    obtain ⟨position, reply⟩ := Option.ne_none_iff_exists'.mp replied
    obtain ⟨-, frame, taken, framed⟩ := wired.sound.reply invocation object position found reply
    rw [frames]
    exact ⟨position, frame, reply, taken, framed⟩

end Runs

end WriterWatch

end Shutdown

/-- A handler replied to its request; the writer was handed the response. -/
def responseAccepted : List (ServerEvent fun _ : Unit => UInt8) :=
  serverReads [byteRequest 1 5 .none] ++
    [.dispatchNext, .startHandler 0, .handlerReturns 0 () 9, .dispatchNext]

/-- The response is accepted and not yet written when `shutdown` finds no handler
and closes the transport. -/
theorem graceful_shutdown_fails :
    ∃ (server after : ServerConnection fun _ : Unit => UInt8),
      ServerConnection.Reachable byteRegistry byteCodec Reachability.unguarded {} server ∧
      server.StopsWaiting (.shutdown false) ∧
      server.step byteRegistry byteCodec (.shutdown false) = some after ∧
      after.transportOpen = false ∧ ¬ server.Delivered := by
  have reads : (Reachability.run (ServerConnection.step byteRegistry byteCodec)
      Reachability.unguarded (ServerConnection.create {}) responseAccepted).bind (fun server =>
        (server.step byteRegistry byteCodec (.shutdown false)).map fun after =>
          (server.activeHandlers, after.transportOpen, server.writeQueue.completed.length,
            server.writeQueue.accepted.length)) = some (0, false, 0, 1) := by
    decide +kernel
  obtain ⟨server, reached, read⟩ := Option.bind_eq_some_iff.mp reads
  obtain ⟨after, stepped, facts⟩ := Option.map_eq_some_iff.mp read
  obtain ⟨idle, closed, none, one⟩ : server.activeHandlers = 0 ∧ after.transportOpen = false ∧
      server.writeQueue.completed.length = 0 ∧ server.writeQueue.accepted.length = 1 := by
    simpa using facts
  refine ⟨server, after, Reachability.run_reaches _ _ _ _ _ reached,
    ⟨idle, Or.inl ⟨false, rfl⟩⟩, stepped, closed, ?_⟩
  intro delivered
  have same := congrArg List.length delivered.frames
  omega

/-- A `shutdown` after the response was written loses nothing. -/
theorem graceful_shutdown_written :
    ∃ watch after, Reachability.run (WriterWatch.step byteRegistry byteCodec)
        Reachability.unguarded (WriterWatch.create {})
        (responseAccepted ++ [.resumeWriter, .writeCompleted]) = some watch ∧
      watch.server.step byteRegistry byteCodec (.shutdown false) = some after ∧
      watch.backlog = 1 ∧ after.transportOpen = false ∧ watch.server.Delivered := by
  have reads : (Reachability.run (WriterWatch.step byteRegistry byteCodec)
      Reachability.unguarded (WriterWatch.create {})
        (responseAccepted ++ [.resumeWriter, .writeCompleted])).bind (fun watch =>
        (watch.server.step byteRegistry byteCodec (.shutdown false)).map fun _ =>
          (watch.server.activeHandlers, watch.backlog, watch.writes, watch.refused)) =
      some (0, 1, 1, false) := by
    decide +kernel
  obtain ⟨watch, reached, read⟩ := Option.bind_eq_some_iff.mp reads
  obtain ⟨after, stepped, facts⟩ := Option.map_eq_some_iff.mp read
  obtain ⟨idle, backlog, writes, unrefused⟩ : watch.server.activeHandlers = 0 ∧
      watch.backlog = 1 ∧ watch.writes = 1 ∧ watch.refused = false := by
    simpa only [Prod.mk.injEq] using facts
  obtain ⟨closed, -, loses⟩ := WriterWatch.graceful_shutdown byteRegistry byteCodec {} watch
    (Reachability.run_reaches _ _ _ _ _ reached) (.shutdown false) ⟨idle, Or.inl ⟨false, rfl⟩⟩
    after stepped
  exact ⟨watch, after, reached, stepped, backlog, closed,
    loses.mpr ⟨writes.trans backlog.symm, unrefused⟩ closed⟩

end Rillnet
