import Rillnet.WriteQueue
import Rillnet.Library.Reachability

/-!
# Runs of a write queue

Any number of coroutines call `enqueue` and `try_enqueue`, the queue may be closed
at any time, and one coroutine drives `run` over a transport whose writes complete
or fail. A call is named by its place among the calls made, and the results are
recorded in the order in which the calls return.

A call that returns takes its frame into the history exactly when it succeeds, so
the accepted frames are those of the successful calls in the order of their
success. That order is the order of the calls only where no call overtakes an
earlier one that is still suspended.
-/

namespace Rillnet

/-- The two ways to offer a frame. -/
inductive CallKind where
  | enqueue
  | tryEnqueue
deriving DecidableEq, Repr

/-- A call of the queue, with its frame. -/
structure QueueCall where
  kind : CallKind
  frame : Frame
deriving DecidableEq, Repr

/-- A queue with the calls made on it and the results returned so far. -/
structure QueueRun where
  queue : WriteQueue
  calls : List QueueCall := []
  returned : List (Nat × WriteResult) := []

/-- What can happen next at a write queue. -/
inductive QueueEvent where
  | enqueue (frame : Frame)
  | tryEnqueue (frame : Frame)
  | resumeEnqueue (call : Nat)
  | abortEnqueue (call : Nat) (message : String)
  | close
  | run
  | resumeRun
  | writeCompleted
  | writeFailed (what : String)
deriving DecidableEq, Repr

/-- A call is made, or a suspended one tries again. -/
def QueueEvent.offers : QueueEvent → Bool
  | .enqueue _ | .tryEnqueue _ | .resumeEnqueue _ => true
  | _ => false

namespace QueueRun

/-- A queue on which nothing was called. -/
def create (limits : WriteQueueLimits) : QueueRun where
  queue := WriteQueue.create limits

/-- A call returns its result, if it has one yet. -/
def answer (run : QueueRun) (call : Nat) (outcome : WriteQueue × Option WriteResult) : QueueRun :=
  { run with
    queue := outcome.1
    returned := run.returned ++ outcome.2.toList.map fun result => (call, result) }

/-- A new call. -/
def place (run : QueueRun) (kind : CallKind) (frame : Frame) : QueueRun :=
  { run with calls := run.calls ++ [⟨kind, frame⟩] }

/-- One call, or one step of a coroutine, recorded. -/
def step (run : QueueRun) : QueueEvent → Option QueueRun
  | .enqueue frame =>
    some ((run.place .enqueue frame).answer run.calls.length
      (run.queue.enqueue run.calls.length frame))
  | .tryEnqueue frame =>
    some ((run.place .tryEnqueue frame).answer run.calls.length
      ((run.queue.tryEnqueue frame).1, some (run.queue.tryEnqueue frame).2))
  | .resumeEnqueue call => (run.queue.resumeEnqueue call).map (run.answer call)
  | .abortEnqueue call message =>
    (run.queue.abortEnqueue call message).map fun queue => { run with queue := queue }
  | .close => some { run with queue := run.queue.close }
  | .run => run.queue.run.map fun queue => { run with queue := queue }
  | .resumeRun => run.queue.resumeRun.map fun queue => { run with queue := queue }
  | .writeCompleted => run.queue.writeCompleted.map fun outcome => { run with queue := outcome.1 }
  | .writeFailed what => (run.queue.writeFailed what).map fun queue => { run with queue := queue }

/-- The calls that succeeded, in the order of their success. -/
def admissions (run : QueueRun) : List Nat :=
  run.returned.filterMap fun entry => if entry.2.ok then some entry.1 else none

/-- The frame a call offers. -/
def frameOf (run : QueueRun) (call : Nat) : Option Frame := run.calls[call]?.map QueueCall.frame

/-- The states a queue reaches in the runs a guard allows. -/
def Reachable (guard : QueueRun → QueueEvent → Prop) (limits : WriteQueueLimits) :
    QueueRun → Prop :=
  Reachability.Reaches step guard (create limits)

/-- What a call, new or resumed, does: its frame goes into the history, it returns
a failure and leaves the queue as it was, or it is suspended with its frame. -/
inductive Outcome (before after : WriteQueue) (call : Nat) (frame : Frame) :
    Option WriteResult → Prop where
  | accepted (taken : after = (before.tryEnqueue frame).1)
      (history : after.accepted = before.accepted ++ [frame])
      (held : after.held = before.held) : Outcome before after call frame (some .success)
  | refused (result : WriteResult) (failed : result.ok = false) (same : after = before) :
      Outcome before after call frame (some result)
  | suspended (signals : Channel Unit Nat) (producers : AList fun _ : Nat => Producer)
      (same : after = { before with spaceChannel := signals, producers := producers })
      (held : after.held = Function.update before.held call (some frame)) :
      Outcome before after call frame none

variable (queue : WriteQueue)

/-- An attempt without waiting admits its frame or is refused. -/
theorem tryEnqueue_outcome (call : Nat) (frame : Frame) :
    Outcome queue (queue.tryEnqueue frame).1 call frame (some (queue.tryEnqueue frame).2) := by
  rcases queue.tryEnqueueFrame_effect frame with ⟨success, history, -, producers⟩ | ⟨failed, same⟩
  · have taken : (queue.tryEnqueue frame).2 = .success := success
    rw [taken]
    refine .accepted rfl history ?_
    funext producer
    change ((queue.tryEnqueueFrame frame).1.producers.lookup producer).map _ = _
    rw [producers]
    rfl
  · exact .refused _ failed same

/-- An attempt of `enqueue` admits its frame, is refused, or suspends its call. -/
theorem offer_outcome (call : Nat) (frame : Frame) :
    Outcome queue (queue.offer call frame).1 call frame (queue.offer call frame).2 := by
  have tried := tryEnqueue_outcome queue call frame
  unfold WriteQueue.offer
  change Outcome queue (queue.tryEnqueueFrame frame).1 call frame
    (some (queue.tryEnqueueFrame frame).2) at tried
  dsimp only
  generalize result_eq : some (queue.tryEnqueueFrame frame).2 = result at tried
  cases tried with
  | accepted taken history held =>
    rw [Option.some.inj result_eq]
    exact .accepted rfl history held
  | refused result failed same =>
    rw [Option.some.inj result_eq, failed, same]
    simp only [Bool.false_eq_true, if_false]
    split
    · exact .refused result failed rfl
    · exact .suspended _ _ rfl (queue.awaitSpace_effect call frame).2.2
  | suspended => simp at result_eq

/-- A call of `enqueue` does the same. -/
theorem enqueue_outcome (call : Nat) (frame : Frame) :
    Outcome queue (queue.enqueue call frame).1 call frame (queue.enqueue call frame).2 := by
  unfold WriteQueue.enqueue
  split
  · exact .refused _ rfl rfl
  · exact offer_outcome queue call frame

/-- A resumed call offers the frame it held, or gives it up. -/
theorem resumeEnqueue_outcome (call : Nat) (after : WriteQueue) (result : Option WriteResult)
    (resumed : queue.resumeEnqueue call = some (after, result)) :
    ∃ frame, queue.held call = some frame ∧
      Outcome (queue.leave call) after call frame result := by
  unfold WriteQueue.resumeEnqueue at resumed
  split at resumed
  · rename_i frame found
    refine ⟨frame, by simp [WriteQueue.held, found], ?_⟩
    have offered := offer_outcome (queue.leave call) call frame
    rw [Option.some.inj resumed] at offered
    exact offered
  · rename_i frame message found
    obtain ⟨rfl, rfl⟩ : queue.leave call = after ∧
        some (WriteResult.failure .resourceLimitExceeded message) = result := by
      simpa using resumed
    exact ⟨frame, by simp [WriteQueue.held, found], .refused _ rfl rfl⟩
  · simp at resumed

/-- What an attempt to enqueue keeps, and what does not depend on the suspended
calls, is kept by every call. -/
theorem Outcome.keeps {before after : WriteQueue} {call : Nat} {frame : Frame}
    {result : Option WriteResult} (outcome : Outcome before after call frame result)
    (property : WriteQueue → Prop) (same : property before)
    (tried : property (before.tryEnqueue frame).1)
    (apart : ∀ signals producers,
      property { before with spaceChannel := signals, producers := producers }) :
    property after := by
  cases outcome with
  | accepted taken history held => exact taken ▸ tried
  | refused result failed unchanged => exact unchanged ▸ same
  | suspended signals producers unchanged held => exact unchanged ▸ apart signals producers

/-- Everything an event does: a new call, a resumed one, or a step of the other
side that accepts nothing and returns nothing. -/
inductive Moves (run : QueueRun) : Bool → QueueRun → Prop where
  | called (kind : CallKind) (frame : Frame) (after : WriteQueue) (result : Option WriteResult)
      (outcome : Outcome run.queue after run.calls.length frame result)
      (waits : result = none → kind = .enqueue) :
      Moves run true ((run.place kind frame).answer run.calls.length (after, result))
  | resumed (call : Nat) (frame : Frame) (after : WriteQueue) (result : Option WriteResult)
      (holds : run.queue.held call = some frame)
      (outcome : Outcome (run.queue.leave call) after call frame result) :
      Moves run true (run.answer call (after, result))
  | driven (after : WriteQueue) (kept : WriteQueue.Kept run.queue after) :
      Moves run false { run with queue := after }

variable {run after : QueueRun} {event : QueueEvent}

/-- Every step is one of the moves. -/
theorem step_moves (stepped : run.step event = some after) :
    Moves run event.offers after := by
  cases event with
  | enqueue frame =>
    obtain rfl := Option.some.inj stepped
    exact .called .enqueue frame _ _ (enqueue_outcome _ _ _) fun _ => rfl
  | tryEnqueue frame =>
    obtain rfl := Option.some.inj stepped
    exact .called .tryEnqueue frame _ _ (tryEnqueue_outcome _ _ _) nofun
  | resumeEnqueue call =>
    obtain ⟨⟨queue, result⟩, resumed, rfl⟩ := Option.map_eq_some_iff.mp stepped
    obtain ⟨frame, holds, outcome⟩ := resumeEnqueue_outcome _ _ _ _ resumed
    exact .resumed call frame queue result holds outcome
  | abortEnqueue call message =>
    obtain ⟨queue, aborted, rfl⟩ := Option.map_eq_some_iff.mp stepped
    exact .driven queue (run.queue.abortEnqueue_kept call message queue aborted).1
  | close =>
    obtain rfl := Option.some.inj stepped
    exact .driven _ run.queue.close_kept
  | run =>
    obtain ⟨queue, started, rfl⟩ := Option.map_eq_some_iff.mp stepped
    exact .driven queue (run.queue.run_effect queue started).1
  | resumeRun =>
    obtain ⟨queue, resumed, rfl⟩ := Option.map_eq_some_iff.mp stepped
    exact .driven queue (run.queue.resumeRun_effect queue resumed).1
  | writeCompleted =>
    obtain ⟨⟨queue, frame⟩, completed, rfl⟩ := Option.map_eq_some_iff.mp stepped
    exact .driven queue (run.queue.writeCompleted_effect queue frame completed).1
  | writeFailed what =>
    obtain ⟨queue, failed, rfl⟩ := Option.map_eq_some_iff.mp stepped
    exact .driven queue (run.queue.writeFailed_effect what queue failed).1

/-- An event of a run is a step of its queue. -/
theorem step_queue (stepped : run.step event = some after) :
    WriteQueue.Step True run.queue after.queue := by
  cases event with
  | enqueue frame =>
    obtain rfl := Option.some.inj stepped
    exact .enqueued run.calls.length frame
  | tryEnqueue frame =>
    obtain rfl := Option.some.inj stepped
    exact .tried frame
  | resumeEnqueue call =>
    obtain ⟨⟨queue, result⟩, resumed, rfl⟩ := Option.map_eq_some_iff.mp stepped
    exact .resumed call queue result resumed
  | abortEnqueue call message =>
    obtain ⟨queue, aborted, rfl⟩ := Option.map_eq_some_iff.mp stepped
    exact .aborted call message queue aborted
  | close =>
    obtain rfl := Option.some.inj stepped
    exact .closed
  | run =>
    obtain ⟨queue, started, rfl⟩ := Option.map_eq_some_iff.mp stepped
    exact .started queue started
  | resumeRun =>
    obtain ⟨queue, resumed, rfl⟩ := Option.map_eq_some_iff.mp stepped
    exact .taken queue resumed
  | writeCompleted =>
    obtain ⟨⟨queue, frame⟩, completed, rfl⟩ := Option.map_eq_some_iff.mp stepped
    exact .completed queue frame completed
  | writeFailed what =>
    obtain ⟨queue, failed, rfl⟩ := Option.map_eq_some_iff.mp stepped
    exact .failed what queue trivial failed

/-- The calls, the results and the history agree. -/
structure Recorded (run : QueueRun) : Prop where
  history : run.queue.accepted.map some = run.admissions.map run.frameOf
  once : (run.returned.map Prod.fst).Nodup
  made : ∀ call ∈ run.returned.map Prod.fst, call < run.calls.length
  pending : ∀ (call : Nat) (frame : Frame), run.queue.held call = some frame →
    run.calls[call]? = some ⟨.enqueue, frame⟩ ∧ call ∉ run.returned.map Prod.fst

/-- The calls that succeeded are among those that returned, in the same order. -/
theorem admissions_sublist (run : QueueRun) :
    run.admissions.Sublist (run.returned.map Prod.fst) := by
  unfold admissions
  induction run.returned with
  | nil => exact .slnil
  | cons entry rest inductionHypothesis =>
    cases succeeded : entry.2.ok with
    | true => simpa [succeeded] using inductionHypothesis
    | false => simpa [succeeded] using inductionHypothesis.cons entry.1

/-- Only a call that returned is admitted. -/
theorem admissions_subset (run : QueueRun) {call : Nat} (admitted : call ∈ run.admissions) :
    call ∈ run.returned.map Prod.fst :=
  run.admissions_sublist.subset admitted

@[simp] theorem answer_admissions (call : Nat) (queue : WriteQueue) (result : Option WriteResult) :
    (run.answer call (queue, result)).admissions = run.admissions ++
      (result.toList.filterMap fun value => if value.ok then some call else none) := by
  simp [admissions, answer, List.filterMap_append, List.filterMap_map]

/-- A call that was made earlier keeps its frame. -/
theorem Recorded.frames_kept (recorded : run.Recorded) (call : QueueCall) :
    run.admissions.map ({ run with calls := run.calls ++ [call] } : QueueRun).frameOf =
      run.admissions.map run.frameOf := by
  apply List.map_congr_left
  intro admitted member
  have bound := recorded.made admitted (run.admissions_subset member)
  simp [frameOf, List.getElem?_append_left bound]

/-- A new call is recorded under the next number. -/
theorem Recorded.placed (recorded : run.Recorded) (kind : CallKind) (frame : Frame) :
    (run.place kind frame).Recorded where
  history := recorded.history.trans (recorded.frames_kept ⟨kind, frame⟩).symm
  once := recorded.once
  made := by
    intro call member
    have bound := recorded.made call member
    simp only [place, List.length_append, List.length_singleton]
    omega
  pending := by
    intro call held holds
    obtain ⟨called, fresh⟩ := recorded.pending call held holds
    exact ⟨(List.getElem?_append_left (List.getElem?_eq_some_iff.mp called).1).trans called, fresh⟩

/-- A new call is neither suspended nor has it returned. -/
theorem Recorded.fresh (recorded : run.Recorded) :
    run.queue.held run.calls.length = none ∧ run.calls.length ∉ run.returned.map Prod.fst := by
  constructor
  · cases holds : run.queue.held run.calls.length with
    | none => rfl
    | some frame =>
      obtain ⟨called, -⟩ := recorded.pending _ frame holds
      simp at called
  · intro member
    exact absurd (recorded.made _ member) (lt_irrefl _)

/-- A call that leaves the queue stays recorded as it was. -/
theorem Recorded.left (recorded : run.Recorded) (call : Nat) :
    ({ run with queue := run.queue.leave call } : QueueRun).Recorded where
  history := recorded.history
  once := recorded.once
  made := recorded.made
  pending := by
    intro other frame holds
    rw [WriteQueue.leave_held] at holds
    by_cases same : other = call
    · subst same
      simp at holds
    · rw [Function.update_of_ne same] at holds
      exact recorded.pending other frame holds

/-- The outcome of a call that was made, and that neither is suspended nor has
returned, is recorded. -/
theorem Recorded.answered (recorded : run.Recorded) {call : Nat} {kind : CallKind} {frame : Frame}
    {queue : WriteQueue} {result : Option WriteResult}
    (called : run.calls[call]? = some ⟨kind, frame⟩)
    (fresh : call ∉ run.returned.map Prod.fst) (free : run.queue.held call = none)
    (waits : result = none → kind = .enqueue)
    (outcome : Outcome run.queue queue call frame result) :
    (run.answer call (queue, result)).Recorded := by
  have bound : call < run.calls.length := (List.getElem?_eq_some_iff.mp called).1
  have once : ∀ value : WriteResult,
      ((run.returned ++ [(call, value)]).map Prod.fst).Nodup := by
    intro value
    rw [List.map_append]
    apply List.Nodup.append recorded.once (by simp)
    simpa using fresh
  have made : ∀ (value : WriteResult), ∀ other ∈ (run.returned ++ [(call, value)]).map Prod.fst,
      other < run.calls.length := by
    intro value other member
    rcases List.mem_append.mp (List.map_append ▸ member) with old | new
    · exact recorded.made other old
    · obtain rfl : other = call := by simpa using new
      exact bound
  have pending : ∀ (value : WriteResult) (other : Nat) (kept : Frame),
      run.queue.held other = some kept → run.calls[other]? = some ⟨.enqueue, kept⟩ ∧
        other ∉ (run.returned ++ [(call, value)]).map Prod.fst := by
    intro value other kept holds
    obtain ⟨offered, unreturned⟩ := recorded.pending other kept holds
    refine ⟨offered, ?_⟩
    rw [List.map_append, List.mem_append]
    rintro (old | new)
    · exact unreturned old
    · obtain rfl : other = call := by simpa using new
      rw [free] at holds
      simp at holds
  cases outcome with
  | accepted taken history held =>
    refine ⟨?_, once .success, made .success, ?_⟩
    · have own : run.frameOf call = some frame := by simp [frameOf, called]
      change queue.accepted.map some = (run.answer call (queue, some .success)).admissions.map
        run.frameOf
      rw [history, List.map_append, recorded.history, answer_admissions]
      simp [WriteResult.ok, WriteResult.success, own]
    · intro other kept holds
      change queue.held other = some kept at holds
      rw [held] at holds
      exact pending .success other kept holds
  | refused value failed same =>
    subst same
    refine ⟨?_, once value, made value, pending value⟩
    have unchanged : (run.answer call (run.queue, some value)).admissions = run.admissions := by
      simp [failed]
    rw [unchanged]
    exact recorded.history
  | suspended signals producers same held =>
    have unchanged : (run.answer call (queue, none)).admissions = run.admissions := by simp
    have accepted : queue.accepted = run.queue.accepted := by rw [same]
    refine ⟨?_, ?_, ?_, ?_⟩
    · rw [unchanged]
      change queue.accepted.map some = _
      rw [accepted]
      exact recorded.history
    · simpa [answer] using recorded.once
    · simpa [answer] using recorded.made
    · intro other kept holds
      change queue.held other = some kept at holds
      have same_returned : (run.answer call (queue, none)).returned = run.returned := by
        simp [answer]
      rw [same_returned]
      rw [held] at holds
      by_cases here : other = call
      · subst here
        obtain rfl : frame = kept := by simpa using holds
        exact ⟨waits rfl ▸ called, fresh⟩
      · rw [Function.update_of_ne here] at holds
        exact recorded.pending other kept holds

/-- Every move keeps the record. -/
theorem Recorded.moves (recorded : run.Recorded) {offers : Bool} (moves : Moves run offers after) :
    after.Recorded := by
  cases moves with
  | called kind frame queue result outcome waits =>
    obtain ⟨free, fresh⟩ := recorded.fresh
    exact (recorded.placed kind frame).answered (by simp [place]) fresh free waits outcome
  | resumed call frame queue result holds outcome =>
    obtain ⟨called, fresh⟩ := recorded.pending call frame holds
    have free : (run.queue.leave call).held call = none := by
      rw [WriteQueue.leave_held]
      simp
    exact (recorded.left call).answered called fresh free (fun _ => rfl) outcome
  | driven queue kept =>
    refine ⟨?_, recorded.once, recorded.made, ?_⟩
    · change queue.accepted.map some = _
      rw [kept.accepted]
      exact recorded.history
    · intro call frame holds
      change queue.held call = some frame at holds
      rw [kept.held] at holds
      exact recorded.pending call frame holds

/-- In every reachable state the record fits the queue, and the queue is in order. -/
theorem Reachable.recorded {guard : QueueRun → QueueEvent → Prop} {limits : WriteQueueLimits}
    (reachable : Reachable guard limits run) : run.Recorded ∧ run.queue.Conserves := by
  apply Reachability.Reaches.invariant (fun run => run.Recorded ∧ run.queue.Conserves) ?_ ?_ reachable
  · refine ⟨?_, WriteQueue.create_conserves limits⟩
    constructor <;> simp [create, admissions]
  · rintro before event after ⟨recorded, conserves⟩ - stepped
    exact ⟨recorded.moves (step_moves stepped), (step_queue stepped).conserves conserves⟩

end QueueRun

/-- The writer, the channel and the queue agree on whether the queue is closed,
and the writer returns only from a closed queue, without an error only from a
drained one, with an error only after it gave a frame to the transport. -/
structure WriteQueue.Driven (queue : WriteQueue) : Prop where
  shut : queue.channel.closed = queue.closed
  writing : ∀ frame, queue.writer = .writing frame → queue.written.getLast? = some frame
  ending : queue.writer = .resumed none → queue.closed = true ∧ queue.channel.buffer = []
  ended : ∀ result, queue.writer = .finished result → queue.closed = true ∧
    (result.ok = true → queue.channel.buffer = []) ∧ (result.ok = false → queue.written ≠ [])

namespace WriteQueue

/-- There is room for the frame: its bytes fit, and the channel has a waiting
writer or a free place. -/
def hasRoom (queue : WriteQueue) (frame : Frame) : Bool :=
  queue.canFit (bytesOf frame) && (queue.channel.trySend frame).isSome

variable {queue : WriteQueue}

/-- A closed queue takes nothing. -/
theorem tryEnqueue_closed (closed : queue.closed = true) (frame : Frame) :
    (queue.tryEnqueue frame).1 = queue := by
  simp [tryEnqueue, tryEnqueueFrame, canFit, closed]

/-- An offer may wake the writer. -/
theorem Driven.tryEnqueue (driven : queue.Driven) (frame : Frame) :
    (queue.tryEnqueue frame).1.Driven := by
  cases closed : queue.closed with
  | true =>
    rw [tryEnqueue_closed closed]
    exact driven
  | false =>
    simp only [WriteQueue.tryEnqueue, tryEnqueueFrame]
    split
    · exact driven
    · cases sent : queue.channel.trySend frame with
      | none => exact driven
      | some taken =>
        obtain ⟨channel, receiver⟩ := taken
        cases receiver with
        | none =>
          obtain ⟨-, -, -, -, stillOpen, -⟩ := queue.channel.trySend_buffered channel frame sent
          refine ⟨stillOpen.trans closed.symm, driven.writing, ?_, ?_⟩
          · intro resumed
            simpa [closed] using (driven.ending resumed).1
          · intro result finished
            simpa [closed] using (driven.ended result finished).1
        | some receiver =>
          obtain ⟨-, -, -, -, stillOpen, -⟩ :=
            queue.channel.trySend_handed channel frame receiver sent
          exact ⟨stillOpen.trans closed.symm, nofun, nofun, nofun⟩

/-- Closing ends the wait of the writer. -/
theorem Driven.close (driven : queue.Driven) : queue.close.Driven := by
  refine ⟨rfl, ?_, ?_, ?_⟩
  · intro frame writing
    simp only [WriteQueue.close] at writing
    split at writing
    · exact driven.writing frame writing
    · simp at writing
  · intro resumed
    refine ⟨rfl, ?_⟩
    simp only [WriteQueue.close] at resumed
    split at resumed
    · exact (driven.ending resumed).2
    · rename_i waiting
      rcases queue.channel.exclusive with none | vacant
      · simp [none] at waiting
      · exact vacant
  · intro result finished
    refine ⟨rfl, ?_⟩
    simp only [WriteQueue.close] at finished
    split at finished
    · exact (driven.ended result finished).2
    · simp at finished

/-- The writer asks for the next frame after a completed write, or for the first
one. -/
theorem Driven.receiveNext (driven : queue.Driven) : queue.receiveNext.Driven := by
  unfold WriteQueue.receiveNext
  cases asked : queue.channel.receive () with
  | mk channel reception =>
    cases reception with
    | suspended =>
      obtain ⟨-, notClosed, -, stillOpen, -⟩ := queue.channel.receive_suspended channel () asked
      exact ⟨stillOpen.trans (notClosed.symm.trans driven.shut), nofun, nofun, nofun⟩
    | message frame =>
      obtain ⟨-, -, -, closed, -⟩ := queue.channel.receive_message channel frame () asked
      exact ⟨closed.trans driven.shut, nofun, nofun, nofun⟩
    | closed =>
      obtain ⟨rfl, vacant, closed⟩ := queue.channel.receive_closed channel () asked
      exact ⟨driven.shut, nofun, fun _ => ⟨driven.shut.symm.trans closed, vacant⟩, nofun⟩

@[simp] theorem signalSpace_closed : queue.signalSpace.closed = queue.closed := by
  unfold signalSpace
  split <;> rfl

/-- A writer that is resumed writes its frame, or returns. -/
theorem Driven.resumeRun (driven : queue.Driven) {after : WriteQueue}
    (resumed : queue.resumeRun = some after) : after.Driven := by
  unfold WriteQueue.resumeRun at resumed
  split at resumed
  · rename_i stage
    obtain rfl := Option.some.inj resumed
    obtain ⟨closed, vacant⟩ := driven.ending stage
    refine ⟨driven.shut, nofun, nofun, ?_⟩
    intro result finished
    obtain rfl : WriteResult.success = result := by simpa using finished
    exact ⟨closed, fun _ => vacant, nofun⟩
  · rename_i frame stage
    obtain rfl := Option.some.inj resumed
    refine ⟨?_, ?_, nofun, nofun⟩
    · simpa using driven.shut
    · intro written writing
      simpa using writing
  · simp at resumed

/-- A write that fails is the end of the writer. -/
theorem Driven.writeFailed (driven : queue.Driven) {what : String} {after : WriteQueue}
    (failed : queue.writeFailed what = some after) : after.Driven := by
  unfold WriteQueue.writeFailed at failed
  split at failed
  · rename_i frame stage
    obtain rfl := Option.some.inj failed
    refine ⟨rfl, nofun, nofun, ?_⟩
    intro result finished
    obtain rfl : WriteResult.failure .transportError what = result := by simpa using finished
    refine ⟨rfl, nofun, ?_⟩
    intro _ none
    have given := driven.writing frame stage
    have untouched : queue.written = [] := none
    simp [untouched] at given
  · simp at failed

/-- Every step keeps the queue driven by one writer. -/
theorem Driven.step (driven : queue.Driven) {after : WriteQueue} {fails : Prop}
    (step : Step fails queue after) : after.Driven := by
  have apart : ∀ (other : WriteQueue), other.Driven → ∀ signals producers,
      WriteQueue.Driven { other with spaceChannel := signals, producers := producers } :=
    fun other kept _ _ => ⟨kept.shut, kept.writing, kept.ending, kept.ended⟩
  cases step with
  | tried frame => exact driven.tryEnqueue frame
  | enqueued producer frame =>
    exact (QueueRun.enqueue_outcome queue producer frame).keeps Driven driven
      (driven.tryEnqueue frame) (apart _ driven)
  | resumed producer after result resumed =>
    obtain ⟨frame, -, outcome⟩ := QueueRun.resumeEnqueue_outcome _ _ _ _ resumed
    have left : (queue.leave producer).Driven := apart _ driven _ _
    exact outcome.keeps Driven left (left.tryEnqueue frame) (apart _ left)
  | aborted producer message after aborted =>
    unfold abortEnqueue at aborted
    split at aborted
    · obtain rfl := Option.some.inj aborted
      exact apart _ driven _ _
    · simp at aborted
  | closed => exact driven.close
  | started after started =>
    unfold run at started
    split at started
    · obtain rfl := Option.some.inj started
      exact driven.receiveNext
    · simp at started
  | taken after resumed => exact driven.resumeRun resumed
  | completed after frame completed =>
    unfold writeCompleted at completed
    split at completed
    · obtain ⟨rfl, -⟩ : queue.receiveNext = after ∧ _ := by simpa using completed
      exact driven.receiveNext
    · simp at completed
  | failed what after may failed => exact driven.writeFailed failed

/-- So does every run. -/
theorem Driven.steps {before after : WriteQueue} (driven : before.Driven)
    {fails : Prop} (steps : Steps fails before after) : after.Driven :=
  steps.keeps (fun step kept => kept.step step) driven

/-- Once the writer has returned nothing is accepted or written any more. -/
theorem Step.finished {after : WriteQueue} {result : WriteResult} {fails : Prop}
    (step : Step fails queue after) (driven : queue.Driven) (finished : queue.writer = .finished result) :
    after.accepted = queue.accepted ∧ after.written = queue.written ∧
      after.writer = .finished result := by
  have closed := (driven.ended result finished).1
  have idle : queue.channel.waiting = [] := queue.channel.ended (driven.shut.trans closed)
  cases step with
  | tried frame =>
    rw [tryEnqueue_closed closed]
    exact ⟨rfl, rfl, finished⟩
  | enqueued producer frame =>
    refine (QueueRun.enqueue_outcome queue producer frame).keeps (fun other =>
      other.accepted = queue.accepted ∧ other.written = queue.written ∧
        other.writer = .finished result) ⟨rfl, rfl, finished⟩ ?_ fun _ _ => ⟨rfl, rfl, finished⟩
    rw [tryEnqueue_closed closed]
    exact ⟨rfl, rfl, finished⟩
  | resumed producer after answered resumed =>
    obtain ⟨frame, -, outcome⟩ := QueueRun.resumeEnqueue_outcome _ _ _ _ resumed
    refine outcome.keeps (fun other =>
      other.accepted = queue.accepted ∧ other.written = queue.written ∧
        other.writer = .finished result) ⟨rfl, rfl, finished⟩ ?_ fun _ _ => ⟨rfl, rfl, finished⟩
    have shut : (queue.leave producer).closed = true := closed
    rw [tryEnqueue_closed shut]
    exact ⟨rfl, rfl, finished⟩
  | aborted producer message after aborted =>
    unfold abortEnqueue at aborted
    split at aborted
    · obtain rfl := Option.some.inj aborted
      exact ⟨rfl, rfl, finished⟩
    · simp at aborted
  | closed =>
    refine ⟨rfl, rfl, ?_⟩
    simp [close, idle, finished]
  | started after started => simp [run, finished] at started
  | taken after resumed => simp [resumeRun, finished] at resumed
  | completed after frame completed => simp [writeCompleted, finished] at completed
  | failed what after may failed => simp [writeFailed, finished] at failed

/-- A new queue waits for its writer. -/
theorem create_driven (limits : WriteQueueLimits) : (create limits).Driven :=
  ⟨rfl, nofun, nofun, nofun⟩

end WriteQueue

namespace QueueRun

variable {run after : QueueRun} {event : QueueEvent}

/-- In every reachable state the queue is driven by one writer. -/
theorem Reachable.driven {guard : QueueRun → QueueEvent → Prop} {limits : WriteQueueLimits}
    (reachable : Reachable guard limits run) : run.queue.Driven := by
  apply Reachability.Reaches.invariant (fun run => run.queue.Driven) ?_ ?_ reachable
  · exact WriteQueue.create_driven limits
  · intro before event after driven _ stepped
    exact driven.step (step_queue stepped)

/-- A call that does not succeed, however often it tries, leaves the frames and
their bytes as they were. -/
theorem failed_call_keeps (offers : event.offers = true) (stepped : run.step event = some after)
    (failed : after.admissions = run.admissions) :
    after.queue.channel = run.queue.channel ∧ after.queue.queuedBytes = run.queue.queuedBytes ∧
      after.queue.accepted = run.queue.accepted ∧ after.queue.written = run.queue.written ∧
      after.queue.writer = run.queue.writer := by
  have unsuccessful : ∀ {base queue : WriteQueue} {call : Nat} {frame : Frame}
      {result : Option WriteResult} (other : QueueRun), other.admissions = run.admissions →
      after = other.answer call (queue, result) → Outcome base queue call frame result →
      queue.channel = base.channel ∧ queue.queuedBytes = base.queuedBytes ∧
        queue.accepted = base.accepted ∧ queue.written = base.written ∧
        queue.writer = base.writer := by
    rintro base queue call frame result other same rfl outcome
    cases outcome with
    | accepted taken history held =>
      rw [answer_admissions, same] at failed
      simp [WriteResult.ok, WriteResult.success] at failed
    | refused result refused unchanged =>
      rw [unchanged]
      exact ⟨rfl, rfl, rfl, rfl, rfl⟩
    | suspended signals producers unchanged held =>
      rw [unchanged]
      exact ⟨rfl, rfl, rfl, rfl, rfl⟩
  have moves := step_moves stepped
  rw [offers] at moves
  cases moves with
  | called kind frame queue result outcome waits =>
    have kept := unsuccessful (run.place kind frame) rfl rfl outcome
    exact kept
  | resumed call frame queue result holds outcome =>
    have kept := unsuccessful run rfl rfl outcome
    exact kept

/-- Once the writer has returned nothing is accepted or written any more. -/
theorem finished_later {result : WriteResult} (driven : run.queue.Driven)
    (finished : run.queue.writer = .finished result) {later : QueueRun}
    (reached : Reachability.Reaches step Reachability.unguarded run later) :
    later.queue.accepted = run.queue.accepted ∧ later.queue.written = run.queue.written := by
  have still : later.queue.Driven ∧ later.queue.accepted = run.queue.accepted ∧
      later.queue.written = run.queue.written ∧ later.queue.writer = .finished result := by
    induction reached with
    | start => exact ⟨driven, rfl, rfl, finished⟩
    | next _ _ stepped inductionHypothesis =>
      obtain ⟨kept, accepted, written, ended⟩ := inductionHypothesis
      obtain ⟨acceptedNext, writtenNext, endedNext⟩ := (step_queue stepped).finished kept ended
      exact ⟨kept.step (step_queue stepped), acceptedNext.trans accepted, writtenNext.trans written,
        endedNext⟩
  exact ⟨still.2.1, still.2.2.1⟩

/-- Conservation. The accepted frames are those of the calls that returned
success, each once and in the order of success; a call that fails, or is woken and
waits again, leaves the frames and bytes of the queue unchanged. The accepted
frames are those given to the transport, of which only the last can be unfinished,
then the one in the writer's hand, then the buffered ones. The writer returns
success only when every accepted frame was written, and after a failed write
exactly the frames still buffered are never written. -/
theorem conservation (limits : WriteQueueLimits) (run : QueueRun)
    (reachable : Reachable Reachability.unguarded limits run) :
    (run.queue.accepted.map some = run.admissions.map run.frameOf ∧
      (run.returned.map Prod.fst).Nodup ∧ run.admissions.Nodup) ∧
    (∀ (event : QueueEvent) (after : QueueRun), event.offers = true →
      run.step event = some after → after.admissions = run.admissions →
      after.queue.channel = run.queue.channel ∧ after.queue.queuedBytes = run.queue.queuedBytes ∧
        after.queue.accepted = run.queue.accepted ∧ after.queue.written = run.queue.written ∧
        after.queue.writer = run.queue.writer) ∧
    (run.queue.accepted = run.queue.written ++ run.queue.inHand ++ run.queue.channel.buffer ∧
      ∀ frame, run.queue.writer = .writing frame → run.queue.written.getLast? = some frame) ∧
    ∀ result, run.queue.writer = .finished result →
      (result.ok = true → run.queue.written = run.queue.accepted) ∧
      (result.ok = false → run.queue.accepted = run.queue.written ++ run.queue.channel.buffer) ∧
      ∀ later, Reachability.Reaches step Reachability.unguarded run later →
        later.queue.written = run.queue.written ∧ later.queue.accepted = run.queue.accepted := by
  obtain ⟨recorded, conserves⟩ := reachable.recorded
  have driven := reachable.driven
  have distinct : run.admissions.Nodup := recorded.once.sublist run.admissions_sublist
  refine ⟨⟨recorded.history, recorded.once, distinct⟩, ?_, ⟨conserves.frames, driven.writing⟩, ?_⟩
  · intro event after offers stepped failed
    exact failed_call_keeps offers stepped failed
  · intro result finished
    have frames := conserves.frames
    have idle : run.queue.inHand = [] := by simp [WriteQueue.inHand, finished]
    rw [idle, List.append_nil] at frames
    refine ⟨?_, fun _ => frames, ?_⟩
    · intro success
      rw [frames, (driven.ended result finished).2.1 success, List.append_nil]
    · intro later reached
      obtain ⟨accepted, written⟩ := finished_later driven finished reached
      exact ⟨written, accepted⟩

/-- A call that was made with `enqueue`. -/
def isEnqueue (run : QueueRun) (call : Nat) : Bool :=
  run.calls[call]?.any fun made => decide (made.kind = .enqueue)

/-- A call is about to be admitted while an earlier one is still suspended. -/
def overtakes (run : QueueRun) : QueueEvent → Bool
  | .enqueue frame => run.queue.hasRoom frame && !run.queue.producers.keys.isEmpty
  | .resumeEnqueue call =>
    match run.queue.producers.lookup call with
    | some ⟨frame, .signalled⟩ =>
      run.queue.hasRoom frame && run.queue.producers.keys.any fun other => decide (other < call)
    | _ => false
  | _ => false

/-- No call overtakes an earlier one that is still suspended. -/
def inOrder (run : QueueRun) (event : QueueEvent) : Prop := run.overtakes event = false

instance (run : QueueRun) (event : QueueEvent) : Decidable (run.inOrder event) :=
  inferInstanceAs (Decidable (run.overtakes event = false))

/-- Admitted `enqueue` calls are in the order of the calls, and ahead of those that
are suspended. -/
structure Ordered (run : QueueRun) : Prop where
  sorted : run.admissions.Pairwise fun first second =>
    run.isEnqueue first = true → run.isEnqueue second = true → first < second
  ahead : ∀ call ∈ run.admissions, run.isEnqueue call = true →
    ∀ other ∈ run.queue.producers.keys, call < other

/-- A call is suspended exactly while the queue holds a frame for it. -/
theorem mem_keys_iff_held (queue : WriteQueue) (call : Nat) :
    call ∈ queue.producers.keys ↔ queue.held call ≠ none := by
  rw [← AList.mem_keys, ← AList.lookup_isSome, WriteQueue.held]
  cases queue.producers.lookup call <;> simp

/-- A frame goes into the history only where there is room. -/
theorem Outcome.room {before after : WriteQueue} {call : Nat} {frame : Frame}
    {result : Option WriteResult} (outcome : Outcome before after call frame result)
    (success : result = some .success) : before.hasRoom frame = true := by
  cases outcome with
  | accepted taken history held =>
    by_contra full
    have refused : (before.tryEnqueue frame).1 = before := by
      simp only [WriteQueue.hasRoom, Bool.and_eq_true, not_and] at full
      simp only [WriteQueue.tryEnqueue, WriteQueue.tryEnqueueFrame]
      cases fits : before.canFit (WriteQueue.bytesOf frame) with
      | false => simp
      | true =>
        have none := full fits
        simp only [Bool.not_eq_true, Option.isSome_eq_false_iff, Option.isNone_iff_eq_none] at none
        simp [none]
    rw [taken, refused] at history
    simp at history
  | refused result failed same =>
    obtain rfl := Option.some.inj success
    simp [WriteResult.ok, WriteResult.success] at failed
  | suspended => simp at success

/-- The outcome of a call keeps the order where the call, once admitted, is behind
the admitted calls and ahead of the suspended ones. -/
theorem Ordered.answered (ordered : run.Ordered) {call : Nat} {frame : Frame} {queue : WriteQueue}
    {result : Option WriteResult} (outcome : Outcome run.queue queue call frame result)
    (behind : run.isEnqueue call = true → ∀ other ∈ run.admissions, run.isEnqueue other = true →
      other < call)
    (waits : result = none → run.isEnqueue call = true)
    (first : result = some .success → run.isEnqueue call = true →
      ∀ other ∈ run.queue.producers.keys, call < other) :
    (run.answer call (queue, result)).Ordered := by
  have kind : ∀ other, (run.answer call (queue, result)).isEnqueue other = run.isEnqueue other :=
    fun _ => rfl
  cases outcome with
  | accepted taken history held =>
    have admitted : (run.answer call (queue, some .success)).admissions =
        run.admissions ++ [call] := by
      simp [WriteResult.ok, WriteResult.success]
    have suspended : ∀ other ∈ queue.producers.keys, other ∈ run.queue.producers.keys := by
      intro other member
      rw [mem_keys_iff_held] at member ⊢
      exact held ▸ member
    constructor
    · rw [admitted]
      apply List.pairwise_append.mpr
      refine ⟨ordered.sorted, List.pairwise_singleton _ _, ?_⟩
      intro earlier member last sameLast enqueuedEarlier enqueued
      obtain rfl := List.mem_singleton.mp sameLast
      exact behind enqueued earlier member enqueuedEarlier
    · rw [admitted]
      intro other member enqueued later waiting
      rcases List.mem_append.mp member with old | new
      · exact ordered.ahead other old enqueued later (suspended later waiting)
      · obtain rfl := List.mem_singleton.mp new
        exact first rfl enqueued later (suspended later waiting)
  | refused result failed same =>
    subst same
    have admitted : (run.answer call (run.queue, some result)).admissions = run.admissions := by
      simp [failed]
    constructor
    · rw [admitted]
      exact ordered.sorted
    · rw [admitted]
      exact ordered.ahead
  | suspended signals producers same held =>
    have admitted : (run.answer call (queue, none)).admissions = run.admissions := by simp
    constructor
    · rw [admitted]
      exact ordered.sorted
    · rw [admitted]
      intro other member enqueued later waiting
      have waiting : later ∈ queue.producers.keys := waiting
      rw [mem_keys_iff_held, held] at waiting
      by_cases here : later = call
      · subst here
        exact behind (waits rfl) other member enqueued
      · rw [Function.update_of_ne here, ← mem_keys_iff_held] at waiting
        exact ordered.ahead other member enqueued later waiting

/-- A call stays what it is when another one begins. -/
theorem Recorded.isEnqueue_placed (recorded : run.Recorded) (kind : CallKind) (frame : Frame)
    {call : Nat} (admitted : call ∈ run.admissions) :
    (run.place kind frame).isEnqueue call = run.isEnqueue call := by
  have bound := recorded.made call (run.admissions_subset admitted)
  simp [isEnqueue, place, List.getElem?_append_left bound]

/-- A new call comes after those that were admitted. -/
theorem Ordered.placed (ordered : run.Ordered) (recorded : run.Recorded) (kind : CallKind)
    (frame : Frame) : (run.place kind frame).Ordered := by
  constructor
  · apply List.Pairwise.imp_of_mem _ ordered.sorted
    intro first second memberFirst memberSecond less
    rw [recorded.isEnqueue_placed kind frame memberFirst,
      recorded.isEnqueue_placed kind frame memberSecond]
    exact less
  · intro call member enqueued
    rw [recorded.isEnqueue_placed kind frame member] at enqueued
    exact ordered.ahead call member enqueued

/-- A step that overtakes nobody keeps the order. -/
theorem Ordered.step (ordered : run.Ordered) (recorded : run.Recorded)
    (allowed : run.inOrder event) (stepped : run.step event = some after) : after.Ordered := by
  have latest : ∀ other ∈ run.admissions, other < run.calls.length :=
    fun other member => recorded.made other (run.admissions_subset member)
  have quiet : event.offers = false → after.Ordered := by
    intro offers
    have moves := step_moves stepped
    rw [offers] at moves
    cases moves with
    | driven queue kept =>
      refine ⟨ordered.sorted, ?_⟩
      intro call member enqueued other waiting
      have waiting : other ∈ queue.producers.keys := waiting
      rw [mem_keys_iff_held, kept.held, ← mem_keys_iff_held] at waiting
      exact ordered.ahead call member enqueued other waiting
  cases event with
  | enqueue frame =>
    obtain rfl := Option.some.inj stepped
    have outcome := enqueue_outcome run.queue run.calls.length frame
    refine (ordered.placed recorded .enqueue frame).answered outcome (fun _ other member _ =>
      latest other member) (fun _ => by simp [isEnqueue, place]) ?_
    intro success _ other waiting
    have room := outcome.room success
    have empty : run.queue.producers.keys = [] := by
      simpa [inOrder, overtakes, room] using allowed
    have waiting : other ∈ run.queue.producers.keys := waiting
    rw [empty] at waiting
    exact absurd waiting List.not_mem_nil
  | tryEnqueue frame =>
    obtain rfl := Option.some.inj stepped
    refine (ordered.placed recorded .tryEnqueue frame).answered
      (tryEnqueue_outcome run.queue run.calls.length frame) ?_ nofun ?_
    · exact fun _ other member _ => latest other member
    · intro _ enqueued
      simp [isEnqueue, place] at enqueued
  | resumeEnqueue call =>
    obtain ⟨⟨queue, result⟩, resumed, rfl⟩ := Option.map_eq_some_iff.mp stepped
    obtain ⟨frame, holds, outcome⟩ := resumeEnqueue_outcome _ _ _ _ resumed
    have waits : call ∈ run.queue.producers.keys := by
      rw [mem_keys_iff_held, holds]
      simp
    have others : ∀ other ∈ (run.queue.leave call).producers.keys,
        other ∈ run.queue.producers.keys ∧ other ≠ call := by
      intro other member
      rw [mem_keys_iff_held, WriteQueue.leave_held] at member
      by_cases same : other = call
      · simp [same] at member
      · rw [Function.update_of_ne same, ← mem_keys_iff_held] at member
        exact ⟨member, same⟩
    have left : ({ run with queue := run.queue.leave call } : QueueRun).Ordered :=
      ⟨ordered.sorted, fun earlier member enqueued other waiting =>
        ordered.ahead earlier member enqueued other (others other waiting).1⟩
    refine left.answered outcome ?_ ?_ ?_
    · exact fun _ other member enqueued => ordered.ahead other member enqueued call waits
    · intro _
      have made := (recorded.pending call frame holds).1
      simp [isEnqueue, made]
    · intro success _ other waiting
      obtain ⟨suspended, different⟩ := others other waiting
      have room : run.queue.hasRoom frame = true := outcome.room success
      have signalled : run.queue.producers.lookup call = some ⟨frame, .signalled⟩ := by
        cases found : run.queue.producers.lookup call with
        | none => simp [WriteQueue.held, found] at holds
        | some suspended =>
          obtain ⟨kept, wake⟩ := suspended
          obtain rfl : kept = frame := by simpa [WriteQueue.held, found] using holds
          cases wake with
          | signalled => rfl
          | waiting => simp [WriteQueue.resumeEnqueue, found] at resumed
          | failed message =>
            obtain ⟨-, rfl⟩ : _ ∧ some (WriteResult.failure .resourceLimitExceeded message) =
                result := by
              simpa [WriteQueue.resumeEnqueue, found] using resumed
            simp [WriteResult.failure, WriteResult.success] at success
      have first : ∀ x ∈ run.queue.producers.keys, call ≤ x := by
        simpa [inOrder, overtakes, signalled, room] using allowed
      exact lt_of_le_of_ne (first other suspended) (Ne.symm different)
  | abortEnqueue | close | run | resumeRun | writeCompleted | writeFailed => exact quiet rfl

/-- In every run without overtaking the calls of `enqueue` are admitted in the order in
which they were made. -/
theorem Reachable.ordered {limits : WriteQueueLimits} (reachable : Reachable inOrder limits run) :
    run.Ordered := by
  apply Reachability.Reaches.invariant_of_reached Ordered ?_ ?_ reachable
  · constructor <;> simp [create, admissions]
  · intro before event after reached ordered allowed stepped
    have recorded := (Reachable.recorded reached).1
    exact ordered.step recorded allowed stepped

/-- Call order under backpressure. In every run in which no call is admitted while
an earlier one is still suspended, two successful `enqueue` calls have their frames
accepted, and so written, in the order of the calls. -/
theorem call_order (limits : WriteQueueLimits) (run : QueueRun)
    (reachable : Reachable inOrder limits run) (earlier later : Nat) (first second : Frame)
    (before : earlier < later) (calledFirst : run.calls[earlier]? = some ⟨.enqueue, first⟩)
    (calledSecond : run.calls[later]? = some ⟨.enqueue, second⟩)
    (admittedFirst : earlier ∈ run.admissions) (admittedSecond : later ∈ run.admissions) :
    ∃ place behind : Nat, place < behind ∧ run.admissions[place]? = some earlier ∧
      run.admissions[behind]? = some later ∧ run.queue.accepted[place]? = some first ∧
      run.queue.accepted[behind]? = some second ∧ run.queue.written <+: run.queue.accepted := by
  obtain ⟨recorded, conserves⟩ := Reachable.recorded reachable
  have sorted := reachable.ordered.sorted
  obtain ⟨place, here⟩ := List.getElem?_of_mem admittedFirst
  obtain ⟨behind, there⟩ := List.getElem?_of_mem admittedSecond
  have enqueuedFirst : run.isEnqueue earlier = true := by simp [isEnqueue, calledFirst]
  have enqueuedSecond : run.isEnqueue later = true := by simp [isEnqueue, calledSecond]
  have inFront : place < behind := by
    by_contra notBefore
    obtain ⟨boundPlace, readPlace⟩ := List.getElem?_eq_some_iff.mp here
    obtain ⟨boundBehind, readBehind⟩ := List.getElem?_eq_some_iff.mp there
    have different : behind ≠ place := by
      rintro rfl
      rw [here] at there
      exact Nat.ne_of_lt before (Option.some.inj there)
    have less : behind < place := by omega
    have wrong := List.pairwise_iff_getElem.mp sorted behind place boundBehind boundPlace less
    rw [readPlace, readBehind] at wrong
    exact absurd (wrong enqueuedSecond enqueuedFirst) (by omega)
  have accepted : ∀ (position call : Nat) (made : QueueCall), run.admissions[position]? = some call →
      run.calls[call]? = some made → run.queue.accepted[position]? = some made.frame := by
    intro position call made admitted called
    have both := congrArg (fun frames : List (Option Frame) => frames[position]?) recorded.history
    simp only [List.getElem?_map, admitted, Option.map_some, frameOf, called] at both
    obtain ⟨frame, read, same⟩ := Option.map_eq_some_iff.mp both
    rw [read, Option.some.inj same]
  exact ⟨place, behind, inFront, here, there, accepted place earlier _ here calledFirst,
    accepted behind later _ there calledSecond, conserves.written_initial⟩

/-- A frame with that many bytes of payload. -/
def sized (bytes : Nat) : Frame where
  header := { type := .request, stream := ⟨1⟩, payloadSize := UInt32.ofNat bytes }
  payload := List.replicate bytes 0

/-- Room for sixty bytes. -/
def narrow : WriteQueueLimits where
  maxBytes := 60

/-- A run in which the second call has to wait and the third fits. -/
def overtaken : Option QueueRun :=
  Reachability.run step Reachability.unguarded (create narrow)
    [.enqueue (sized 14), .enqueue (sized 14), .enqueue (sized 1), .run, .resumeRun,
      .writeCompleted, .resumeEnqueue 1, .resumeRun, .writeCompleted, .resumeRun]

/-- The third call's frame is written before the second's. -/
theorem call_order_fails :
    ∃ run, Reachable Reachability.unguarded narrow run ∧
      run.calls[1]? = some ⟨.enqueue, sized 14⟩ ∧ run.calls[2]? = some ⟨.enqueue, sized 1⟩ ∧
      run.admissions = [0, 2, 1] ∧
      run.queue.written = [sized 14, sized 1, sized 14] := by
  have reads : overtaken.map (fun run => (run.calls, run.admissions, run.queue.written)) =
      some ([⟨.enqueue, sized 14⟩, ⟨.enqueue, sized 14⟩, ⟨.enqueue, sized 1⟩], [0, 2, 1],
        [sized 14, sized 1, sized 14]) := by
    decide +kernel
  obtain ⟨run, reached, facts⟩ := Option.map_eq_some_iff.mp reads
  obtain ⟨calls, admissions, written⟩ := Prod.mk.inj facts |>.imp id Prod.mk.inj
  exact ⟨run, Reachability.run_reaches _ _ _ _ _ reached, by rw [calls]; rfl, by rw [calls]; rfl,
    admissions, written⟩

/-- A run in which the second call waits and the third is made once it was
admitted. -/
def patient : Option QueueRun :=
  Reachability.run step inOrder (create narrow)
    [.enqueue (sized 14), .enqueue (sized 14), .run, .resumeRun, .resumeEnqueue 1,
      .writeCompleted, .enqueue (sized 1), .resumeRun]

/-- There the second call's frame is ahead of the third's. -/
theorem call_order_patient :
    ∃ run, patient = some run ∧ ∃ place behind : Nat, place < behind ∧
      run.queue.accepted[place]? = some (sized 14) ∧
      run.queue.accepted[behind]? = some (sized 1) := by
  have reads : patient.map (fun run => (run.calls, run.admissions)) =
      some ([⟨.enqueue, sized 14⟩, ⟨.enqueue, sized 14⟩, ⟨.enqueue, sized 1⟩], [0, 1, 2]) := by
    decide +kernel
  obtain ⟨run, reached, facts⟩ := Option.map_eq_some_iff.mp reads
  obtain ⟨calls, admissions⟩ := Prod.mk.inj facts
  obtain ⟨place, behind, less, -, -, first, second, -⟩ := call_order narrow run
    (Reachability.run_reaches _ _ _ _ _ reached) 1 2 (sized 14) (sized 1) (by decide)
    (by rw [calls]; rfl) (by rw [calls]; rfl) (by simp [admissions]) (by simp [admissions])
  exact ⟨run, reached, place, behind, less, first, second⟩

/-- A run in which a suspended call is woken in vain by a newcomer, waits again and
gives up when a write fails. -/
def broken : Option QueueRun :=
  Reachability.run step Reachability.unguarded (create narrow)
    [.enqueue (sized 14), .enqueue (sized 30), .run, .resumeRun, .tryEnqueue (sized 14),
      .resumeEnqueue 1, .writeFailed "connection reset", .resumeEnqueue 1]

/-- The call that gave up left nothing behind, and the newcomer's frame is
discarded. -/
theorem conservation_broken :
    ∃ run, broken = some run ∧ run.admissions = [0, 2] ∧ run.queue.written = [sized 14] ∧
      run.queue.accepted = run.queue.written ++ run.queue.channel.buffer ∧
      run.queue.accepted.map some = run.admissions.map run.frameOf := by
  have reads : broken.map (fun run => (run.admissions, run.queue.written, run.queue.writer)) =
      some ([0, 2], [sized 14], .finished (.failure .transportError "connection reset")) := by
    decide +kernel
  obtain ⟨run, reached, facts⟩ := Option.map_eq_some_iff.mp reads
  obtain ⟨admissions, written, finished⟩ := Prod.mk.inj facts |>.imp id Prod.mk.inj
  obtain ⟨⟨history, -⟩, -, -, ended⟩ :=
    conservation narrow run (Reachability.run_reaches _ _ _ _ _ reached)
  exact ⟨run, reached, admissions, written, (ended _ finished).2.1 rfl, history⟩

end QueueRun

end Rillnet
