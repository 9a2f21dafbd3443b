import Rillnet.QueueSignals
import Rillnet.Library.Loop
import Rillnet.Library.Tally

/-!
# A queue that is served drains

The queue is served while its writer runs, its writes complete and its producers try again
once they can. Every such step uses up something: a frame goes on towards the transport, a
producer goes, or a signal is spent. So a queue can be served only so often, and when it
can be served no more nobody waits and nothing is left to write.
-/

namespace Rillnet

/-- How often a suspended producer can be resumed, and its frame go on, until the frame is
with the transport, beside the frame's own weight. -/
def Producer.load (weight : Frame → Nat) (producer : Producer) : Nat :=
  (if producer.wake = .signalled then 5 else 4) + weight producer.frame

/-- How often the writer can go on with what it has. -/
def Writer.load (weight : Frame → Nat) : Writer → Nat
  | .notStarted => 2
  | .receiving => 0
  | .resumed none => 1
  | .resumed (some frame) => 4 + weight frame
  | .writing _ => 2
  | .finished _ => 0

namespace WriteQueue

/-- A bound on how often the queue can be served and closed, beside the weights of the frames
it has not given to the transport. -/
def load (weight : Frame → Nat) (queue : WriteQueue) : Nat :=
  Tally.total (Producer.load weight) queue.producers +
    (queue.channel.buffer.map fun frame => 4 + weight frame).sum + queue.spaceChannel.buffer.length +
    queue.writer.load weight + (!queue.closed).toNat

section Load

variable {queue : WriteQueue} (weight : Frame → Nat)

/-- A writer that asks for the next frame has less to do than one that writes. -/
theorem receiveNext_load (queue : WriteQueue) :
    queue.receiveNext.load weight < Tally.total (Producer.load weight) queue.producers +
      (queue.channel.buffer.map fun frame => 4 + weight frame).sum +
      queue.spaceChannel.buffer.length + 2 + (!queue.closed).toNat := by
  unfold receiveNext load
  cases asked : queue.channel.receive () with
  | mk channel reception =>
    cases reception with
    | suspended =>
      obtain ⟨vacant, -, still, -⟩ := queue.channel.receive_suspended channel () asked
      simp [vacant, still, Writer.load]
    | message frame =>
      obtain ⟨buffered, -⟩ := queue.channel.receive_message channel frame () asked
      simp only [buffered, List.map_cons, List.sum_cons, Writer.load]
      omega
    | closed =>
      obtain ⟨rfl, vacant, -⟩ := queue.channel.receive_closed channel () asked
      simp [vacant, Writer.load]

/-- A signal is one more step for somebody, or for nobody. -/
theorem Steady.signalSpace_load (steady : queue.Steady) :
    queue.signalSpace.load weight ≤ queue.load weight + 1 := by
  unfold WriteQueue.signalSpace
  cases sent : queue.spaceChannel.trySend () with
  | none => exact Nat.le_succ _
  | some taken =>
    obtain ⟨channel, receiver⟩ := taken
    cases receiver with
    | none =>
      obtain ⟨-, -, -, buffered, -⟩ := queue.spaceChannel.trySend_buffered channel () sent
      simp only [load, buffered, List.length_append, List.length_singleton]
      omega
    | some call =>
      obtain ⟨-, waiting, vacant, still, -⟩ :=
        queue.spaceChannel.trySend_handed channel () call sent
      obtain ⟨frame, found⟩ := (steady.waits call).mp (by simp [waiting])
      have woken := Tally.total_replace (Producer.load weight) queue.producers found
        ⟨frame, .signalled⟩
      have produced : wakeProducer .signalled queue.producers call =
          queue.producers.insert call ⟨frame, .signalled⟩ := by
        simp [wakeProducer, found]
      simp only [load, produced, vacant, still, List.length_nil]
      simp only [Producer.load, reduceCtorEq, if_false, if_true] at woken
      omega

/-- A frame that is taken has four steps before it. -/
theorem Conserves.tryEnqueue_load (conserves : queue.Conserves) (frame : Frame) :
    (queue.tryEnqueueFrame frame).1.load weight ≤ queue.load weight + (4 + weight frame) := by
  unfold tryEnqueueFrame
  dsimp only
  split
  · exact Nat.le_add_right _ _
  · cases sent : queue.channel.trySend frame with
    | none => exact Nat.le_add_right _ _
    | some taken =>
      obtain ⟨channel, receiver⟩ := taken
      cases receiver with
      | none =>
        obtain ⟨-, -, -, buffered, -⟩ := queue.channel.trySend_buffered channel frame sent
        simp only [load, buffered, List.map_append, List.map_singleton, List.sum_append,
          List.sum_singleton, Option.isSome_none, Bool.false_eq_true, if_false]
        omega
      | some receiver =>
        obtain ⟨-, waiting, vacant, still, -⟩ :=
          queue.channel.trySend_handed channel frame receiver sent
        have idle : queue.writer = .receiving := by
          by_contra other
          have nobody := conserves.receiver
          rw [waiting, if_neg other] at nobody
          simp at nobody
        simp only [load, vacant, still, idle, Option.isSome_some, if_true, Writer.load]
        omega

/-- A producer that is suspended anew has spent a signal, if there was one. -/
theorem awaitSpace_load {producer : Nat} (frame : Frame)
    (absent : queue.producers.lookup producer = none) :
    (queue.awaitSpace producer frame).load weight ≤ queue.load weight + (4 + weight frame) := by
  have joins := Tally.total_insert (Producer.load weight) queue.producers absent
  unfold awaitSpace
  cases asked : queue.spaceChannel.receive producer with
  | mk channel reception =>
    cases reception with
    | suspended =>
      obtain ⟨vacant, -, still, -⟩ := queue.spaceChannel.receive_suspended channel producer asked
      have joined := joins ⟨frame, .waiting⟩
      simp only [load, vacant, still, List.length_nil]
      simp only [Producer.load, reduceCtorEq, if_false] at joined
      omega
    | message signal =>
      obtain ⟨buffered, -⟩ := queue.spaceChannel.receive_message channel signal producer asked
      have joined := joins ⟨frame, .signalled⟩
      simp only [load, buffered, List.length_cons]
      simp only [Producer.load, if_true] at joined
      omega
    | closed =>
      obtain ⟨rfl, -, -⟩ := queue.spaceChannel.receive_closed channel producer asked
      have joined := joins ⟨frame, .failed "Channel closed"⟩
      simp only [load]
      simp only [Producer.load, reduceCtorEq, if_false] at joined
      omega

theorem Conserves.offer_load (conserves : queue.Conserves) {producer : Nat} (frame : Frame)
    (absent : queue.producers.lookup producer = none) :
    (queue.offer producer frame).1.load weight ≤ queue.load weight + (4 + weight frame) := by
  unfold offer
  dsimp only
  split
  · exact conserves.tryEnqueue_load weight frame
  · split
    · exact conserves.tryEnqueue_load weight frame
    · rename_i failed _
      rcases queue.tryEnqueueFrame_effect frame with ⟨success, -⟩ | ⟨-, same⟩
      · simp [success, WriteResult.ok, WriteResult.success] at failed
      · rw [same]
        exact awaitSpace_load weight frame absent

/-- A producer that is resumed goes, its frame goes on, or its signal is spent. -/
theorem Conserves.resumeEnqueue_load (conserves : queue.Conserves) {producer : Nat}
    {after : WriteQueue} {result : Option WriteResult}
    (resumed : queue.resumeEnqueue producer = some (after, result)) :
    after.load weight < queue.load weight := by
  have gone : ∀ {suspended : Producer}, queue.producers.lookup producer = some suspended →
      (queue.leave producer).load weight + suspended.load weight = queue.load weight := by
    intro suspended found
    have erased := Tally.total_erase (Producer.load weight) queue.producers found
    simp only [load, leave]
    omega
  unfold resumeEnqueue at resumed
  split at resumed
  · rename_i frame found
    have same : ((queue.leave producer).offer producer frame).1 = after :=
      congrArg Prod.fst (Option.some.inj resumed)
    have left := gone found
    have absent : (queue.leave producer).producers.lookup producer = none := by simp [leave]
    have offered := (queue.leave_conserves producer conserves).offer_load weight frame absent
    rw [same] at offered
    simp only [Producer.load, if_true] at left
    omega
  · rename_i frame message found
    obtain ⟨rfl, -⟩ := Prod.mk.inj (Option.some.inj resumed)
    have left := gone found
    simp only [Producer.load, reduceCtorEq, if_false] at left
    omega
  · simp at resumed

theorem run_load {after : WriteQueue} (started : queue.run = some after) :
    after.load weight < queue.load weight := by
  unfold run at started
  split at started
  · rename_i stage
    obtain rfl := Option.some.inj started
    have less := queue.receiveNext_load weight
    simp only [load, stage, Writer.load] at less ⊢
    exact less
  · simp at started

theorem writeCompleted_load {after : WriteQueue} {frame : Frame}
    (completed : queue.writeCompleted = some (after, frame)) :
    after.load weight < queue.load weight := by
  unfold writeCompleted at completed
  split at completed
  · rename_i stage
    obtain ⟨rfl, -⟩ := Prod.mk.inj (Option.some.inj completed)
    have less := queue.receiveNext_load weight
    simp only [load, stage, Writer.load] at less ⊢
    exact less
  · simp at completed

/-- A frame that goes to the transport takes its weight with it. -/
theorem Steady.resumeRun_load (steady : queue.Steady) {after : WriteQueue}
    (resumed : queue.resumeRun = some after) :
    after.load weight + (queue.inHand.map weight).sum < queue.load weight := by
  cases stage : queue.writer with
  | resumed hand =>
    cases hand with
    | none =>
      simp only [WriteQueue.resumeRun, stage, Option.some.injEq] at resumed
      subst resumed
      simp [load, stage, Writer.load, inHand]
    | some frame =>
      rw [resumeRun_signals stage resumed]
      have signalled := (steady.taken stage).signalSpace_load weight
      simp only [load, stage, Writer.load, inHand, List.map_singleton, List.sum_singleton] at *
      omega
  | notStarted | receiving | writing | finished =>
    simp [WriteQueue.resumeRun, stage] at resumed

/-- A producer that is woken with a failure has no more to do than before. -/
theorem wakeProducer_load (message : String) (producers : AList fun _ : Nat => Producer)
    (call : Nat) :
    Tally.total (Producer.load weight) (wakeProducer (.failed message) producers call) ≤
      Tally.total (Producer.load weight) producers := by
  unfold wakeProducer
  split
  · rename_i suspended found
    have woken := Tally.total_replace (Producer.load weight) producers found
      { suspended with wake := .failed message }
    simp only [Producer.load, reduceCtorEq, if_false] at woken
    split at woken <;> omega
  · exact Nat.le_refl _

theorem wakeProducers_load (message : String) (calls : List Nat)
    (producers : AList fun _ : Nat => Producer) :
    Tally.total (Producer.load weight) (calls.foldl (wakeProducer (.failed message)) producers) ≤
      Tally.total (Producer.load weight) producers := by
  induction calls generalizing producers with
  | nil => exact Nat.le_refl _
  | cons call rest inductionHypothesis =>
    exact (inductionHypothesis _).trans (wakeProducer_load weight message producers call)

/-- Closing takes nothing more than the writer's last step, which only an open queue owes. -/
theorem Conserves.close_load (conserves : queue.Conserves) (driven : queue.Driven) :
    queue.close.load weight ≤ queue.load weight := by
  have woken := wakeProducers_load weight "Channel closed" queue.spaceChannel.waiting queue.producers
  by_cases waits : queue.channel.waiting = []
  · simp only [load, close, Channel.close, waits, List.isEmpty_nil, if_true, Bool.not_true,
      Bool.toNat_false]
    omega
  · have idle : queue.writer = .receiving := by
      by_contra other
      exact waits (conserves.receiver.trans (if_neg other))
    have isOpen : queue.closed = false := by
      by_contra closed
      exact waits (queue.channel.ended (driven.shut.trans (by simpa using closed)))
    have resumed : queue.channel.waiting.isEmpty = false := by simpa using waits
    simp only [load, close, Channel.close, resumed, idle, isOpen, Bool.false_eq_true, if_false,
      Writer.load, Bool.not_true, Bool.not_false, Bool.toNat_false, Bool.toNat_true]
    omega

end Load

/-- The signal channel is closed with the queue. -/
def Sealed (queue : WriteQueue) : Prop := queue.spaceChannel.closed = queue.closed

section Idle

variable {queue : WriteQueue}

theorem awaitSpace_sealed (sealed : queue.Sealed) (producer : Nat) (frame : Frame) :
    (queue.awaitSpace producer frame).Sealed := by
  unfold awaitSpace
  cases asked : queue.spaceChannel.receive producer with
  | mk channel reception =>
    cases reception with
    | suspended =>
      obtain ⟨-, closed, -, still, -⟩ := queue.spaceChannel.receive_suspended channel producer asked
      exact (still.trans closed.symm).trans sealed
    | message signal =>
      have same := (queue.spaceChannel.receive_message channel signal producer asked).2.2.2.1
      exact same.trans sealed
    | closed =>
      obtain ⟨rfl, -, -⟩ := queue.spaceChannel.receive_closed channel producer asked
      exact sealed

theorem tryEnqueue_sealed (sealed : queue.Sealed) (frame : Frame) :
    (queue.tryEnqueueFrame frame).1.Sealed := by
  unfold tryEnqueueFrame
  dsimp only
  split
  · exact sealed
  · split
    · exact sealed
    · exact sealed

theorem offer_sealed (sealed : queue.Sealed) (producer : Nat) (frame : Frame) :
    (queue.offer producer frame).1.Sealed := by
  have tried := tryEnqueue_sealed sealed frame
  unfold offer
  dsimp only
  split
  · exact tried
  · split
    · exact tried
    · exact awaitSpace_sealed tried producer frame

theorem signalSpace_sealed (sealed : queue.Sealed) : queue.signalSpace.Sealed := by
  unfold signalSpace
  cases sent : queue.spaceChannel.trySend () with
  | none => exact sealed
  | some taken =>
    obtain ⟨channel, receiver⟩ := taken
    cases receiver with
    | none =>
      obtain ⟨closed, -, -, -, still, -⟩ := queue.spaceChannel.trySend_buffered channel () sent
      exact (still.trans closed.symm).trans sealed
    | some call =>
      obtain ⟨closed, -, -, -, still, -⟩ := queue.spaceChannel.trySend_handed channel () call sent
      exact (still.trans closed.symm).trans sealed

theorem Sealed.step (sealed : queue.Sealed) {fails : Prop} {after : WriteQueue}
    (step : Step fails queue after) : after.Sealed := by
  cases step with
  | tried frame => exact tryEnqueue_sealed sealed frame
  | enqueued producer frame =>
    unfold enqueue
    split
    · exact sealed
    · exact offer_sealed sealed producer frame
  | resumed producer after result resumed =>
    unfold resumeEnqueue at resumed
    split at resumed
    · rename_i frame _
      obtain ⟨rfl, -⟩ := Prod.mk.inj (Option.some.inj resumed)
      have left : (queue.leave producer).Sealed := sealed
      exact offer_sealed left producer frame
    · obtain ⟨rfl, -⟩ := Prod.mk.inj (Option.some.inj resumed)
      exact sealed
    · simp at resumed
  | aborted producer message after aborted =>
    unfold abortEnqueue at aborted
    split at aborted
    · obtain rfl := Option.some.inj aborted
      exact sealed
    · simp at aborted
  | closed => rfl
  | started after started =>
    unfold WriteQueue.run at started
    split at started
    · obtain rfl := Option.some.inj started
      exact sealed
    · simp at started
  | taken after resumed =>
    cases stage : queue.writer with
    | resumed hand =>
      cases hand with
      | none =>
        simp only [resumeRun, stage, Option.some.injEq] at resumed
        subst resumed
        exact sealed
      | some frame =>
        rw [resumeRun_signals stage resumed]
        exact signalSpace_sealed sealed
    | notStarted | receiving | writing | finished => simp [resumeRun, stage] at resumed
  | completed after frame completed =>
    unfold writeCompleted at completed
    split at completed
    · obtain ⟨rfl, -⟩ := Prod.mk.inj (Option.some.inj completed)
      exact sealed
    · simp at completed
  | failed what after may failed =>
    unfold writeFailed at failed
    split at failed
    · obtain rfl := Option.some.inj failed
      rfl
    · simp at failed

/-- At an open queue an offer succeeds, or the producer is suspended and will try again. -/
theorem offer_open (queue : WriteQueue) (producer : Nat) (frame : Frame) (sealed : queue.Sealed)
    (notClosed : queue.closed = false) :
    (∃ after, queue.offer producer frame = (after, some .success) ∧ after.closed = false ∧
      after.producers = queue.producers) ∨
    ∃ after wake, queue.offer producer frame = (after, none) ∧ after.closed = false ∧
      after.producers = queue.producers.insert producer ⟨frame, wake⟩ ∧
      ∀ message, wake ≠ .failed message := by
  have tried : (queue.tryEnqueueFrame frame).1.closed = queue.closed := by
    unfold tryEnqueueFrame
    dsimp only
    split
    · rfl
    · split <;> rfl
  unfold offer
  dsimp only
  rcases queue.tryEnqueueFrame_effect frame with ⟨success, -, -, producers⟩ | ⟨failed, same⟩
  · left
    refine ⟨(queue.tryEnqueueFrame frame).1, ?_, tried.trans notClosed, producers⟩
    simp [success, WriteResult.ok, WriteResult.success]
  · right
    simp only [failed, Bool.false_eq_true, if_false, same, notClosed]
    unfold awaitSpace
    cases asked : queue.spaceChannel.receive producer with
    | mk channel reception =>
      cases reception with
      | suspended => exact ⟨_, .waiting, rfl, notClosed, rfl, fun _ => by simp⟩
      | message signal => exact ⟨_, .signalled, rfl, notClosed, rfl, fun _ => by simp⟩
      | closed =>
        have ended := (queue.spaceChannel.receive_closed channel producer asked).2.2
        rw [sealed, notClosed] at ended
        simp at ended

/-- A signal spoils no producer. -/
theorem signalSpace_keeps {producer : Nat} {suspended : Producer}
    (found : queue.producers.lookup producer = some suspended)
    (well : ∀ message, suspended.wake ≠ .failed message) :
    ∃ after, queue.signalSpace.producers.lookup producer = some after ∧
      ∀ message, after.wake ≠ .failed message := by
  unfold signalSpace
  split
  · exact ⟨suspended, found, well⟩
  · exact ⟨suspended, found, well⟩
  · rename_i call _
    rw [wakeProducer_lookup]
    split
    · rename_i same
      subst same
      exact ⟨{ suspended with wake := .signalled }, by simp [found], fun _ => by simp⟩
    · exact ⟨suspended, found, well⟩

/-- Nothing of the queue can go on by itself. -/
structure Idle (queue : WriteQueue) : Prop where
  started : queue.run = none
  resumed : queue.resumeRun = none
  completed : queue.writeCompleted = none
  resumes : ∀ producer, queue.resumeEnqueue producer = none

/-- The writer of an idle queue waits for a frame, or has returned. -/
theorem Idle.writer (idle : queue.Idle) :
    queue.writer = .receiving ∨ ∃ result, queue.writer = .finished result := by
  cases stage : queue.writer with
  | notStarted => simpa [WriteQueue.run, stage] using idle.started
  | receiving => exact Or.inl rfl
  | resumed hand => cases hand <;> simpa [WriteQueue.resumeRun, stage] using idle.resumed
  | writing frame => simpa [WriteQueue.writeCompleted, stage] using idle.completed
  | finished result => exact Or.inr ⟨result, rfl⟩

/-- The producers of an idle queue wait. -/
theorem Idle.waits (idle : queue.Idle) {producer : Nat} {suspended : Producer}
    (found : queue.producers.lookup producer = some suspended) : suspended.wake = .waiting := by
  have stays := idle.resumes producer
  unfold resumeEnqueue at stays
  obtain ⟨frame, wake⟩ := suspended
  cases wake with
  | waiting => rfl
  | signalled => simp [found] at stays
  | failed message => simp [found] at stays

theorem Conserves.receiving_vacant (conserves : queue.Conserves) (receiving : queue.writer = .receiving) :
    queue.channel.buffer = [] := by
  have waiting := conserves.receiver
  rw [if_pos receiving] at waiting
  rcases queue.channel.exclusive with nobody | vacant
  · simp [nobody] at waiting
  · exact vacant

/-- All frames of an idle queue were given to the transport, unless the writer failed. -/
theorem Idle.written (idle : queue.Idle) (conserves : queue.Conserves) (driven : queue.Driven) :
    queue.written = queue.accepted ∨ ∃ result, queue.writer = .finished result ∧ result.ok = false := by
  have drained : queue.inHand = [] → queue.channel.buffer = [] → queue.written = queue.accepted := by
    intro empty vacant
    rw [conserves.frames, empty, vacant, List.append_nil, List.append_nil]
  rcases idle.writer with receiving | ⟨result, finished⟩
  · left
    exact drained (by simp [inHand, receiving]) (conserves.receiving_vacant receiving)
  · cases ok : result.ok with
    | true =>
      exact Or.inl (drained (by simp [inHand, finished]) ((driven.ended result finished).2.1 ok))
    | false => exact Or.inr ⟨result, finished, ok⟩

/-- Nobody waits at an idle queue. -/
theorem Idle.alone (idle : queue.Idle) (conserves : queue.Conserves) (driven : queue.Driven)
    (steady : queue.Steady) (awake : queue.Awake) (sealed : queue.Sealed) (producer : Nat) :
    queue.producers.lookup producer = none := by
  cases found : queue.producers.lookup producer with
  | none => rfl
  | some suspended =>
    obtain ⟨frame, wake⟩ := suspended
    obtain rfl : wake = .waiting := idle.waits found
    cases closed : queue.closed with
    | true =>
      have listed := (steady.waits producer).mpr ⟨frame, found⟩
      rw [queue.spaceChannel.ended (sealed.trans closed)] at listed
      simp at listed
    | false =>
      rcases awake closed producer frame found with bytes | ⟨other, kept, signalled⟩
      · have receiving : queue.writer = .receiving := by
          rcases idle.writer with receiving | ⟨result, finished⟩
          · exact receiving
          · simp [(driven.ended result finished).1] at closed
        have vacant := conserves.receiving_vacant receiving
        have sum := steady.bytes
        simp only [inHand, receiving, vacant, List.append_nil, List.map_nil, List.sum_nil] at sum
        omega
      · simpa using idle.waits signalled

end Idle

end WriteQueue

/-- The writer goes on, or a producer that can try again does. -/
def QueueEvent.serves : QueueEvent → Bool
  | .run | .resumeRun | .writeCompleted | .resumeEnqueue _ => true
  | _ => false

namespace QueueRun

/-- The queue is served once. -/
def Serves (before after : QueueRun) : Prop :=
  ∃ event, QueueEvent.serves event = true ∧ before.step event = some after

/-- Every call has returned or is suspended. -/
def Open (run : QueueRun) : Prop :=
  ∀ call < run.calls.length, call ∈ run.returned.map Prod.fst ∨ (run.queue.held call).isSome

section Runs

variable {run after : QueueRun} {event : QueueEvent}

/-- An outcome is a result or a suspension. -/
theorem Outcome.settles {before queue : WriteQueue} {call : Nat} {frame : Frame}
    {result : Option WriteResult} (outcome : Outcome before queue call frame result) :
    (result.isSome ∧ queue.held = before.held) ∨
      queue.held = Function.update before.held call (some frame) := by
  cases outcome with
  | accepted taken history held => exact Or.inl ⟨rfl, held⟩
  | refused result failed same => exact Or.inl ⟨rfl, congrArg _ same⟩
  | suspended signals producers same held => exact Or.inr held

/-- A call that was placed is answered or suspended. -/
theorem Open.answered (run : QueueRun) {call : Nat} {frame : Frame} {queue : WriteQueue}
    {result : Option WriteResult}
    (others : ∀ other < run.calls.length, other ≠ call →
      other ∈ run.returned.map Prod.fst ∨ (run.queue.held other).isSome)
    (outcome : Outcome run.queue queue call frame result) : (run.answer call (queue, result)).Open := by
  intro other bound
  rcases outcome.settles with ⟨settled, held⟩ | held
  · by_cases same : other = call
    · subst same
      obtain ⟨value, rfl⟩ := Option.isSome_iff_exists.mp settled
      simp [answer]
    · rcases others other bound same with returned | holds
      · left
        simp only [answer, List.map_append, List.mem_append]
        exact Or.inl returned
      · right
        change (queue.held other).isSome
        rw [held]
        exact holds
  · by_cases same : other = call
    · right
      change (queue.held other).isSome
      rw [held, same, Function.update_self]
      rfl
    · rcases others other bound same with returned | holds
      · left
        simp only [answer, List.map_append, List.mem_append]
        exact Or.inl returned
      · right
        change (queue.held other).isSome
        rw [held, Function.update_of_ne same]
        exact holds

theorem Open.moves (open_ : run.Open) {offers : Bool} (moves : Moves run offers after) : after.Open := by
  cases moves with
  | called kind frame queue result outcome waits =>
    refine Open.answered _ ?_ outcome
    intro other bound different
    refine open_ other ?_
    simp only [place, List.length_append, List.length_singleton] at bound
    omega
  | resumed call frame queue result holds outcome =>
    refine Open.answered { run with queue := run.queue.leave call } ?_ outcome
    intro other bound different
    rcases open_ other bound with returned | held
    · exact Or.inl returned
    · right
      rw [WriteQueue.leave_held, Function.update_of_ne different]
      exact held
  | driven queue kept =>
    intro other bound
    change other ∈ run.returned.map Prod.fst ∨ (queue.held other).isSome
    rw [kept.held]
    exact open_ other bound

variable {limits : WriteQueueLimits}

theorem Reachable.open_ {guard : QueueRun → QueueEvent → Prop} (reachable : Reachable guard limits run) :
    run.Open ∧ run.queue.Sealed := by
  apply Reachability.Reaches.invariant (fun run => run.Open ∧ run.queue.Sealed) ?_ ?_ reachable
  · exact ⟨nofun, rfl⟩
  · rintro before event after ⟨open_, sealed⟩ - stepped
    exact ⟨open_.moves (step_moves stepped), sealed.step (step_queue stepped)⟩

theorem Serves.reachable (serves : run.Serves after)
    (reachable : Reachable Reachability.unguarded limits run) :
    Reachable Reachability.unguarded limits after := by
  obtain ⟨event, -, stepped⟩ := serves
  exact .next reachable trivial stepped

/-- Whenever the queue is served, less remains. -/
theorem Serves.remaining (serves : run.Serves after)
    (reachable : Reachable Reachability.unguarded limits run) :
    (after.queue.load fun _ => 0) < run.queue.load fun _ => 0 := by
  have conserves := reachable.recorded.2
  obtain ⟨event, serving, stepped⟩ := serves
  cases event with
  | run =>
    obtain ⟨queue, started, rfl⟩ := Option.map_eq_some_iff.mp stepped
    exact WriteQueue.run_load _ started
  | resumeRun =>
    obtain ⟨queue, resumed, rfl⟩ := Option.map_eq_some_iff.mp stepped
    have less := reachable.steady.1.resumeRun_load (fun _ => 0) resumed
    exact Nat.lt_of_le_of_lt (Nat.le_add_right _ _) less
  | writeCompleted =>
    obtain ⟨⟨queue, frame⟩, completed, rfl⟩ := Option.map_eq_some_iff.mp stepped
    exact WriteQueue.writeCompleted_load _ completed
  | resumeEnqueue call =>
    obtain ⟨⟨queue, result⟩, resumed, rfl⟩ := Option.map_eq_some_iff.mp stepped
    exact conserves.resumeEnqueue_load _ resumed
  | enqueue | tryEnqueue | abortEnqueue | close | writeFailed => simp [QueueEvent.serves] at serving

/-- A queue that cannot be served is idle. -/
theorem idle_of_over (ended : Loop.Over Serves run) : run.queue.Idle := by
  have stuck : ∀ event, QueueEvent.serves event = true → run.step event = none := by
    intro event serving
    cases stepped : run.step event with
    | none => rfl
    | some next => exact absurd ⟨event, serving, stepped⟩ (ended next)
  constructor
  · exact Option.map_eq_none_iff.mp (stuck .run rfl)
  · exact Option.map_eq_none_iff.mp (stuck .resumeRun rfl)
  · exact Option.map_eq_none_iff.mp (stuck .writeCompleted rfl)
  · exact fun producer => Option.map_eq_none_iff.mp (stuck (.resumeEnqueue producer) rfl)

/-- The queue is open, and these calls have succeeded or are still to try again. -/
structure Granting (calls : Nat → Prop) (run : QueueRun) : Prop where
  notClosed : run.queue.closed = false
  granted : ∀ call, calls call → (call, .success) ∈ run.returned ∨
    ∃ suspended, run.queue.producers.lookup call = some suspended ∧
      ∀ message, suspended.wake ≠ .failed message

/-- A change of the writer grants as much as before. -/
theorem Granting.driven {calls : Nat → Prop} (granting : run.Granting calls) {queue : WriteQueue}
    (notClosed : queue.closed = run.queue.closed)
    (producers : queue.producers = run.queue.producers) :
    ({ run with queue := queue } : QueueRun).Granting calls where
  notClosed := notClosed.trans granting.notClosed
  granted := by
    intro call among
    rw [producers]
    exact granting.granted call among

/-- Calls other than the one that tried again are left as they are. -/
theorem Granting.tried {calls : Nat → Prop} (granting : run.Granting calls) (sealed : run.queue.Sealed)
    {call : Nat} {suspended : Producer} (found : run.queue.producers.lookup call = some suspended) :
    (run.answer call ((run.queue.leave call).offer call suspended.frame)).Granting calls := by
  have notClosed : (run.queue.leave call).closed = false := granting.notClosed
  have kept : ∀ other, calls other → other ≠ call → (other, .success) ∈ run.returned ∨
      ∃ suspended, (run.queue.leave call).producers.lookup other = some suspended ∧
        ∀ message, suspended.wake ≠ .failed message := by
    intro other among different
    rcases granting.granted other among with returned | ⟨waiting, listed, well⟩
    · exact Or.inl returned
    · refine Or.inr ⟨waiting, ?_, well⟩
      rw [WriteQueue.leave, AList.lookup_erase_ne different]
      exact listed
  rcases (run.queue.leave call).offer_open call suspended.frame sealed notClosed with
    ⟨queue, offered, still, producers⟩ | ⟨queue, wake, offered, still, producers, well⟩
  · rw [offered]
    refine ⟨still, ?_⟩
    intro other among
    by_cases same : other = call
    · subst same
      exact Or.inl (by simp [answer])
    · rcases kept other among same with returned | waiting
      · exact Or.inl (List.mem_append_left _ returned)
      · exact Or.inr (producers ▸ waiting)
  · rw [offered]
    refine ⟨still, ?_⟩
    intro other among
    by_cases same : other = call
    · subst same
      refine Or.inr ⟨⟨suspended.frame, wake⟩, ?_, well⟩
      change queue.producers.lookup other = _
      rw [producers, AList.lookup_insert]
    · rcases kept other among same with returned | ⟨waiting, listed, fine⟩
      · exact Or.inl (List.mem_append_left _ returned)
      · refine Or.inr ⟨waiting, ?_, fine⟩
        change queue.producers.lookup other = _
        rw [producers, AList.lookup_insert_ne same]
        exact listed

theorem Granting.serves {calls : Nat → Prop} (granting : run.Granting calls)
    (sealed : run.queue.Sealed) (serves : run.Serves after) : after.Granting calls := by
  obtain ⟨event, serving, stepped⟩ := serves
  cases event with
  | run =>
    obtain ⟨queue, started, rfl⟩ := Option.map_eq_some_iff.mp stepped
    unfold WriteQueue.run at started
    split at started
    · obtain rfl := Option.some.inj started
      exact granting.driven rfl rfl
    · simp at started
  | resumeRun =>
    obtain ⟨queue, resumed, rfl⟩ := Option.map_eq_some_iff.mp stepped
    cases stage : run.queue.writer with
    | resumed hand =>
      cases hand with
      | none =>
        simp only [WriteQueue.resumeRun, stage, Option.some.injEq] at resumed
        subst resumed
        exact granting.driven rfl rfl
      | some frame =>
        rw [WriteQueue.resumeRun_signals stage resumed]
        refine ⟨(WriteQueue.signalSpace_closed).trans granting.notClosed, ?_⟩
        intro call among
        rcases granting.granted call among with returned | ⟨waiting, listed, fine⟩
        · exact Or.inl returned
        · exact Or.inr (WriteQueue.signalSpace_keeps listed fine)
    | notStarted | receiving | writing | finished =>
      simp [WriteQueue.resumeRun, stage] at resumed
  | writeCompleted =>
    obtain ⟨⟨queue, frame⟩, completed, rfl⟩ := Option.map_eq_some_iff.mp stepped
    unfold WriteQueue.writeCompleted at completed
    split at completed
    · obtain ⟨rfl, -⟩ := Prod.mk.inj (Option.some.inj completed)
      exact granting.driven rfl rfl
    · simp at completed
  | resumeEnqueue call =>
    obtain ⟨⟨queue, result⟩, resumed, rfl⟩ := Option.map_eq_some_iff.mp stepped
    unfold WriteQueue.resumeEnqueue at resumed
    split at resumed
    · rename_i frame found
      rw [← Option.some.inj resumed]
      exact granting.tried sealed found
    · rename_i frame message found
      obtain ⟨rfl, rfl⟩ := Prod.mk.inj (Option.some.inj resumed)
      refine ⟨granting.notClosed, ?_⟩
      intro other among
      rcases granting.granted other among with returned | ⟨waiting, listed, fine⟩
      · exact Or.inl (List.mem_append_left _ returned)
      · have different : other ≠ call := by
          rintro rfl
          obtain rfl := Option.some.inj (listed.symm.trans found)
          exact fine message rfl
        refine Or.inr ⟨waiting, ?_, fine⟩
        change (run.queue.leave call).producers.lookup other = _
        rw [WriteQueue.leave, AList.lookup_erase_ne different]
        exact listed
    · simp at resumed
  | enqueue | tryEnqueue | abortEnqueue | close | writeFailed => simp [QueueEvent.serves] at serving

/-- A queue that is served drains. From every reachable state the queue can be served only
so often, whatever is served first, and it can be served to the end. Then every call has
returned and every accepted frame has been given to the transport, unless the writer had
failed; and if the queue was open, the calls that waited for space have all succeeded. -/
theorem serving_drains (limits : WriteQueueLimits) (run : QueueRun)
    (reachable : Reachable Reachability.unguarded limits run) :
    (∀ count later, Loop.Rounds Serves run count later → count ≤ run.queue.load fun _ => 0) ∧
    (∃ count final, Loop.Ends Serves run count final) ∧
    ∀ count final, Loop.Ends Serves run count final →
      (∀ call < final.calls.length, call ∈ final.returned.map Prod.fst) ∧
      (final.queue.written = final.queue.accepted ∨
        ∃ result, final.queue.writer = .finished result ∧ result.ok = false) ∧
      (run.queue.closed = false → ∀ call frame,
        run.queue.producers.lookup call = some ⟨frame, .waiting⟩ →
        (call, .success) ∈ final.returned) := by
  have preserved : ∀ before after, Reachable Reachability.unguarded limits before →
      Serves before after → Reachable Reachability.unguarded limits after :=
    fun before after reached serves => serves.reachable reached
  have decreases : ∀ before after, Reachable Reachability.unguarded limits before →
      Serves before after → (after.queue.load fun _ => 0) < before.queue.load fun _ => 0 :=
    fun before after reached serves => serves.remaining reached
  refine ⟨?_, ?_, ?_⟩
  · intro count later rounds
    have bounded := rounds.bounded _ (fun run => run.queue.load fun _ => 0) reachable preserved decreases
    omega
  · exact Loop.exists_ends _ (fun run => run.queue.load fun _ => 0) reachable preserved decreases
  · rintro count final ⟨rounds, ended⟩
    have reached := rounds.invariant _ reachable preserved
    have idle := idle_of_over ended
    obtain ⟨open_, sealed⟩ := reached.open_
    obtain ⟨steady, awake⟩ := reached.steady
    have conserves := reached.recorded.2
    have alone := idle.alone conserves reached.driven steady awake sealed
    refine ⟨?_, idle.written conserves reached.driven, ?_⟩
    · intro call made
      rcases open_ call made with returned | held
      · exact returned
      · simp [WriteQueue.held, alone] at held
    · intro notClosed call frame waiting
      let Waits (call : Nat) : Prop :=
        ∃ frame, run.queue.producers.lookup call = some ⟨frame, .waiting⟩
      have granting : run.Granting Waits :=
        ⟨notClosed, fun call among => Or.inr
          (among.elim fun frame listed => ⟨_, listed, fun _ => by simp⟩)⟩
      have granted := rounds.invariant
        (fun state => Reachable Reachability.unguarded limits state ∧ state.Granting Waits)
        ⟨reachable, granting⟩ fun before after both serves =>
          ⟨serves.reachable both.1, both.2.serves both.1.open_.2 serves⟩
      rcases granted.2.granted call ⟨frame, waiting⟩ with returned | ⟨suspended, listed, -⟩
      · exact returned
      · simp [alone] at listed

end Runs

/-- The call that waits for space while the writer has the first frame in its hand succeeds
when the queue is served to the end. -/
theorem serving_drains_crowded :
    ∃ run, crowded = some run ∧
      run.queue.producers.lookup 2 = some ⟨sized 20, .waiting⟩ ∧
      ∃ count final, Loop.Ends Serves run count final ∧ count ≤ (run.queue.load fun _ => 0) ∧
        (2, .success) ∈ final.returned := by
  have reads : crowded.map (fun run => (run.queue.closed, run.queue.producers.lookup 2)) =
      some (false, some ⟨sized 20, .waiting⟩) := by
    decide +kernel
  obtain ⟨run, reached, facts⟩ := Option.map_eq_some_iff.mp reads
  obtain ⟨notClosed, waiting⟩ := Prod.mk.inj facts
  obtain ⟨bounded, ⟨count, final, ends⟩, drained⟩ :=
    serving_drains ⟨2, 136⟩ run (Reachability.run_reaches _ _ _ _ _ reached)
  exact ⟨run, reached, waiting, count, final, ends, bounded count final ends.1,
    (drained count final ends).2.2 notClosed 2 (sized 20) waiting⟩

end QueueRun

end Rillnet
