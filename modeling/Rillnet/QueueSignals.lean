import Rillnet.QueueRuns
import Mathlib.Algebra.GroupWithZero.Nat

/-!
# No lost wake-up

A producer that finds no room waits for a space signal, and signals are dropped
when nobody waits and the signal channel is full. The bytes accounted for tie the
two together: they are those of the frames not yet taken by the writer, so a
producer that finds no room leaves bytes behind, and the step that takes the last
of them hands a signal to a waiting producer.
-/

namespace Rillnet

namespace WriteQueue

/-- The bytes are those of the frames the writer has not taken, and the producers
that wait are those the signal channel knows. -/
structure Steady (queue : WriteQueue) : Prop where
  bytes : queue.queuedBytes = ((queue.inHand ++ queue.channel.buffer).map bytesOf).sum
  within : queue.queuedBytes ≤ queue.limits.maxBytes.toNat
  capacity : queue.channel.capacity = queue.limits.maxFrames.toNat
  distinct : queue.spaceChannel.waiting.Nodup
  waits : ∀ call, call ∈ queue.spaceChannel.waiting ↔
    ∃ frame, queue.producers.lookup call = some ⟨frame, .waiting⟩
  fits : ∀ (call : Nat) (suspended : Producer), queue.producers.lookup call = some suspended →
    bytesOf suspended.frame ≤ queue.limits.maxBytes.toNat ∧ queue.limits.maxFrames ≠ 0

/-- Nobody waits behind an empty queue: a frame is still to be taken, or a signal
was handed to a producer that has not yet tried again. -/
def Awake (queue : WriteQueue) : Prop :=
  queue.closed = false → ∀ (call : Nat) (frame : Frame),
    queue.producers.lookup call = some ⟨frame, .waiting⟩ →
    0 < queue.queuedBytes ∨ ∃ other kept, queue.producers.lookup other = some ⟨kept, .signalled⟩

/-- No frame is free: its header alone has bytes. -/
theorem bytesOf_pos (frame : Frame) : 0 < bytesOf frame := by
  have header : 0 < frameHeaderSize := by decide
  exact Nat.lt_of_lt_of_le header (Nat.le_add_right _ _)

variable {queue : WriteQueue}

/-- A new queue has no signals and no calls. -/
theorem create_steady (limits : WriteQueueLimits) : (create limits).Steady where
  bytes := rfl
  within := Nat.zero_le _
  capacity := rfl
  distinct := List.nodup_nil
  waits := by simp [create]
  fits := by simp [create]

/-- What an accepted frame changes. -/
structure Takes (before after : WriteQueue) (frame : Frame) : Prop where
  bytes : after.queuedBytes = before.queuedBytes + bytesOf frame
  within : after.queuedBytes ≤ before.limits.maxBytes.toNat
  contents : after.inHand ++ after.channel.buffer =
    before.inHand ++ before.channel.buffer ++ [frame]
  capacity : after.channel.capacity = before.channel.capacity
  limits : after.limits = before.limits
  spaceChannel : after.spaceChannel = before.spaceChannel
  producers : after.producers = before.producers

/-- An attempt takes the frame or changes nothing. -/
theorem tryEnqueue_takes (conserves : queue.Conserves) (frame : Frame) :
    ((queue.tryEnqueue frame).2 = .success ∧ queue.Takes (queue.tryEnqueue frame).1 frame) ∨
      ((queue.tryEnqueue frame).2.ok = false ∧ (queue.tryEnqueue frame).1 = queue) := by
  simp only [tryEnqueue, tryEnqueueFrame]
  cases fits : queue.canFit (bytesOf frame) with
  | false => exact Or.inr ⟨rfl, rfl⟩
  | true =>
    obtain ⟨⟨⟨-, -⟩, small⟩, room⟩ : ((queue.closed = false ∧ queue.limits.maxFrames ≠ 0) ∧
        bytesOf frame ≤ queue.limits.maxBytes.toNat) ∧
        queue.queuedBytes ≤ sizeSub queue.limits.maxBytes.toNat (bytesOf frame) := by
      simpa [canFit] using fits
    rw [sizeSub_of_le _ _ small] at room
    have total : queue.queuedBytes + bytesOf frame ≤ queue.limits.maxBytes.toNat := by omega
    have limit := queue.limits.maxBytes.toNat_lt
    have exact_sum : sizeAdd queue.queuedBytes (bytesOf frame) =
        queue.queuedBytes + bytesOf frame :=
      sizeAdd_of_lt _ _ (Nat.lt_of_le_of_lt total limit)
    cases sent : queue.channel.trySend frame with
    | none => exact Or.inr ⟨rfl, rfl⟩
    | some taken =>
      obtain ⟨channel, receiver⟩ := taken
      refine Or.inl ⟨rfl, ?_⟩
      simp only [Bool.not_true, Bool.false_eq_true, if_false]
      cases receiver with
      | none =>
        obtain ⟨-, -, -, buffer, -, capacity⟩ := queue.channel.trySend_buffered channel frame sent
        refine ⟨exact_sum, exact_sum ▸ total, ?_, capacity, rfl, rfl, rfl⟩
        simp [inHand, buffer]
      | some receiver =>
        obtain ⟨-, waiting, vacant, empty, -, capacity⟩ :=
          queue.channel.trySend_handed channel frame receiver sent
        refine ⟨exact_sum, exact_sum ▸ total, ?_, capacity, rfl, rfl, rfl⟩
        have receiving : queue.writer = .receiving := by
          by_contra idle
          have none := conserves.receiver
          rw [if_neg idle, waiting] at none
          simp at none
        simp [inHand, receiving, vacant, empty]

/-- A queue that takes a frame stays steady. -/
theorem Steady.takes (steady : queue.Steady) {after : WriteQueue} {frame : Frame}
    (takes : queue.Takes after frame) : after.Steady := by
  constructor
  · rw [takes.bytes, takes.contents, steady.bytes]
    simp [Nat.add_assoc]
  · rw [takes.limits]
    exact takes.within
  · rw [takes.capacity, takes.limits]
    exact steady.capacity
  · rw [takes.spaceChannel]
    exact steady.distinct
  · rw [takes.spaceChannel, takes.producers]
    exact steady.waits
  · rw [takes.producers, takes.limits]
    exact steady.fits

/-- A frame within the limits finds room in an open queue without bytes. -/
theorem Steady.room (steady : queue.Steady) (driven : queue.Driven) (frame : Frame)
    (notClosed : queue.closed = false) (empty : queue.queuedBytes = 0)
    (small : bytesOf frame ≤ queue.limits.maxBytes.toNat) (nonzero : queue.limits.maxFrames ≠ 0) :
    (queue.tryEnqueue frame).2 = .success := by
  have vacant : queue.channel.buffer = [] := by
    have sum := steady.bytes
    rw [empty] at sum
    cases buffer : queue.channel.buffer with
    | nil => rfl
    | cons first rest =>
      have positive := bytesOf_pos first
      simp only [buffer, List.map_append, List.map_cons, List.sum_append, List.sum_cons] at sum
      omega
  have fits : queue.canFit (bytesOf frame) = true := by
    simp [canFit, notClosed, nonzero, small, empty]
  have positive : 0 < queue.limits.maxFrames.toNat := by
    apply Nat.pos_of_ne_zero
    intro zero
    exact nonzero (UInt64.toNat_inj.mp zero)
  have sent : queue.channel.trySend frame ≠ none := by
    rw [Ne, Channel.trySend_refused_iff, driven.shut, notClosed, vacant, steady.capacity]
    rintro (closed | ⟨-, full⟩)
    · simp at closed
    · simp only [List.length_nil] at full
      omega
  obtain ⟨taken, sent⟩ := Option.ne_none_iff_exists'.mp sent
  simp [tryEnqueue, tryEnqueueFrame, fits, sent]

/-- A producer joins those that wait, or finds a signal at once. -/
theorem Steady.awaitSpace (steady : queue.Steady) (call : Nat) (frame : Frame)
    (fresh : queue.producers.lookup call = none)
    (small : bytesOf frame ≤ queue.limits.maxBytes.toNat) (nonzero : queue.limits.maxFrames ≠ 0) :
    (queue.awaitSpace call frame).Steady := by
  have absent : call ∉ queue.spaceChannel.waiting := by
    rw [steady.waits call, fresh]
    simp
  have elsewhere : ∀ (wake : Wake) (other : Nat), other ≠ call →
      (queue.producers.insert call ⟨frame, wake⟩).lookup other = queue.producers.lookup other :=
    fun wake other different => AList.lookup_insert_ne different
  have fits : ∀ (wake : Wake) (other : Nat) (suspended : Producer),
      (queue.producers.insert call ⟨frame, wake⟩).lookup other = some suspended →
      bytesOf suspended.frame ≤ queue.limits.maxBytes.toNat ∧ queue.limits.maxFrames ≠ 0 := by
    intro wake other suspended found
    by_cases same : other = call
    · subst same
      obtain rfl : ⟨frame, wake⟩ = suspended := by simpa using found
      exact ⟨small, nonzero⟩
    · rw [elsewhere wake other same] at found
      exact steady.fits other suspended found
  unfold WriteQueue.awaitSpace
  cases asked : queue.spaceChannel.receive call with
  | mk channel reception =>
    have answered : ∀ (wake : Wake), wake ≠ .waiting →
        channel.waiting = queue.spaceChannel.waiting →
        WriteQueue.Steady { queue with
          spaceChannel := channel
          producers := queue.producers.insert call ⟨frame, wake⟩ } := by
      intro wake awake same
      refine ⟨steady.bytes, steady.within, steady.capacity, ?_, ?_, fits wake⟩
      · rw [same]
        exact steady.distinct
      · intro other
        rw [same]
        by_cases here : other = call
        · subst here
          simp [absent, awake]
        · rw [elsewhere wake other here]
          exact steady.waits other
    cases reception with
    | suspended =>
      obtain ⟨-, -, -, -, joined, -⟩ := queue.spaceChannel.receive_suspended channel call asked
      refine ⟨steady.bytes, steady.within, steady.capacity, ?_, ?_, fits .waiting⟩
      · rw [joined]
        apply List.Nodup.append steady.distinct (by simp)
        simpa using absent
      · intro other
        rw [joined, List.mem_append, List.mem_singleton]
        by_cases here : other = call
        · subst here
          simp
        · rw [elsewhere .waiting other here, ← steady.waits other]
          simp [here]
    | message signal =>
      obtain ⟨-, nobody, still, -⟩ := queue.spaceChannel.receive_message channel signal call asked
      exact answered .signalled nofun (still.trans nobody.symm)
    | closed =>
      obtain ⟨rfl, -, -⟩ := queue.spaceChannel.receive_closed channel call asked
      exact answered (.failed "Channel closed") nofun rfl

/-- A producer that does not wait leaves. -/
theorem Steady.leave (steady : queue.Steady) (call : Nat)
    (absent : call ∉ queue.spaceChannel.waiting) : (queue.leave call).Steady := by
  refine ⟨steady.bytes, steady.within, steady.capacity, steady.distinct, ?_, ?_⟩
  · intro other
    by_cases same : other = call
    · subst same
      simp [WriteQueue.leave, absent]
    · simp only [WriteQueue.leave, AList.lookup_erase_ne same]
      exact steady.waits other
  · intro other suspended found
    by_cases same : other = call
    · subst same
      simp [WriteQueue.leave] at found
    · rw [WriteQueue.leave, AList.lookup_erase_ne same] at found
      exact steady.fits other suspended found

/-- Waking a producer changes why it is resumed and nothing else. -/
theorem wakeProducer_lookup (wake : Wake) (producers : AList fun _ : Nat => Producer)
    (call other : Nat) :
    (wakeProducer wake producers call).lookup other =
      if other = call then (producers.lookup call).map fun suspended => { suspended with wake := wake }
      else producers.lookup other := by
  unfold wakeProducer
  by_cases same : other = call
  · subst same
    cases found : producers.lookup other <;> simp [found]
  · cases found : producers.lookup call <;> simp [same, AList.lookup_insert_ne]

/-- Closing wakes exactly the calls that wait. -/
theorem wakeProducers_lookup (wake : Wake) (waiters : List Nat)
    (producers : AList fun _ : Nat => Producer) (other : Nat) :
    (waiters.foldl (wakeProducer wake) producers).lookup other =
      if other ∈ waiters then
        (producers.lookup other).map fun suspended => { suspended with wake := wake }
      else producers.lookup other := by
  induction waiters generalizing producers with
  | nil => simp
  | cons waiter rest inductionHypothesis =>
    rw [List.foldl_cons, inductionHypothesis, wakeProducer_lookup]
    by_cases here : other = waiter
    · subst here
      cases producers.lookup other <;> simp
    · simp [here]

/-- Closing resumes everybody who waits. -/
theorem Steady.close (steady : queue.Steady) (conserves : queue.Conserves) :
    queue.close.Steady := by
  have kept := queue.close_conserves conserves
  have contents : queue.close.inHand ++ queue.close.channel.buffer =
      queue.inHand ++ queue.channel.buffer := by
    have before := conserves.frames
    have after := kept.frames
    rw [queue.close_kept.accepted, close_written, before, List.append_assoc,
      List.append_assoc] at after
    exact (List.append_cancel_left after).symm
  have resumed : ∀ other, queue.close.producers.lookup other =
      if other ∈ queue.spaceChannel.waiting then
        (queue.producers.lookup other).map fun suspended =>
          { suspended with wake := .failed "Channel closed" }
      else queue.producers.lookup other :=
    fun other => wakeProducers_lookup _ _ _ other
  constructor
  · rw [contents]
    exact steady.bytes
  · exact steady.within
  · exact steady.capacity
  · exact List.nodup_nil
  · intro other
    rw [resumed other]
    by_cases waiting : other ∈ queue.spaceChannel.waiting
    · obtain ⟨frame, found⟩ := (steady.waits other).mp waiting
      simp [WriteQueue.close, waiting, found]
    · rw [if_neg waiting, ← steady.waits other]
      simp [WriteQueue.close, waiting]
  · intro other suspended found
    rw [resumed other] at found
    split at found
    · obtain ⟨before, present, rfl⟩ := Option.map_eq_some_iff.mp found
      exact steady.fits other before present
    · exact steady.fits other suspended found

/-- A writer that asks for the next frame leaves the signals alone. -/
theorem Steady.receiveNext (steady : queue.Steady) (idle : queue.inHand = []) :
    queue.receiveNext.Steady := by
  have sum := steady.bytes
  rw [idle, List.nil_append] at sum
  unfold WriteQueue.receiveNext
  cases asked : queue.channel.receive () with
  | mk channel reception =>
    have capacity : channel.capacity = queue.channel.capacity := by
      have same := queue.channel.receive_capacity ()
      rwa [asked] at same
    have rest : ∀ writer : Writer,
        queue.queuedBytes = ((({ queue with channel := channel, writer := writer } :
          WriteQueue).inHand ++ channel.buffer).map bytesOf).sum →
        WriteQueue.Steady { queue with channel := channel, writer := writer } :=
      fun writer bytes => ⟨bytes, steady.within, capacity.trans steady.capacity, steady.distinct,
        steady.waits, steady.fits⟩
    cases reception with
    | suspended =>
      obtain ⟨vacant, -, still, -⟩ := queue.channel.receive_suspended channel () asked
      apply rest
      simpa [inHand, still, vacant] using sum
    | message frame =>
      obtain ⟨buffered, -⟩ := queue.channel.receive_message channel frame () asked
      apply rest
      simpa [inHand, buffered] using sum
    | closed =>
      obtain ⟨rfl, -, -⟩ := queue.channel.receive_closed channel () asked
      apply rest
      simpa [inHand] using sum

/-- A signal goes to the longest waiting producer, or nobody waits. -/
theorem signalSpace_cases (steady : queue.Steady) :
    (queue.spaceChannel.waiting = [] ∧ queue.signalSpace.producers = queue.producers ∧
      queue.signalSpace.spaceChannel.waiting = []) ∨
    ∃ call rest frame, queue.spaceChannel.waiting = call :: rest ∧
      queue.producers.lookup call = some ⟨frame, .waiting⟩ ∧
      queue.signalSpace.producers = wakeProducer .signalled queue.producers call ∧
      queue.signalSpace.spaceChannel.waiting = rest := by
  unfold signalSpace
  cases sent : queue.spaceChannel.trySend () with
  | none =>
    left
    rcases (Channel.trySend_refused_iff queue.spaceChannel ()).mp sent with closed | ⟨nobody, -⟩
    · exact ⟨queue.spaceChannel.ended closed, rfl, queue.spaceChannel.ended closed⟩
    · exact ⟨nobody, rfl, nobody⟩
  | some taken =>
    obtain ⟨channel, receiver⟩ := taken
    cases receiver with
    | none =>
      obtain ⟨-, nobody, still, -⟩ := queue.spaceChannel.trySend_buffered channel () sent
      exact Or.inl ⟨nobody, rfl, still⟩
    | some call =>
      obtain ⟨-, waiting, -⟩ := queue.spaceChannel.trySend_handed channel () call sent
      obtain ⟨frame, found⟩ := (steady.waits call).mp (by simp [waiting])
      exact Or.inr ⟨call, channel.waiting, frame, waiting, found, rfl, rfl⟩

@[simp] theorem signalSpace_limits : queue.signalSpace.limits = queue.limits := by
  unfold signalSpace
  split <;> rfl

@[simp] theorem signalSpace_queuedBytes : queue.signalSpace.queuedBytes = queue.queuedBytes := by
  unfold signalSpace
  split <;> rfl

@[simp] theorem signalSpace_inHand : queue.signalSpace.inHand = queue.inHand := by
  unfold signalSpace
  split <;> rfl

/-- After a signal the producers that wait are still those the channel knows. -/
theorem Steady.signalled (steady : queue.Steady) :
    queue.signalSpace.spaceChannel.waiting.Nodup ∧
    (∀ call, call ∈ queue.signalSpace.spaceChannel.waiting ↔
      ∃ frame, queue.signalSpace.producers.lookup call = some ⟨frame, .waiting⟩) ∧
    (∀ (call : Nat) (suspended : Producer),
      queue.signalSpace.producers.lookup call = some suspended →
      bytesOf suspended.frame ≤ queue.limits.maxBytes.toNat ∧ queue.limits.maxFrames ≠ 0) := by
  rcases signalSpace_cases steady with ⟨nobody, producers, still⟩ |
    ⟨first, rest, frame, waiting, found, producers, others⟩
  · rw [producers, still]
    refine ⟨List.nodup_nil, ?_, steady.fits⟩
    intro call
    rw [← steady.waits call, nobody]
  · have distinct := steady.distinct
    rw [waiting, List.nodup_cons] at distinct
    have resumed := fun other => wakeProducer_lookup .signalled queue.producers first other
    rw [producers, others]
    refine ⟨distinct.2, ?_, ?_⟩
    · intro call
      rw [resumed call]
      by_cases here : call = first
      · subst here
        simp [distinct.1, found]
      · rw [if_neg here, ← steady.waits call, waiting]
        simp [here]
    · intro call suspended present
      rw [resumed call] at present
      split at present
      · obtain ⟨before, old, rfl⟩ := Option.map_eq_some_iff.mp present
        exact steady.fits first before old
      · exact steady.fits call suspended present

/-- A signal for the room that was made keeps the queue steady. -/
theorem Steady.signalSpace (steady : queue.Steady) : queue.signalSpace.Steady := by
  obtain ⟨distinct, waits, fits⟩ := steady.signalled
  refine ⟨?_, ?_, ?_, distinct, waits, ?_⟩
  · simpa using steady.bytes
  · simpa using steady.within
  · simpa using steady.capacity
  · simpa using fits

/-- Whoever still waits after a signal waits behind a producer that got it. -/
theorem Steady.signalSpace_awake (steady : queue.Steady) : queue.signalSpace.Awake := by
  intro _ call frame waiting
  rcases signalSpace_cases steady with ⟨nobody, producers, -⟩ |
    ⟨first, rest, kept, -, found, producers, -⟩
  · rw [producers] at waiting
    have member := (steady.waits call).mpr ⟨frame, waiting⟩
    simp [nobody] at member
  · right
    refine ⟨first, kept, ?_⟩
    rw [producers, wakeProducer_lookup, if_pos rfl, found]
    rfl

/-- The writer accounts for the frame in its hand, signals space and gives the
frame to the transport. -/
theorem resumeRun_signals {frame : Frame} {after : WriteQueue}
    (stage : queue.writer = .resumed (some frame)) (resumed : queue.resumeRun = some after) :
    after = ({ queue with
      queuedBytes := sizeSub queue.queuedBytes (bytesOf frame)
      writer := .writing frame
      written := queue.written ++ [frame] } : WriteQueue).signalSpace := by
  simp only [resumeRun, stage, Option.some.injEq] at resumed
  rw [← resumed]
  unfold WriteQueue.signalSpace
  dsimp only
  split <;> rfl

/-- A frame that the writer takes makes room for its bytes. -/
theorem Steady.taken (steady : queue.Steady) {frame : Frame}
    (stage : queue.writer = .resumed (some frame)) :
    WriteQueue.Steady { queue with
      queuedBytes := sizeSub queue.queuedBytes (bytesOf frame)
      writer := .writing frame
      written := queue.written ++ [frame] } := by
  have sum := steady.bytes
  simp only [inHand, stage, List.singleton_append, List.map_cons, List.sum_cons] at sum
  have less : sizeSub queue.queuedBytes (bytesOf frame) =
      (queue.channel.buffer.map bytesOf).sum := by
    rw [sizeSub_of_le _ _ (by omega), sum]
    omega
  have within := steady.within
  refine ⟨?_, ?_, steady.capacity, steady.distinct, steady.waits, steady.fits⟩
  · simpa [inHand] using less
  · dsimp only
    omega

/-- An offer keeps the order, and whoever has to wait leaves bytes behind. -/
theorem Steady.offer (steady : queue.Steady) (conserves : queue.Conserves) (driven : queue.Driven)
    (call : Nat) (frame : Frame) (fresh : queue.producers.lookup call = none)
    (small : bytesOf frame ≤ queue.limits.maxBytes.toNat) (nonzero : queue.limits.maxFrames ≠ 0) :
    (queue.offer call frame).1.Steady ∧ (queue.offer call frame).1.Awake := by
  have tried := tryEnqueue_takes conserves frame
  simp only [tryEnqueue] at tried
  unfold WriteQueue.offer
  dsimp only
  rcases tried with ⟨success, takes⟩ | ⟨failed, same⟩
  · simp only [success, WriteResult.ok, WriteResult.success, decide_true, if_true]
    refine ⟨steady.takes takes, ?_⟩
    intro _ _ _ _
    have positive := bytesOf_pos frame
    rw [takes.bytes]
    omega
  · simp only [failed, same, Bool.false_eq_true, if_false]
    cases closed : queue.closed with
    | true =>
      refine ⟨steady, ?_⟩
      intro notClosed
      simp [closed] at notClosed
    | false =>
      refine ⟨steady.awaitSpace call frame fresh small nonzero, ?_⟩
      intro _ _ _ _
      left
      change 0 < queue.queuedBytes
      apply Nat.pos_of_ne_zero
      intro empty
      have success := steady.room driven frame closed empty small nonzero
      simp only [tryEnqueue] at success
      simp [success, WriteResult.ok, WriteResult.success] at failed

/-- A new call keeps the queue steady, and leaves nobody waiting behind an empty queue. -/
theorem Steady.enqueue (steady : queue.Steady) (awake : queue.Awake) (conserves : queue.Conserves)
    (driven : queue.Driven) (call : Nat) (frame : Frame)
    (fresh : queue.producers.lookup call = none) :
    (queue.enqueue call frame).1.Steady ∧ (queue.enqueue call frame).1.Awake := by
  unfold WriteQueue.enqueue
  split
  · exact ⟨steady, awake⟩
  · rename_i admissible
    obtain ⟨small, nonzero⟩ := not_or.mp admissible
    exact steady.offer conserves driven call frame fresh (Nat.le_of_not_lt small) nonzero

/-- An attempt without waiting keeps the queue steady, and leaves nobody waiting behind an
empty queue. -/
theorem Steady.tryEnqueue (steady : queue.Steady) (awake : queue.Awake)
    (conserves : queue.Conserves) (frame : Frame) :
    (queue.tryEnqueue frame).1.Steady ∧ (queue.tryEnqueue frame).1.Awake := by
  rcases tryEnqueue_takes conserves frame with ⟨-, takes⟩ | ⟨-, same⟩
  · refine ⟨steady.takes takes, ?_⟩
    intro _ _ _ _
    have positive := bytesOf_pos frame
    rw [takes.bytes]
    omega
  · rw [same]
    exact ⟨steady, awake⟩

/-- Nobody is left behind when a producer that had no signal stops waiting. -/
theorem Awake.failed {after : WriteQueue} (awake : queue.Awake)
    (closed : after.closed = queue.closed) (bytes : after.queuedBytes = queue.queuedBytes)
    {call : Nat} {suspended : Producer} (found : queue.producers.lookup call = some suspended)
    (unsignalled : suspended.wake ≠ .signalled)
    (others : ∀ other, other ≠ call →
      after.producers.lookup other = queue.producers.lookup other)
    (stopped : ∀ frame, after.producers.lookup call ≠ some ⟨frame, .waiting⟩) : after.Awake := by
  intro notClosed other kept waiting
  have elsewhere : other ≠ call := by
    rintro rfl
    exact stopped kept waiting
  rw [others other elsewhere] at waiting
  rw [closed] at notClosed
  rw [bytes]
  rcases awake notClosed other kept waiting with left | ⟨signalled, its, got⟩
  · exact Or.inl left
  · right
    have different : signalled ≠ call := by
      rintro rfl
      rw [found] at got
      rw [Option.some.inj got] at unsignalled
      exact unsignalled rfl
    exact ⟨signalled, its, (others signalled different).trans got⟩

/-- A resumed producer got the signal and offers again, or gives up without having
had one. -/
theorem Steady.resumeEnqueue (steady : queue.Steady) (awake : queue.Awake)
    (conserves : queue.Conserves) (driven : queue.Driven) (call : Nat) {after : WriteQueue}
    {result : Option WriteResult}
    (resumed : queue.resumeEnqueue call = some (after, result)) : after.Steady ∧ after.Awake := by
  have leaves : ∀ suspended : Producer, queue.producers.lookup call = some suspended →
      suspended.wake ≠ .waiting → (queue.leave call).Steady := by
    intro suspended found ready
    apply steady.leave call
    rw [steady.waits call, found]
    rintro ⟨frame, same⟩
    rw [Option.some.inj same] at ready
    exact ready rfl
  unfold WriteQueue.resumeEnqueue at resumed
  split at resumed
  · rename_i frame found
    have left := leaves _ found nofun
    obtain ⟨small, nonzero⟩ := steady.fits call _ found
    have offered := left.offer (queue.leave_conserves call conserves)
      ⟨driven.shut, driven.writing, driven.ending, driven.ended⟩ call frame
      (AList.lookup_erase _ _) small nonzero
    rw [Option.some.inj resumed] at offered
    exact offered
  · rename_i frame message found
    obtain ⟨rfl, -⟩ : queue.leave call = after ∧ _ := by simpa using resumed
    refine ⟨leaves _ found nofun, awake.failed rfl rfl found nofun ?_ ?_⟩
    · intro other different
      exact AList.lookup_erase_ne different
    · intro kept
      simp [WriteQueue.leave]
  · simp at resumed

/-- The executor takes a waiting producer out of the channel. -/
theorem Steady.abortEnqueue (steady : queue.Steady) (awake : queue.Awake) (call : Nat)
    (message : String) {after : WriteQueue}
    (aborted : queue.abortEnqueue call message = some after) : after.Steady ∧ after.Awake := by
  unfold WriteQueue.abortEnqueue at aborted
  split at aborted
  · rename_i frame found
    obtain rfl := Option.some.inj aborted
    have others : ∀ other, other ≠ call →
        (queue.producers.insert call ⟨frame, .failed message⟩).lookup other =
          queue.producers.lookup other := fun other different => AList.lookup_insert_ne different
    constructor
    · refine ⟨steady.bytes, steady.within, steady.capacity, steady.distinct.erase _, ?_, ?_⟩
      · intro other
        dsimp only
        rw [Channel.withdraw_waiting, steady.distinct.mem_erase_iff]
        by_cases same : other = call
        · subst same
          simp
        · rw [others other same, ← steady.waits other]
          simp [same]
      · intro other suspended present
        by_cases same : other = call
        · subst same
          obtain rfl : ⟨frame, .failed message⟩ = suspended := by simpa using present
          have fits := steady.fits other _ found
          exact fits
        · rw [others other same] at present
          exact steady.fits other suspended present
    · refine awake.failed rfl rfl found nofun others ?_
      intro kept
      simp
  · simp at aborted

/-- The writer signals when it takes a frame, so nobody waits behind an empty queue. -/
theorem Steady.resumeRun (steady : queue.Steady) (awake : queue.Awake) {after : WriteQueue}
    (resumed : queue.resumeRun = some after) : after.Steady ∧ after.Awake := by
  cases stage : queue.writer with
  | resumed hand =>
    cases hand with
    | some frame =>
      rw [resumeRun_signals stage resumed]
      have taken := steady.taken stage
      exact ⟨taken.signalSpace, taken.signalSpace_awake⟩
    | none =>
      simp only [WriteQueue.resumeRun, stage, Option.some.injEq] at resumed
      subst resumed
      refine ⟨⟨?_, steady.within, steady.capacity, steady.distinct, steady.waits, steady.fits⟩, awake⟩
      simpa [inHand, stage] using steady.bytes
  | notStarted | receiving | writing | finished => simp [WriteQueue.resumeRun, stage] at resumed

/-- A write that fails wakes every call that waits. -/
theorem Steady.writeFailed (steady : queue.Steady) (conserves : queue.Conserves) {what : String}
    {after : WriteQueue} (failed : queue.writeFailed what = some after) :
    after.Steady ∧ after.Awake := by
  unfold WriteQueue.writeFailed at failed
  split at failed
  · rename_i frame stage
    obtain rfl := Option.some.inj failed
    have closed := steady.close conserves
    refine ⟨⟨?_, closed.within, closed.capacity, closed.distinct, closed.waits, closed.fits⟩, nofun⟩
    simpa [inHand, stage, WriteQueue.close] using steady.bytes
  · simp at failed

/-- The limits of a queue do not change. -/
theorem tryEnqueue_limits (frame : Frame) :
    (queue.tryEnqueue frame).1.limits = queue.limits := by
  simp only [tryEnqueue, tryEnqueueFrame]
  split
  · rfl
  · split <;> rfl

/-- The limits of a queue do not change. -/
theorem offer_limits (call : Nat) (frame : Frame) :
    (queue.offer call frame).1.limits = queue.limits := by
  have tried := queue.tryEnqueue_limits frame
  simp only [tryEnqueue] at tried
  unfold offer
  dsimp only
  split
  · exact tried
  · split
    · exact tried
    · exact tried

/-- The limits are those the queue was constructed with. -/
theorem Step.limits {after : WriteQueue} {fails : Prop} (step : Step fails queue after) :
    after.limits = queue.limits := by
  cases step with
  | tried frame => exact queue.tryEnqueue_limits frame
  | enqueued call frame =>
    unfold WriteQueue.enqueue
    split
    · rfl
    · exact queue.offer_limits call frame
  | resumed call after result resumed =>
    unfold WriteQueue.resumeEnqueue at resumed
    split at resumed
    · rename_i frame _
      have offered := (queue.leave call).offer_limits call frame
      rw [Option.some.inj resumed] at offered
      exact offered
    · rw [Option.some.injEq, Prod.mk.injEq] at resumed
      rw [← resumed.1]
      rfl
    · simp at resumed
  | aborted call message after aborted =>
    unfold WriteQueue.abortEnqueue at aborted
    split at aborted
    · obtain rfl := Option.some.inj aborted
      rfl
    · simp at aborted
  | closed => rfl
  | started after started =>
    unfold WriteQueue.run at started
    split at started
    · obtain rfl := Option.some.inj started
      rfl
    · simp at started
  | taken after resumed =>
    unfold WriteQueue.resumeRun at resumed
    split at resumed
    · obtain rfl := Option.some.inj resumed
      rfl
    · obtain rfl := Option.some.inj resumed
      exact signalSpace_limits
    · simp at resumed
  | completed after frame completed =>
    unfold WriteQueue.writeCompleted at completed
    split at completed
    · rw [Option.some.injEq, Prod.mk.injEq] at completed
      rw [← completed.1]
      rfl
    · simp at completed
  | failed what after may failed =>
    unfold WriteQueue.writeFailed at failed
    split at failed
    · obtain rfl := Option.some.inj failed
      rfl
    · simp at failed

/-- The bytes are those of the accepted frames behind the ones the writer has
accounted for. -/
theorem Steady.accounted (steady : queue.Steady) (conserves : queue.Conserves) :
    queue.queuedBytes = ((queue.accepted.drop queue.written.length).map bytesOf).sum := by
  have frames := conserves.frames
  rw [List.append_assoc] at frames
  rw [frames, List.drop_left]
  exact steady.bytes

/-- A frame that fits can be counted without overflow. -/
theorem canFit_sum {frame : Frame} (fits : queue.canFit (bytesOf frame) = true) :
    sizeAdd queue.queuedBytes (bytesOf frame) = queue.queuedBytes + bytesOf frame := by
  obtain ⟨⟨-, small⟩, room⟩ : ((queue.closed = false ∧ queue.limits.maxFrames ≠ 0) ∧
      bytesOf frame ≤ queue.limits.maxBytes.toNat) ∧
      queue.queuedBytes ≤ sizeSub queue.limits.maxBytes.toNat (bytesOf frame) := by
    simpa [canFit] using fits
  rw [sizeSub_of_le _ _ small] at room
  have limit := queue.limits.maxBytes.toNat_lt
  apply sizeAdd_of_lt
  omega

/-- The bytes of the frame in the writer's hand are still counted. -/
theorem Steady.inHand_counted (steady : queue.Steady) {frame : Frame}
    (stage : queue.writer = .resumed (some frame)) : bytesOf frame ≤ queue.queuedBytes := by
  have sum := steady.bytes
  simp only [inHand, stage, List.singleton_append, List.map_cons, List.sum_cons] at sum
  omega

/-- A frame above the byte limit is refused at once and changes nothing. -/
theorem refuses_large {frame : Frame} (large : queue.limits.maxBytes.toNat < bytesOf frame)
    (call : Nat) :
    queue.enqueue call frame =
      (queue, some (.failure .resourceLimitExceeded "write queue capacity exceeded")) ∧
    queue.tryEnqueue frame =
      (queue, .failure .resourceLimitExceeded "write queue capacity exceeded") := by
  constructor
  · rw [WriteQueue.enqueue, if_pos (Or.inl large)]
  · have unfit : queue.canFit (bytesOf frame) = false := by
      simp [canFit, Nat.not_le_of_lt large]
    simp [WriteQueue.tryEnqueue, tryEnqueueFrame, unfit]

end WriteQueue

namespace QueueRun

variable {run after : QueueRun} {event : QueueEvent}

/-- Every step keeps the bytes accounted for and nobody waiting in vain. -/
theorem step_steady (stepped : run.step event = some after) (recorded : run.Recorded)
    (conserves : run.queue.Conserves) (driven : run.queue.Driven) (steady : run.queue.Steady)
    (awake : run.queue.Awake) : after.queue.Steady ∧ after.queue.Awake := by
  cases event with
  | enqueue frame =>
    obtain rfl := Option.some.inj stepped
    have fresh : run.queue.producers.lookup run.calls.length = none :=
      Option.map_eq_none_iff.mp recorded.fresh.1
    exact steady.enqueue awake conserves driven _ frame fresh
  | tryEnqueue frame =>
    obtain rfl := Option.some.inj stepped
    exact steady.tryEnqueue awake conserves frame
  | resumeEnqueue call =>
    obtain ⟨⟨queue, result⟩, resumed, rfl⟩ := Option.map_eq_some_iff.mp stepped
    exact steady.resumeEnqueue awake conserves driven call resumed
  | abortEnqueue call message =>
    obtain ⟨queue, aborted, rfl⟩ := Option.map_eq_some_iff.mp stepped
    exact steady.abortEnqueue awake call message aborted
  | close =>
    obtain rfl := Option.some.inj stepped
    exact ⟨steady.close conserves, nofun⟩
  | run =>
    obtain ⟨queue, started, rfl⟩ := Option.map_eq_some_iff.mp stepped
    unfold WriteQueue.run at started
    split at started
    · rename_i stage
      obtain rfl := Option.some.inj started
      exact ⟨steady.receiveNext (by simp [WriteQueue.inHand, stage]), awake⟩
    · simp at started
  | resumeRun =>
    obtain ⟨queue, resumed, rfl⟩ := Option.map_eq_some_iff.mp stepped
    exact steady.resumeRun awake resumed
  | writeCompleted =>
    obtain ⟨⟨queue, frame⟩, completed, rfl⟩ := Option.map_eq_some_iff.mp stepped
    unfold WriteQueue.writeCompleted at completed
    split at completed
    · rename_i writing stage
      obtain ⟨rfl, -⟩ : run.queue.receiveNext = queue ∧ writing = frame := by
        simpa using completed
      exact ⟨steady.receiveNext (by simp [WriteQueue.inHand, stage]), awake⟩
    · simp at completed
  | writeFailed what =>
    obtain ⟨queue, failed, rfl⟩ := Option.map_eq_some_iff.mp stepped
    exact steady.writeFailed conserves failed

/-- In every reachable state the queue is steady, and nobody waits behind an empty queue. -/
theorem Reachable.steady {guard : QueueRun → QueueEvent → Prop} {limits : WriteQueueLimits}
    (reachable : Reachable guard limits run) : run.queue.Steady ∧ run.queue.Awake := by
  apply Reachability.Reaches.invariant_of_reached (fun run => run.queue.Steady ∧ run.queue.Awake)
    ?_ ?_ reachable
  · refine ⟨WriteQueue.create_steady limits, ?_⟩
    intro _ call frame waiting
    simp [create, WriteQueue.create] at waiting
  · rintro before event after reached ⟨steady, awake⟩ - stepped
    obtain ⟨recorded, conserves⟩ := Reachable.recorded reached
    exact step_steady stepped recorded conserves (Reachable.driven reached) steady awake

/-- The limits are those the queue was made with. -/
theorem Reachable.limits {guard : QueueRun → QueueEvent → Prop} {limits : WriteQueueLimits}
    (reachable : Reachable guard limits run) : run.queue.limits = limits := by
  apply Reachability.Reaches.invariant (fun run => run.queue.limits = limits) ?_ ?_ reachable
  · rfl
  · intro before event after same _ stepped
    exact (step_queue stepped).limits.trans same

/-- The accounting of a queue. In every reachable state the bytes are those of the
frames accepted and not yet taken by the writer, both limits are kept, neither
the additions nor the subtractions wrap, and a frame above the byte limit is
refused at once. -/
theorem accounting (limits : WriteQueueLimits) (run : QueueRun)
    (reachable : Reachable Reachability.unguarded limits run) :
    run.queue.queuedBytes =
      ((run.queue.accepted.drop run.queue.written.length).map WriteQueue.bytesOf).sum ∧
    run.queue.queuedBytes ≤ limits.maxBytes.toNat ∧
    run.queue.channel.buffer.length ≤ limits.maxFrames.toNat ∧
    (∀ bytes, bytes ≤ limits.maxBytes.toNat →
      sizeSub limits.maxBytes.toNat bytes = limits.maxBytes.toNat - bytes) ∧
    (∀ frame, run.queue.canFit (WriteQueue.bytesOf frame) = true →
      sizeAdd run.queue.queuedBytes (WriteQueue.bytesOf frame) =
        run.queue.queuedBytes + WriteQueue.bytesOf frame) ∧
    (∀ frame, run.queue.writer = .resumed (some frame) →
      sizeSub run.queue.queuedBytes (WriteQueue.bytesOf frame) =
          run.queue.queuedBytes - WriteQueue.bytesOf frame ∧
        WriteQueue.bytesOf frame ≤ run.queue.queuedBytes) ∧
    ∀ frame call, limits.maxBytes.toNat < WriteQueue.bytesOf frame →
      run.queue.enqueue call frame = (run.queue,
        some (.failure .resourceLimitExceeded "write queue capacity exceeded")) ∧
      run.queue.tryEnqueue frame = (run.queue,
        .failure .resourceLimitExceeded "write queue capacity exceeded") := by
  obtain ⟨steady, -⟩ := reachable.steady
  have same := reachable.limits
  refine ⟨steady.accounted reachable.recorded.2, ?_, ?_, ?_, ?_, ?_, ?_⟩
  · exact same ▸ steady.within
  · have bounded := run.queue.channel.bounded
    rwa [steady.capacity, same] at bounded
  · exact fun bytes small => sizeSub_of_le _ _ small
  · exact fun frame fits => WriteQueue.canFit_sum fits
  · intro frame stage
    have counted := steady.inHand_counted stage
    exact ⟨sizeSub_of_le _ _ counted, counted⟩
  · intro frame call large
    exact WriteQueue.refuses_large (same ▸ large) call

/-- A frame waits in the buffer, a call waits for space, and the writer has the
first frame in its hand. -/
def crowded : Option QueueRun :=
  Reachability.run step Reachability.unguarded (create ⟨2, 136⟩)
    [.enqueue (sized 40), .enqueue (sized 60), .enqueue (sized 20), .tryEnqueue (sized 30), .run]

/-- All the bytes are counted while the writer holds the first frame. -/
theorem accounting_crowded :
    ∃ run, crowded = some run ∧ run.queue.queuedBytes = 136 ∧
      ((run.queue.accepted.drop run.queue.written.length).map WriteQueue.bytesOf).sum = 136 ∧
      run.queue.channel.buffer.length ≤ 2 := by
  have reads : crowded.map (fun run => run.queue.queuedBytes) = some 136 := by decide +kernel
  obtain ⟨run, reached, bytes⟩ := Option.map_eq_some_iff.mp reads
  have facts := accounting ⟨2, 136⟩ run (Reachability.run_reaches _ _ _ _ _ reached)
  exact ⟨run, reached, bytes, facts.1.symm.trans bytes, facts.2.2.1⟩

/-- No lost wake-up. In every reachable state of an open queue in which some call
of `enqueue` waits for space, a frame has not yet been taken by the writer, or a
signal was handed to a call that has not yet tried again; and a call that tries
again while no bytes are queued succeeds. -/
theorem no_lost_wakeup (limits : WriteQueueLimits) (run : QueueRun)
    (reachable : Reachable Reachability.unguarded limits run)
    (notClosed : run.queue.closed = false) :
    (∀ (call : Nat) (frame : Frame),
      run.queue.producers.lookup call = some ⟨frame, .waiting⟩ →
      (0 < run.queue.queuedBytes ∧ run.queue.inHand ++ run.queue.channel.buffer ≠ []) ∨
        ∃ other kept, run.queue.producers.lookup other = some ⟨kept, .signalled⟩) ∧
    ∀ (call : Nat) (frame : Frame),
      run.queue.producers.lookup call = some ⟨frame, .signalled⟩ → run.queue.queuedBytes = 0 →
      ∃ after, run.queue.resumeEnqueue call = some (after, some .success) := by
  obtain ⟨steady, awake⟩ := reachable.steady
  constructor
  · intro call frame waiting
    rcases awake notClosed call frame waiting with bytes | signalled
    · left
      refine ⟨bytes, ?_⟩
      intro empty
      have sum := steady.bytes
      rw [empty] at sum
      simp at sum
      omega
    · exact Or.inr signalled
  · intro call frame signalled empty
    have conserves := run.queue.leave_conserves call reachable.recorded.2
    obtain ⟨small, nonzero⟩ := steady.fits call _ signalled
    have absent : call ∉ run.queue.spaceChannel.waiting := by
      rw [steady.waits call, signalled]
      simp
    have driven := reachable.driven
    have success := (steady.leave call absent).room
      ⟨driven.shut, driven.writing, driven.ending, driven.ended⟩ frame notClosed empty small nonzero
    refine ⟨((run.queue.leave call).tryEnqueue frame).1, ?_⟩
    have offered : (run.queue.leave call).offer call frame =
        (((run.queue.leave call).tryEnqueue frame).1, some .success) := by
      simp only [WriteQueue.tryEnqueue] at success ⊢
      simp [WriteQueue.offer, success, WriteResult.ok, WriteResult.success]
    simp [WriteQueue.resumeEnqueue, signalled, offered]

/-- Two calls wait behind a frame that fills the queue, and the writer takes it. -/
def drained : Option QueueRun :=
  Reachability.run step Reachability.unguarded (create narrow)
    [.enqueue (sized 40), .enqueue (sized 20), .enqueue (sized 30), .run, .resumeRun]

/-- One of the two got the signal, and it succeeds. -/
theorem no_lost_wakeup_drained :
    ∃ run, drained = some run ∧ run.queue.queuedBytes = 0 ∧
      run.queue.producers.lookup 2 = some ⟨sized 30, .waiting⟩ ∧
      ∃ after, run.queue.resumeEnqueue 1 = some (after, some .success) := by
  have reads : drained.map (fun run => (run.queue.closed, run.queue.queuedBytes,
      run.queue.producers.lookup 1, run.queue.producers.lookup 2)) =
      some (false, 0, some ⟨sized 20, .signalled⟩, some ⟨sized 30, .waiting⟩) := by
    decide +kernel
  obtain ⟨run, reached, facts⟩ := Option.map_eq_some_iff.mp reads
  obtain ⟨notClosed, bytes, signalled, waiting⟩ : run.queue.closed = false ∧
      run.queue.queuedBytes = 0 ∧
      run.queue.producers.lookup 1 = some ⟨sized 20, .signalled⟩ ∧
      run.queue.producers.lookup 2 = some ⟨sized 30, .waiting⟩ := by
    simpa using facts
  exact ⟨run, reached, bytes, waiting, (no_lost_wakeup narrow run
    (Reachability.run_reaches _ _ _ _ _ reached) notClosed).2 1 (sized 20) signalled bytes⟩

end QueueRun

end Rillnet
