import Rillnet.FrameCodec
import Rillnet.StatusCode
import Rillnet.Library.Channel
import Mathlib.Data.List.AList
import Mathlib.Logic.Relation

/-!
# The write queue

One connection's coordinated write path. Producers offer frames: `tryEnqueue`
gives up when there is no room, `enqueue` waits for a space signal and offers
again. The single writer takes frames from the channel in order, gives each to
the transport and waits for that write before it takes the next.

Every suspended coroutine is part of the state: a producer waiting for space
with the frame it still holds, and the stage of the writer. A completion is
posted when its cause happens and resumed by a later step. `accepted` and
`written` are history: the frames the queue took, and the frames given to the
transport, in order. Closing the transport after a failed write is left to the
owner of the queue.
-/

namespace Rillnet

/-- The outcome of offering a frame. -/
structure WriteResult where
  status : StatusCode := .ok
  message : String := ""
deriving DecidableEq, Repr

namespace WriteResult

def ok (result : WriteResult) : Bool := decide (result.status = .ok)
def success : WriteResult := {}
def failure (status : StatusCode) (message : String) : WriteResult := ⟨status, message⟩

end WriteResult

/-- The greatest `size_t`: no limit in practice. -/
def unboundedCapacity : UInt64 := 0xFFFFFFFFFFFFFFFF

/-- The bounds of a queue: how many frames wait, and how many bytes they have together. -/
structure WriteQueueLimits where
  maxFrames : UInt64 := unboundedCapacity
  maxBytes : UInt64 := unboundedCapacity
deriving DecidableEq, Repr

/-- Why a suspended producer is resumed, once it is. -/
inductive Wake where
  | waiting
  | signalled
  | failed (message : String)
deriving DecidableEq, Repr

/-- A coroutine suspended in `enqueue` with the frame it offers. -/
structure Producer where
  frame : Frame
  wake : Wake
deriving DecidableEq, Repr

/-- Where the coroutine `run` stands. -/
inductive Writer where
  | notStarted
  | receiving
  | resumed (frame : Option Frame)
  | writing (frame : Frame)
  | finished (result : WriteResult)
deriving DecidableEq, Repr

/-- The queue's members, its suspended coroutines and its history. -/
structure WriteQueue where
  limits : WriteQueueLimits
  queuedBytes : Nat
  closed : Bool
  channel : Channel Frame Unit
  spaceChannel : Channel Unit Nat
  producers : AList (fun _ : Nat => Producer)
  writer : Writer
  accepted : List Frame
  written : List Frame

namespace WriteQueue

/-- How many signals the space channel holds: one for every frame that may wait, or one. -/
def spaceSignalCapacity (limits : WriteQueueLimits) : Nat :=
  if limits.maxFrames = unboundedCapacity ∨ limits.maxFrames = 0 then 1
  else limits.maxFrames.toNat

/-- The constructor. -/
def create (limits : WriteQueueLimits) : WriteQueue where
  limits := limits
  queuedBytes := 0
  closed := false
  channel := Channel.fresh limits.maxFrames.toNat
  spaceChannel := Channel.fresh (spaceSignalCapacity limits)
  producers := ∅
  writer := .notStarted
  accepted := []
  written := []

/-- The bytes a frame counts for. -/
def bytesOf (frame : Frame) : Nat := frameHeaderSize + frame.payload.length

/-- The admission test of the queue: it is open, takes frames at all, and has room for the
bytes. -/
def canFit (queue : WriteQueue) (bytes : Nat) : Bool :=
  !queue.closed && decide (queue.limits.maxFrames ≠ 0) &&
    decide (bytes ≤ queue.limits.maxBytes.toNat) &&
    decide (queue.queuedBytes ≤ sizeSub queue.limits.maxBytes.toNat bytes)

/-- Offer a frame once. A frame handed to the waiting writer resumes it. -/
def tryEnqueueFrame (queue : WriteQueue) (frame : Frame) : WriteQueue × WriteResult :=
  let bytes := bytesOf frame
  if !queue.canFit bytes then
    (queue, .failure .resourceLimitExceeded "write queue capacity exceeded")
  else
    match queue.channel.trySend frame with
    | none => (queue, .failure .resourceLimitExceeded "write queue is closed or full")
    | some (channel, receiver) =>
      ({ queue with
        channel := channel
        writer := if receiver.isSome then .resumed (some frame) else queue.writer
        queuedBytes := sizeAdd queue.queuedBytes bytes
        accepted := queue.accepted ++ [frame] }, .success)

/-- One attempt without waiting. -/
def tryEnqueue (queue : WriteQueue) (frame : Frame) : WriteQueue × WriteResult :=
  queue.tryEnqueueFrame frame

/-- Suspend a producer until a space signal arrives. -/
def awaitSpace (queue : WriteQueue) (producer : Nat) (frame : Frame) : WriteQueue :=
  let (spaceChannel, reception) := queue.spaceChannel.receive producer
  let wake : Wake :=
    match reception with
    | .suspended => .waiting
    | .message _ => .signalled
    | .closed => .failed "Channel closed"
  { queue with
    spaceChannel := spaceChannel
    producers := queue.producers.insert producer ⟨frame, wake⟩ }

/-- One iteration of the loop of `enqueue`: the result, absent when the producer
is suspended. -/
def offer (queue : WriteQueue) (producer : Nat) (frame : Frame) : WriteQueue × Option WriteResult :=
  let (offered, result) := queue.tryEnqueueFrame frame
  if result.ok then (offered, some result)
  else if offered.closed then (offered, some result)
  else (offered.awaitSpace producer frame, none)

/-- Enqueue a frame on behalf of the coroutine named by `producer`. -/
def enqueue (queue : WriteQueue) (producer : Nat) (frame : Frame) :
    WriteQueue × Option WriteResult :=
  if bytesOf frame > queue.limits.maxBytes.toNat ∨ queue.limits.maxFrames = 0 then
    (queue, some (.failure .resourceLimitExceeded "write queue capacity exceeded"))
  else queue.offer producer frame

/-- A producer is no longer suspended. -/
def leave (queue : WriteQueue) (producer : Nat) : WriteQueue :=
  { queue with producers := queue.producers.erase producer }

/-- Resume a producer whose completion was posted: after a signal it offers its
frame again, after an error it gives up. -/
def resumeEnqueue (queue : WriteQueue) (producer : Nat) :
    Option (WriteQueue × Option WriteResult) :=
  match queue.producers.lookup producer with
  | some ⟨frame, .signalled⟩ => some ((queue.leave producer).offer producer frame)
  | some ⟨_, .failed message⟩ =>
    some (queue.leave producer, some (.failure .resourceLimitExceeded message))
  | _ => none

/-- The executor cancels a waiting producer's wait. -/
def abortEnqueue (queue : WriteQueue) (producer : Nat) (message : String) : Option WriteQueue :=
  match queue.producers.lookup producer with
  | some ⟨frame, .waiting⟩ =>
    some { queue with
      spaceChannel := queue.spaceChannel.withdraw producer
      producers := queue.producers.insert producer ⟨frame, .failed message⟩ }
  | _ => none

/-- Post a completion to a suspended producer. -/
def wakeProducer (wake : Wake) (producers : AList (fun _ : Nat => Producer)) (producer : Nat) :
    AList (fun _ : Nat => Producer) :=
  match producers.lookup producer with
  | some suspended => producers.insert producer { suspended with wake := wake }
  | none => producers

/-- Refuse further frames. The waiting writer and the waiting producers are
resumed with an error. -/
def close (queue : WriteQueue) : WriteQueue :=
  let (channel, receivers) := queue.channel.close
  let (spaceChannel, waiters) := queue.spaceChannel.close
  { queue with
    closed := true
    channel := channel
    spaceChannel := spaceChannel
    writer := if receivers.isEmpty then queue.writer else .resumed none
    producers := waiters.foldl (wakeProducer (.failed "Channel closed")) queue.producers }

/-- The writer asks for the next frame. -/
def receiveNext (queue : WriteQueue) : WriteQueue :=
  let (channel, reception) := queue.channel.receive ()
  let writer : Writer :=
    match reception with
    | .suspended => .receiving
    | .message frame => .resumed (some frame)
    | .closed => .resumed none
  { queue with channel := channel, writer := writer }

/-- The coroutine `run` starts. -/
def run (queue : WriteQueue) : Option WriteQueue :=
  match queue.writer with
  | .notStarted => some queue.receiveNext
  | _ => none

/-- Signal that space became available; the signal is dropped when no producer
waits and the signal channel is full or closed. -/
def signalSpace (queue : WriteQueue) : WriteQueue :=
  match queue.spaceChannel.trySend () with
  | none => queue
  | some (spaceChannel, none) => { queue with spaceChannel := spaceChannel }
  | some (spaceChannel, some producer) =>
    { queue with
      spaceChannel := spaceChannel
      producers := wakeProducer .signalled queue.producers producer }

/-- Resume the writer: after an error it returns, otherwise it frees the frame's
bytes, signals space and gives the frame to the transport. -/
def resumeRun (queue : WriteQueue) : Option WriteQueue :=
  match queue.writer with
  | .resumed none => some { queue with writer := .finished .success }
  | .resumed (some frame) =>
    let freed := { queue with queuedBytes := sizeSub queue.queuedBytes (bytesOf frame) }.signalSpace
    some { freed with writer := .writing frame, written := freed.written ++ [frame] }
  | _ => none

/-- The transport wrote the frame completely; the writer takes the next one. -/
def writeCompleted (queue : WriteQueue) : Option (WriteQueue × Frame) :=
  match queue.writer with
  | .writing frame => some (queue.receiveNext, frame)
  | _ => none

/-- The transport reported an error; the writer closes the queue and returns. -/
def writeFailed (queue : WriteQueue) (what : String) : Option WriteQueue :=
  match queue.writer with
  | .writing _ => some { queue.close with writer := .finished (.failure .transportError what) }
  | _ => none

/-- The frame a suspended producer still holds. -/
def held (queue : WriteQueue) (producer : Nat) : Option Frame :=
  (queue.producers.lookup producer).map Producer.frame

/-- The frame the writer has been handed and not yet given to the transport. -/
def inHand (queue : WriteQueue) : List Frame :=
  match queue.writer with
  | .resumed (some frame) => [frame]
  | _ => []

/-- No frame is lost, duplicated or overtaken: the accepted frames are those
given to the transport, then the one in the writer's hand, then the buffered
ones. The writer is the channel's only receiver. -/
structure Conserves (queue : WriteQueue) : Prop where
  frames : queue.accepted = queue.written ++ queue.inHand ++ queue.channel.buffer
  receiver : queue.channel.waiting = if queue.writer = .receiving then [()] else []

section Effects

variable (queue : WriteQueue)

/-- A constructed queue has accepted nothing. -/
theorem create_conserves (limits : WriteQueueLimits) : (create limits).Conserves where
  frames := rfl
  receiver := rfl

@[simp] theorem create_accepted (limits : WriteQueueLimits) : (create limits).accepted = [] := rfl
@[simp] theorem create_written (limits : WriteQueueLimits) : (create limits).written = [] := rfl
@[simp] theorem create_held (limits : WriteQueueLimits) (producer : Nat) :
    (create limits).held producer = none := rfl

/-- An offer either takes the frame into the history or changes nothing. -/
theorem tryEnqueueFrame_effect (frame : Frame) :
    ((queue.tryEnqueueFrame frame).2 = .success ∧
      (queue.tryEnqueueFrame frame).1.accepted = queue.accepted ++ [frame] ∧
      (queue.tryEnqueueFrame frame).1.written = queue.written ∧
      (queue.tryEnqueueFrame frame).1.producers = queue.producers) ∨
    ((queue.tryEnqueueFrame frame).2.ok = false ∧ (queue.tryEnqueueFrame frame).1 = queue) := by
  unfold tryEnqueueFrame
  by_cases fits : queue.canFit (bytesOf frame)
  · cases sent : queue.channel.trySend frame with
    | none => simp [fits, WriteResult.ok, WriteResult.failure]
    | some taken => simp [fits]
  · simp [fits, WriteResult.ok, WriteResult.failure]

/-- An attempt writes nothing. -/
theorem tryEnqueueFrame_written (frame : Frame) :
    (queue.tryEnqueueFrame frame).1.written = queue.written := by
  rcases queue.tryEnqueueFrame_effect frame with ⟨-, -, written, -⟩ | ⟨-, same⟩
  · exact written
  · rw [same]

/-- An accepted frame goes behind every frame accepted before it. -/
theorem tryEnqueueFrame_conserves (frame : Frame) (conserves : queue.Conserves) :
    (queue.tryEnqueueFrame frame).1.Conserves := by
  unfold tryEnqueueFrame
  by_cases fits : queue.canFit (bytesOf frame)
  · cases sent : queue.channel.trySend frame with
    | none => simpa [fits] using conserves
    | some taken =>
      obtain ⟨channel, receiver⟩ := taken
      cases receiver with
      | none =>
        obtain ⟨-, idle, still, buffer, -⟩ := queue.channel.trySend_buffered channel frame sent
        have notReceiving : queue.writer ≠ .receiving := by
          intro receiving
          have waiting := conserves.receiver
          rw [if_pos receiving, idle] at waiting
          simp at waiting
        simp only [fits, Bool.not_true, Bool.false_eq_true, if_false, Option.isSome_none]
        constructor
        · simp [inHand, buffer, conserves.frames]
        · simp [still, notReceiving]
      | some receiver =>
        obtain ⟨-, waiting, vacant, empty, -⟩ :=
          queue.channel.trySend_handed channel frame receiver sent
        have receiving : queue.writer = .receiving := by
          by_contra idle
          have none := conserves.receiver
          rw [if_neg idle, waiting] at none
          simp at none
        have frames := conserves.frames
        have last := conserves.receiver
        rw [waiting, if_pos receiving] at last
        simp only [fits, Bool.not_true, Bool.false_eq_true, if_false, Option.isSome_some, if_true]
        constructor
        · simp [inHand, receiving, vacant, empty] at frames ⊢
          exact frames
        · simp only [reduceCtorEq, if_false]
          exact (List.cons.inj last).2
  · simpa [fits] using conserves

/-- Suspending a producer changes what it holds and nothing else of interest. -/
theorem awaitSpace_effect (producer : Nat) (frame : Frame) :
    (queue.awaitSpace producer frame).accepted = queue.accepted ∧
      (queue.awaitSpace producer frame).written = queue.written ∧
      (queue.awaitSpace producer frame).held = Function.update queue.held producer (some frame) := by
  refine ⟨rfl, rfl, ?_⟩
  funext other
  by_cases same : other = producer
  · subst same
    simp [awaitSpace, held]
  · simp [awaitSpace, held, AList.lookup_insert_ne same, Function.update_of_ne same]

/-- The possible effects of a producer's offer. -/
inductive Offered (before after : WriteQueue) (producer : Nat) (frame : Frame) :
    Option WriteResult → Prop where
  | accepted (history : after.accepted = before.accepted ++ [frame])
      (written : after.written = before.written) (held : after.held = before.held) :
      Offered before after producer frame (some .success)
  | refused (result : WriteResult) (failed : result.ok = false) (same : after = before) :
      Offered before after producer frame (some result)
  | suspended (history : after.accepted = before.accepted)
      (written : after.written = before.written)
      (held : after.held = Function.update before.held producer (some frame)) :
      Offered before after producer frame none

/-- An offer gives nothing to the transport. -/
theorem Offered.same_written {before after : WriteQueue} {producer : Nat} {frame : Frame}
    {result : Option WriteResult} (offered : Offered before after producer frame result) :
    after.written = before.written := by
  cases offered with
  | accepted history written held => exact written
  | refused result failed same => rw [same]
  | suspended history written held => exact written

/-- An attempt of `enqueue` admits its frame, is refused, or suspends its call. -/
theorem offer_effect (producer : Nat) (frame : Frame) :
    Offered queue (queue.offer producer frame).1 producer frame (queue.offer producer frame).2 := by
  unfold offer
  rcases queue.tryEnqueueFrame_effect frame with ⟨success, history, written, producers⟩ | ⟨failed, same⟩
  · simp only [success, WriteResult.ok, WriteResult.success, decide_true, if_true]
    exact .accepted history written (by unfold held; rw [producers])
  · simp only [failed, Bool.false_eq_true, if_false]
    split
    · exact .refused _ failed same
    · rw [same]
      obtain ⟨history, written, held⟩ := queue.awaitSpace_effect producer frame
      exact .suspended history written held

/-- A call of `enqueue` does the same, after the test of the limits. -/
theorem enqueue_effect (producer : Nat) (frame : Frame) :
    Offered queue (queue.enqueue producer frame).1 producer frame
      (queue.enqueue producer frame).2 := by
  unfold enqueue
  split
  · exact .refused _ rfl rfl
  · exact queue.offer_effect producer frame

/-- An attempt keeps the queue in order. -/
theorem offer_conserves (producer : Nat) (frame : Frame) (conserves : queue.Conserves) :
    (queue.offer producer frame).1.Conserves := by
  have offered := queue.tryEnqueueFrame_conserves frame conserves
  unfold offer
  cases outcome : queue.tryEnqueueFrame frame with
  | mk taken result =>
    rw [outcome] at offered
    dsimp only
    split
    · exact offered
    · split
      · exact offered
      · exact ⟨offered.frames, offered.receiver⟩

/-- A call of `enqueue` keeps the queue in order. -/
theorem enqueue_conserves (producer : Nat) (frame : Frame) (conserves : queue.Conserves) :
    (queue.enqueue producer frame).1.Conserves := by
  unfold enqueue
  split
  · exact conserves
  · exact queue.offer_conserves producer frame conserves

/-- A call that leaves holds no frame any more. -/
theorem leave_held (producer : Nat) :
    (queue.leave producer).held = Function.update queue.held producer none := by
  funext other
  by_cases same : other = producer
  · subst same
    simp [leave, held]
  · simp [leave, held, AList.lookup_erase_ne same, Function.update_of_ne same]

/-- A call that leaves takes nothing out of the queue. -/
theorem leave_conserves (producer : Nat) (conserves : queue.Conserves) :
    (queue.leave producer).Conserves := ⟨conserves.frames, conserves.receiver⟩

/-- A resumed producer held a frame, and it offers that frame or gives it up. -/
theorem resumeEnqueue_effect (producer : Nat) (after : WriteQueue) (result : Option WriteResult)
    (resumed : queue.resumeEnqueue producer = some (after, result)) :
    ∃ frame, queue.held producer = some frame ∧
      Offered (queue.leave producer) after producer frame result := by
  unfold resumeEnqueue at resumed
  cases found : queue.producers.lookup producer with
  | none => simp [found] at resumed
  | some suspended =>
    obtain ⟨frame, wake⟩ := suspended
    refine ⟨frame, by simp [held, found], ?_⟩
    cases wake with
    | waiting => simp [found] at resumed
    | signalled =>
      simp only [found, Option.some.injEq] at resumed
      have effect := (queue.leave producer).offer_effect producer frame
      rw [resumed] at effect
      exact effect
    | failed message =>
      obtain ⟨rfl, rfl⟩ : queue.leave producer = after ∧
          some (WriteResult.failure .resourceLimitExceeded message) = result := by
        simpa [found] using resumed
      exact .refused _ rfl rfl

/-- A resumed call keeps the queue in order. -/
theorem resumeEnqueue_conserves (producer : Nat) (after : WriteQueue)
    (result : Option WriteResult) (conserves : queue.Conserves)
    (resumed : queue.resumeEnqueue producer = some (after, result)) : after.Conserves := by
  have left := queue.leave_conserves producer conserves
  unfold resumeEnqueue at resumed
  split at resumed
  · rename_i frame found
    have offered := (queue.leave producer).offer_conserves producer frame left
    rw [Option.some.inj resumed] at offered
    exact offered
  · rw [Option.some.injEq, Prod.mk.injEq] at resumed
    rw [← resumed.1]
    exact left
  · simp at resumed

/-- A step of the queue that accepts nothing and lets every producer keep its
frame. -/
structure Kept (before after : WriteQueue) : Prop where
  accepted : after.accepted = before.accepted
  held : after.held = before.held

/-- A call that is woken still holds its frame. -/
theorem wakeProducer_frame (wake : Wake) (producers : AList (fun _ : Nat => Producer))
    (producer other : Nat) :
    ((wakeProducer wake producers producer).lookup other).map Producer.frame =
      (producers.lookup other).map Producer.frame := by
  unfold wakeProducer
  cases found : producers.lookup producer with
  | none => rfl
  | some suspended =>
    by_cases same : other = producer
    · subst same
      simp [found]
    · simp [AList.lookup_insert_ne same]

/-- So do all the calls that are woken together. -/
theorem wakeProducers_frame (wake : Wake) (waiters : List Nat)
    (producers : AList (fun _ : Nat => Producer)) (other : Nat) :
    ((waiters.foldl (wakeProducer wake) producers).lookup other).map Producer.frame =
      (producers.lookup other).map Producer.frame := by
  induction waiters generalizing producers with
  | nil => rfl
  | cons waiter rest inductionHypothesis =>
    rw [List.foldl_cons, inductionHypothesis, wakeProducer_frame]

/-- Closing accepts nothing and frees no call of its frame. -/
theorem close_kept : Kept queue queue.close where
  accepted := rfl
  held := by
    funext other
    exact wakeProducers_frame _ _ _ other

@[simp] theorem close_written : queue.close.written = queue.written := rfl
@[simp] theorem close_isClosed : queue.close.closed = true := rfl

/-- Closing keeps the queue in order: what is buffered stays. -/
theorem close_conserves (conserves : queue.Conserves) : queue.close.Conserves := by
  have waiting := conserves.receiver
  have frames := conserves.frames
  by_cases receiving : queue.writer = .receiving
  · rw [if_pos receiving] at waiting
    constructor
    · simpa [close, inHand, waiting, receiving] using frames
    · simp [close, waiting]
  · rw [if_neg receiving] at waiting
    constructor
    · simpa [close, inHand, waiting] using frames
    · simp [close, waiting, receiving]

/-- A wait that is aborted only wakes its call. -/
theorem abortEnqueue_kept (producer : Nat) (message : String) (after : WriteQueue)
    (aborted : queue.abortEnqueue producer message = some after) :
    Kept queue after ∧ after.written = queue.written ∧ (queue.Conserves → after.Conserves) := by
  unfold abortEnqueue at aborted
  split at aborted
  · rename_i frame found
    obtain rfl : _ = after := Option.some.inj aborted
    refine ⟨⟨rfl, ?_⟩, rfl, fun conserves => ⟨conserves.frames, conserves.receiver⟩⟩
    funext other
    by_cases same : other = producer
    · subst same
      simp [held, found]
    · simp [held, AList.lookup_insert_ne same]
  · simp at aborted

/-- A writer that asks for the next frame accepts nothing. -/
theorem receiveNext_kept : Kept queue queue.receiveNext := ⟨rfl, rfl⟩

@[simp] theorem receiveNext_written : queue.receiveNext.written = queue.written := rfl

/-- The writer takes the oldest buffered frame into its hand. -/
theorem receiveNext_conserves (conserves : queue.Conserves) (idle : queue.inHand = [])
    (notReceiving : queue.writer ≠ .receiving) : queue.receiveNext.Conserves := by
  have waiting := conserves.receiver
  have frames := conserves.frames
  rw [if_neg notReceiving] at waiting
  rw [idle, List.append_nil] at frames
  unfold receiveNext
  cases asked : queue.channel.receive () with
  | mk channel reception =>
    cases reception with
    | suspended =>
      obtain ⟨empty, -, still, -, joined, -⟩ := queue.channel.receive_suspended channel () asked
      constructor
      · simpa [inHand, still, empty] using frames
      · simp [joined, waiting]
    | message frame =>
      obtain ⟨buffered, -, none, -⟩ := queue.channel.receive_message channel frame () asked
      constructor
      · simpa [inHand, buffered] using frames
      · simp [none]
    | closed =>
      obtain ⟨rfl, -, -⟩ := queue.channel.receive_closed channel () asked
      constructor
      · simpa [inHand] using frames
      · simp [waiting]

/-- A writer that starts asks for the first frame. -/
theorem run_effect (after : WriteQueue) (started : queue.run = some after) :
    Kept queue after ∧ after.written = queue.written ∧ (queue.Conserves → after.Conserves) := by
  unfold run at started
  split at started
  · rename_i fresh
    obtain rfl := Option.some.inj started
    exact ⟨queue.receiveNext_kept, rfl, fun conserves =>
      queue.receiveNext_conserves conserves (by simp [inHand, fresh]) (by simp [fresh])⟩
  · simp at started

@[simp] theorem signalSpace_accepted : queue.signalSpace.accepted = queue.accepted := by
  unfold signalSpace
  split <;> rfl

@[simp] theorem signalSpace_written : queue.signalSpace.written = queue.written := by
  unfold signalSpace
  split <;> rfl

@[simp] theorem signalSpace_channel : queue.signalSpace.channel = queue.channel := by
  unfold signalSpace
  split <;> rfl

/-- A signal wakes a call, which still holds its frame. -/
theorem signalSpace_held : queue.signalSpace.held = queue.held := by
  unfold signalSpace
  split
  · rfl
  · rfl
  · funext other
    exact wakeProducer_frame _ _ _ other

/-- The resumed writer returns, or gives the frame in its hand to the
transport. -/
theorem resumeRun_effect (after : WriteQueue) (resumed : queue.resumeRun = some after) :
    Kept queue after ∧ after.written = queue.written ++ queue.inHand ∧
      (queue.Conserves → after.Conserves) := by
  unfold resumeRun at resumed
  split at resumed
  · rename_i stage
    obtain rfl := Option.some.inj resumed
    refine ⟨⟨rfl, rfl⟩, by simp [inHand, stage], fun conserves => ⟨?_, ?_⟩⟩
    · simpa [inHand, stage] using conserves.frames
    · simpa [stage] using conserves.receiver
  · rename_i frame stage
    obtain rfl := Option.some.inj resumed
    refine ⟨⟨signalSpace_accepted _, signalSpace_held _⟩, by simp [inHand, stage],
      fun conserves => ⟨?_, ?_⟩⟩
    · simpa [inHand, stage] using conserves.frames
    · simpa [stage] using conserves.receiver
  · simp at resumed

/-- A write that is complete lets the writer ask for the next frame. -/
theorem writeCompleted_effect (after : WriteQueue) (frame : Frame)
    (completed : queue.writeCompleted = some (after, frame)) :
    Kept queue after ∧ after.written = queue.written ∧ (queue.Conserves → after.Conserves) := by
  unfold writeCompleted at completed
  split at completed
  · rename_i writing stage
    obtain ⟨rfl, rfl⟩ : queue.receiveNext = after ∧ writing = frame := by simpa using completed
    exact ⟨queue.receiveNext_kept, rfl, fun conserves =>
      queue.receiveNext_conserves conserves (by simp [inHand, stage]) (by simp [stage])⟩
  · simp at completed

/-- A write that fails closes the queue and ends the writer. -/
theorem writeFailed_effect (what : String) (after : WriteQueue)
    (failed : queue.writeFailed what = some after) :
    Kept queue after ∧ after.written = queue.written ∧ (queue.Conserves → after.Conserves) := by
  unfold writeFailed at failed
  split at failed
  · rename_i frame stage
    obtain rfl := Option.some.inj failed
    refine ⟨⟨queue.close_kept.accepted, queue.close_kept.held⟩, rfl, fun conserves => ⟨?_, ?_⟩⟩
    · simpa [close, inHand, stage] using conserves.frames
    · simp [close]
  · simp at failed

/-- The frames given to the transport are the oldest accepted ones, in order. -/
theorem Conserves.written_initial (conserves : queue.Conserves) :
    queue.written <+: queue.accepted := by
  rw [conserves.frames, List.append_assoc]
  exact List.prefix_append _ _

end Effects

/-- Everything that happens to a queue; writes fail only if they may. -/
inductive Step (fails : Prop) (queue : WriteQueue) : WriteQueue → Prop where
  | tried (frame : Frame) : Step fails queue (queue.tryEnqueue frame).1
  | enqueued (producer : Nat) (frame : Frame) : Step fails queue (queue.enqueue producer frame).1
  | resumed (producer : Nat) (after : WriteQueue) (result : Option WriteResult)
      (resumed : queue.resumeEnqueue producer = some (after, result)) : Step fails queue after
  | aborted (producer : Nat) (message : String) (after : WriteQueue)
      (aborted : queue.abortEnqueue producer message = some after) : Step fails queue after
  | closed : Step fails queue queue.close
  | started (after : WriteQueue) (started : queue.run = some after) : Step fails queue after
  | taken (after : WriteQueue) (resumed : queue.resumeRun = some after) : Step fails queue after
  | completed (after : WriteQueue) (frame : Frame)
      (completed : queue.writeCompleted = some (after, frame)) : Step fails queue after
  | failed (what : String) (after : WriteQueue) (may : fails)
      (failed : queue.writeFailed what = some after) : Step fails queue after

variable {fails : Prop}

/-- Every step keeps the queue in order. -/
theorem Step.conserves {before after : WriteQueue} (step : Step fails before after)
    (conserves : before.Conserves) : after.Conserves := by
  cases step with
  | tried frame => exact before.tryEnqueueFrame_conserves frame conserves
  | enqueued producer frame => exact before.enqueue_conserves producer frame conserves
  | resumed producer after result resumed =>
    exact before.resumeEnqueue_conserves producer after result conserves resumed
  | aborted producer message after aborted =>
    exact (before.abortEnqueue_kept producer message after aborted).2.2 conserves
  | closed => exact before.close_conserves conserves
  | started after started => exact (before.run_effect after started).2.2 conserves
  | taken after resumed => exact (before.resumeRun_effect after resumed).2.2 conserves
  | completed after frame completed =>
    exact (before.writeCompleted_effect after frame completed).2.2 conserves
  | failed what after may failed => exact (before.writeFailed_effect what after failed).2.2 conserves

/-- A sequence of steps of a queue. -/
def Steps (fails : Prop) : WriteQueue → WriteQueue → Prop := Relation.ReflTransGen (Step fails)

/-- What every step of a queue keeps is kept by every sequence of steps. -/
theorem Steps.keeps {property : WriteQueue → Prop}
    (kept : ∀ {before after : WriteQueue}, Step fails before after → property before → property after)
    {before after : WriteQueue} (steps : Steps fails before after) (holds : property before) :
    property after := by
  induction steps with
  | refl => exact holds
  | tail _ step inductionHypothesis => exact kept step inductionHypothesis

/-- So does every run. -/
theorem Steps.conserves {before after : WriteQueue} (steps : Steps fails before after)
    (conserves : before.Conserves) : after.Conserves :=
  steps.keeps Step.conserves conserves

end WriteQueue

end Rillnet
