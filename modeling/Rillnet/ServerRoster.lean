import Rillnet.ServerWire
import Rillnet.QueueRuns

/-!
# The handlers of a server connection

The counter of active handlers, the map of operations and the closing of the
queue are updated by different coroutines: the read loop starts handlers, each
handler leaves the map and the counter when it ends, and whoever comes last
closes the queue. The part of the connection they share is its roster. The
counter does not wrap around, since the keys of the map are distinct assigned
64-bit identifiers.
-/

namespace Rillnet

/-- A writer that has returned does not come back. -/
theorem WriteQueue.Steps.finished {before after : WriteQueue} {result : WriteResult}
    {fails : Prop} (steps : Steps fails before after) (driven : before.Driven)
    (finished : before.writer = .finished result) : after.writer = .finished result := by
  induction steps with
  | refl => exact finished
  | tail reached step inductionHypothesis =>
    exact (step.finished (driven.steps reached) inductionHypothesis).2.2

/-- A transport write of the queue failed. -/
def WriteQueue.broken (queue : WriteQueue) : Prop :=
  ∃ what, queue.writer = .finished (.failure .transportError what)

/-- Whether a write failed is read off the result of the writer. -/
theorem WriteQueue.broken_iff (queue : WriteQueue) : queue.broken ↔
    (match queue.writer with
    | .finished result => decide (result.status = .transportError)
    | _ => false) = true := by
  constructor
  · rintro ⟨what, finished⟩
    simp [finished, WriteResult.failure]
  · intro failed
    cases writer : queue.writer with
    | finished result =>
      refine ⟨result.message, ?_⟩
      rw [writer] at failed
      have status : result.status = .transportError := by simpa using failed
      rw [← status, writer]
      rfl
    | _ => simp [writer] at failed

instance (queue : WriteQueue) : Decidable queue.broken :=
  decidable_of_iff _ queue.broken_iff.symm

/-- A write that fails is the only thing that breaks a queue. -/
theorem WriteQueue.Step.unbroken {fails : Prop} {before after : WriteQueue}
    (step : Step fails before after) (sound : ¬ fails) (unbroken : ¬ before.broken) :
    ¬ after.broken := by
  have tried : ∀ (queue : WriteQueue) (frame : Frame), ¬ queue.broken →
      ¬ (queue.tryEnqueue frame).1.broken := by
    intro queue frame fine
    simp only [tryEnqueue, tryEnqueueFrame]
    split
    · exact fine
    · split
      · exact fine
      · rename_i channel receiver _
        rintro ⟨what, failed⟩
        cases receiver with
        | none => exact fine ⟨what, failed⟩
        | some receiver => simp at failed
  have received : ∀ queue : WriteQueue, ¬ queue.receiveNext.broken := by
    rintro queue ⟨what, failed⟩
    simp only [receiveNext] at failed
    split at failed <;> simp at failed
  cases step with
  | tried frame => exact tried before frame unbroken
  | enqueued producer frame =>
    exact (QueueRun.enqueue_outcome before producer frame).keeps (fun queue => ¬ queue.broken)
      unbroken (tried before frame unbroken) fun _ _ => unbroken
  | resumed producer after result resumed =>
    obtain ⟨frame, -, outcome⟩ := QueueRun.resumeEnqueue_outcome _ _ _ _ resumed
    exact outcome.keeps (fun queue => ¬ queue.broken) unbroken
      (tried (before.leave producer) frame unbroken) fun _ _ => unbroken
  | aborted producer message after aborted =>
    unfold abortEnqueue at aborted
    split at aborted
    · obtain rfl := Option.some.inj aborted
      exact unbroken
    · simp at aborted
  | closed =>
    rintro ⟨what, failed⟩
    simp only [close] at failed
    split at failed
    · exact unbroken ⟨what, failed⟩
    · simp at failed
  | started after started =>
    unfold run at started
    split at started
    · obtain rfl := Option.some.inj started
      exact received before
    · simp at started
  | taken after resumed =>
    unfold resumeRun at resumed
    split at resumed
    · obtain rfl := Option.some.inj resumed
      rintro ⟨what, failed⟩
      simp [WriteResult.success, WriteResult.failure] at failed
    · obtain rfl := Option.some.inj resumed
      rintro ⟨what, failed⟩
      simp at failed
    · simp at resumed
  | completed after frame completed =>
    unfold writeCompleted at completed
    split at completed
    · obtain ⟨rfl, -⟩ := Prod.mk.inj (Option.some.inj completed)
      exact received before
    · simp at completed
  | failed what after may failed => exact absurd may sound

/-- What the read loop and the handlers share: `ended` says that the read loop
has returned, `closed` that the queue is closed. -/
structure Roster where
  operations : AList (fun _ : StreamId => Nat)
  activeHandlers : Nat
  reading : Bool
  ended : Bool
  closed : Bool

namespace Roster

/-- The last one closes the queue. -/
def closeWhenIdle (roster : Roster) : Roster :=
  if !roster.reading && decide (roster.activeHandlers = 0) then { roster with closed := true }
  else roster

/-- Everything that happens to a roster. -/
inductive Move (serving fails : Prop) (roster : Roster) : Roster → Prop where
  | kept : Move serving fails roster roster
  | spawned (stream : StreamId) (invocation : Nat) (assigned : stream.value ≠ 0)
      (free : roster.operations.lookup stream = none) (reading : roster.ended = false)
      (served : serving) :
      Move serving fails roster { roster with
        operations := roster.operations.insert stream invocation
        activeHandlers := sizeAdd roster.activeHandlers 1 }
  | finished (stream : StreamId) (listed : (roster.operations.lookup stream).isSome) :
      Move serving fails roster ({ roster with
        operations := roster.operations.erase stream
        activeHandlers := sizeSub roster.activeHandlers 1 }).closeWhenIdle
  | stopped (reading : roster.ended = false) :
      Move serving fails roster ({ roster with reading := false, ended := true }).closeWhenIdle
  | broken (failed : fails) : Move serving fails roster { roster with closed := true }

/-- The counter counts the entries of the map, the flag of the read loop is
cleared when it returns, and the queue is closed by the last one out unless a
write failed. -/
structure Tallied (fails : Prop) (roster : Roster) : Prop where
  counted : roster.activeHandlers = roster.operations.entries.length
  assigned : ∀ stream, (roster.operations.lookup stream).isSome → stream.value ≠ 0
  reading : roster.reading = !roster.ended
  closing : roster.closed = true → fails ∨ roster.reading = false ∧ roster.activeHandlers = 0

/-- Distinct assigned identifiers leave the counter room for one more. -/
theorem counter_fits {operations : AList (fun _ : StreamId => Nat)} {stream : StreamId}
    (assigned : ∀ key, (operations.lookup key).isSome → key.value ≠ 0) (nonzero : stream.value ≠ 0)
    (free : operations.lookup stream = none) : operations.entries.length + 1 < 2 ^ 64 := by
  have number_injective : Function.Injective fun key : StreamId => key.value.toNat := by
    intro one other same
    exact StrongId.eq_of_value (UInt64.toNat_inj.mp same)
  have absent : stream ∉ operations.keys := AList.lookup_eq_none.mp free
  have zero : (⟨0⟩ : StreamId) ∉ stream :: operations.keys := by
    rintro (_ | ⟨_, member⟩)
    · exact nonzero rfl
    · exact assigned ⟨0⟩ (AList.lookup_isSome.mpr member) rfl
  have distinct : (⟨0⟩ :: stream :: operations.keys : List StreamId).Nodup :=
    List.nodup_cons.mpr ⟨zero, List.nodup_cons.mpr ⟨absent, operations.keys_nodup⟩⟩
  have bounded : (⟨0⟩ :: stream :: operations.keys : List StreamId).map
      (fun key => key.value.toNat) ⊆ List.range (2 ^ 64) := by
    intro number member
    obtain ⟨key, -, rfl⟩ := List.mem_map.mp member
    exact List.mem_range.mpr key.value.toNat_lt
  have few := ((distinct.map number_injective).subperm bounded).length_le
  have counted : operations.keys.length = operations.entries.length := List.length_map _
  rw [List.length_map, List.length_range, List.length_cons, List.length_cons] at few
  omega

/-- An entry that is listed leaves a map with one entry less. -/
theorem erase_length {operations : AList (fun _ : StreamId => Nat)} {stream : StreamId}
    (listed : (operations.lookup stream).isSome) :
    (operations.erase stream).entries.length + 1 = operations.entries.length := by
  have member : stream ∈ operations.keys := AList.lookup_isSome.mp listed
  have counted : ∀ map : AList (fun _ : StreamId => Nat), map.keys.length = map.entries.length :=
    fun map => List.length_map _
  have positive : 0 < operations.keys.length := List.length_pos_of_mem member
  rw [← counted, ← counted, AList.keys_erase, List.length_erase_of_mem member]
  omega

/-- A queue is closed by the last one out, or was closed before. -/
theorem closeWhenIdle_closed {roster : Roster} (closed : roster.closeWhenIdle.closed = true) :
    roster.closed = true ∨ roster.reading = false ∧ roster.activeHandlers = 0 := by
  unfold closeWhenIdle at closed
  split at closed
  · rename_i idle
    exact Or.inr (by simpa using idle)
  · exact Or.inl closed

@[simp] theorem closeWhenIdle_operations (roster : Roster) :
    roster.closeWhenIdle.operations = roster.operations := by
  unfold closeWhenIdle
  split <;> rfl

@[simp] theorem closeWhenIdle_activeHandlers (roster : Roster) :
    roster.closeWhenIdle.activeHandlers = roster.activeHandlers := by
  unfold closeWhenIdle
  split <;> rfl

@[simp] theorem closeWhenIdle_reading (roster : Roster) :
    roster.closeWhenIdle.reading = roster.reading := by
  unfold closeWhenIdle
  split <;> rfl

@[simp] theorem closeWhenIdle_ended (roster : Roster) :
    roster.closeWhenIdle.ended = roster.ended := by
  unfold closeWhenIdle
  split <;> rfl

variable {serving failing failed : Prop} {before after : Roster}

/-- No move loses count. -/
theorem Move.tallied (move : Move serving failed before after) (tallied : before.Tallied failing)
    (lasting : failing → failed) : after.Tallied failed := by
  cases move with
  | kept =>
    exact ⟨tallied.counted, tallied.assigned, tallied.reading,
      fun closed => (tallied.closing closed).imp_left lasting⟩
  | spawned stream invocation assigned free reading served =>
    have fits := counter_fits tallied.assigned assigned free
    have running : before.reading = true := by
      rw [tallied.reading, reading]
      rfl
    constructor
    · change sizeAdd before.activeHandlers 1 = _
      rw [tallied.counted, sizeAdd_of_lt _ _ fits,
        AList.entries_insert_of_notMem (AList.lookup_eq_none.mp free), List.length_cons]
    · intro key present
      by_cases same : key = stream
      · exact same ▸ assigned
      · apply tallied.assigned key
        change ((before.operations.insert stream invocation).lookup key).isSome = true at present
        rwa [AList.lookup_insert_ne same] at present
    · exact tallied.reading
    · intro closed
      rcases tallied.closing closed with fails | ⟨stopped, -⟩
      · exact Or.inl (lasting fails)
      · simp [running] at stopped
  | finished stream listed =>
    have fewer := erase_length listed
    have counted := tallied.counted
    constructor
    · rw [closeWhenIdle_activeHandlers, closeWhenIdle_operations]
      change sizeSub before.activeHandlers 1 = (before.operations.erase stream).entries.length
      rw [sizeSub_of_le _ _ (by omega)]
      omega
    · intro key present
      rw [closeWhenIdle_operations] at present
      apply tallied.assigned key
      by_cases same : key = stream
      · exact same ▸ listed
      · rwa [AList.lookup_erase_ne same] at present
    · simpa using tallied.reading
    · intro closed
      rw [closeWhenIdle_reading, closeWhenIdle_activeHandlers]
      rcases closeWhenIdle_closed closed with already | idle
      · rcases tallied.closing already with fails | ⟨-, none⟩
        · exact Or.inl (lasting fails)
        · omega
      · exact Or.inr idle
  | stopped reading =>
    constructor
    · simpa using tallied.counted
    · simpa using tallied.assigned
    · simp
    · intro closed
      rw [closeWhenIdle_reading, closeWhenIdle_activeHandlers]
      rcases closeWhenIdle_closed closed with already | idle
      · rcases tallied.closing already with fails | ⟨-, none⟩
        · exact Or.inl (lasting fails)
        · exact Or.inr ⟨rfl, none⟩
      · exact Or.inr idle
  | broken breaks => exact ⟨tallied.counted, tallied.assigned, tallied.reading, fun _ => Or.inl breaks⟩

/-- Only a served request adds an entry. -/
theorem Move.gains (move : Move serving failed before after) (refuses : ¬ serving)
    (stream : StreamId) (invocation : Nat) (found : after.operations.lookup stream = some invocation) :
    before.operations.lookup stream = some invocation := by
  cases move with
  | kept => exact found
  | spawned key place assigned free reading served => exact absurd served refuses
  | finished key listed =>
    rw [closeWhenIdle_operations] at found
    by_cases same : stream = key
    · subst same
      simp at found
    · rwa [AList.lookup_erase_ne same] at found
  | stopped reading =>
    rw [closeWhenIdle_operations] at found
    exact found
  | broken breaks => exact found

end Roster

@[simp] theorem WriteQueue.tryEnqueueFrame_closed (queue : WriteQueue) (frame : Frame) :
    (queue.tryEnqueueFrame frame).1.closed = queue.closed := by
  simp only [tryEnqueueFrame]
  split
  · rfl
  · split <;> rfl

/-- An offer never closes the queue. -/
theorem QueueRun.Outcome.same_closed {before after : WriteQueue} {call : Nat} {frame : Frame}
    {result : Option WriteResult} (outcome : Outcome before after call frame result) :
    after.closed = before.closed :=
  outcome.keeps (fun queue => queue.closed = before.closed) rfl (before.tryEnqueueFrame_closed frame)
    fun _ _ => rfl

section Server

variable {τ : Type} {ν : τ → Type}

namespace ServerConnection

/-- The roster of a connection. -/
def roster (server : ServerConnection ν) : Roster where
  operations := server.operations
  activeHandlers := server.activeHandlers
  reading := server.reading
  ended := decide (server.reader = .finished)
  closed := server.writeQueue.closed

variable (server : ServerConnection ν) (invocation : Nat)

@[simp] theorem notify_roster (event : DiagnosticsEvent) :
    (server.notify event).roster = server.roster := rfl

@[simp] theorem modifyInvocation_roster (change : Invocation ν → Invocation ν) :
    (server.modifyInvocation invocation change).roster = server.roster := rfl

@[simp] theorem transition_roster (next : ConnectionState) :
    (server.transition next).roster = server.roster := rfl

@[simp] theorem callOperation_roster (call : Operation StreamId → Operation StreamId × Bool) :
    (server.callOperation invocation call).1.roster = server.roster := by
  unfold callOperation
  split <;> rfl

@[simp] theorem sendOperationError_roster (stream : StreamId) (status : StatusCode) :
    (server.sendOperationError stream status).roster = server.roster :=
  congrArg (fun closed => { server.roster with closed := closed })
    (server.writeQueue.tryEnqueueFrame_closed (makeErrorFrame stream status))

@[simp] theorem markTerminal_roster (frame : Frame) :
    (server.markTerminal frame).roster = server.roster := by
  unfold markTerminal
  split <;> rfl

@[simp] theorem notifyClosed_roster : server.notifyClosed.roster = server.roster := by
  unfold notifyClosed
  split <;> rfl

@[simp] theorem failConnection_roster (status : StatusCode) (message : String) :
    (server.failConnection status message).roster = server.roster := by
  unfold failConnection
  dsimp only
  split <;> rfl

@[simp] theorem closeQueueWhenIdle_roster :
    server.closeQueueWhenIdle.roster = server.roster.closeWhenIdle := by
  unfold closeQueueWhenIdle Roster.closeWhenIdle
  split
  · rename_i idle
    rw [if_pos (by exact idle)]
    rfl
  · rename_i busy
    rw [if_neg (by exact busy)]

/-- The end of the connection leaves the roster alone. -/
theorem roster_steady : Steady (roster : ServerConnection ν → Roster) where
  transition := fun _ _ => rfl
  closes := fun _ => rfl
  tells := notifyClosed_roster
  suspends := fun _ _ => rfl
  enters := fun _ => rfl
  calls := callOperation_roster

open Roster (Move)

variable {serving fails : Prop} {start : Roster}

/-- The handler's stream is in the map. -/
def Lists (server : ServerConnection ν) (invocation : Nat) : Prop :=
  ∀ object, server.invocations[invocation]? = some object →
    (server.operations.lookup object.stream).isSome

/-- A method of an operation leaves its coroutine listed. -/
theorem callOperation_lists (call : Operation StreamId → Operation StreamId × Bool)
    (lists : server.Lists invocation) :
    (server.callOperation invocation call).1.Lists invocation := by
  intro object present
  unfold callOperation at present ⊢
  cases found : server.invocations[invocation]? with
  | none => simp [found] at present
  | some old =>
    simp only [found] at present ⊢
    rw [getElem?_set_found _ found, if_pos rfl] at present
    rw [← Option.some.inj present]
    exact lists old found

/-- A coroutine stays listed while it keeps its frame. -/
theorem modifyInvocation_lists (change : Invocation ν → Invocation ν)
    (sameFrame : ∀ object, (change object).frame = object.frame) (lists : server.Lists invocation) :
    (server.modifyInvocation invocation change).Lists invocation := by
  intro object present
  simp only [modifyInvocation, List.getElem?_modify_eq] at present
  obtain ⟨old, found, rfl⟩ := Option.map_eq_some_iff.mp present
  have listed := lists old found
  rwa [Invocation.stream, ← sameFrame old] at listed

/-- A handler that ends takes its entry away, counts down and may close the queue. -/
theorem finishHandler_move (same : server.roster = start) (lists : server.Lists invocation) :
    Move serving fails start (server.finishHandler invocation).roster := by
  subst same
  unfold finishHandler
  split
  · exact .kept
  · rename_i object found
    rw [closeQueueWhenIdle_roster]
    exact .finished object.stream (lists object found)

/-- A handler waits for space, or ends. -/
theorem afterOffer_move (same : server.roster = start) (offered : WriteQueue × Option WriteResult)
    (closed : offered.1.closed = server.writeQueue.closed) (lists : server.Lists invocation) :
    Move serving fails start (server.afterOffer invocation offered).roster := by
  have queued : ({ server with writeQueue := offered.1 } : ServerConnection ν).roster =
      server.roster :=
    congrArg (fun closed => { server.roster with closed := closed }) closed
  unfold afterOffer
  dsimp only
  split
  · rw [modifyInvocation_roster, queued, same]
    exact .kept
  · apply finishHandler_move
    · exact queued.trans same
    · apply modifyInvocation_lists
      · intro object
        rfl
      · exact lists

/-- The reader ends once, and closes the queue if no handler is left. -/
theorem finishReading_move (same : server.roster = start) (lost : Bool)
    (running : server.reader ≠ .finished) :
    Move serving fails start (server.finishReading lost).roster := by
  subst same
  have kept : (if lost then server.failOperationsOnConnectionClose else server).roster =
      server.roster := by
    split
    · exact failOperations_view roster_steady.calls server
    · rfl
  have running' : server.roster.ended = false := by simp [roster, running]
  rw [finishReading, notifyClosed_roster, transition_roster, closeQueueWhenIdle_roster]
  have stopped : ({ (if lost then server.failOperationsOnConnectionClose else server) with
      reading := false, reader := .finished } : ServerConnection ν).roster =
        { server.roster with reading := false, ended := true } :=
    congrArg (fun roster : Roster => { roster with reading := false, ended := true }) kept
  rw [stopped]
  exact .stopped running'

/-- The reader waits, or ends. -/
theorem continueReading_move (running : server.reader ≠ .finished) :
    Move serving fails server.roster server.continueReading.roster := by
  unfold continueReading
  split
  · have same : ({ server with reader := .awaiting } : ServerConnection ν).roster =
        server.roster := by
      simp [roster, running]
    rw [same]
    exact .kept
  · exact server.finishReading_move rfl false running

/-- A batch ends with another read or with the end of reading. -/
theorem endBatch_move (running : server.reader ≠ .finished) :
    Move serving fails server.roster server.endBatch.roster := by
  unfold endBatch
  split
  · apply finishReading_move
    · rfl
    · exact running
  · exact server.continueReading_move running

/-- Routing a frame starts at most one handler. -/
theorem dispatch_move (frame : Frame) (assigned : frame.header.stream.value ≠ 0)
    (running : server.reader ≠ .finished) (serves : server.isShuttingDown = false → serving) :
    Move serving fails server.roster (server.dispatch frame).roster := by
  have quiet : ∀ after : ServerConnection ν, after.roster = server.roster →
      Move serving fails server.roster after.roster := by
    intro after same
    rw [same]
    exact .kept
  unfold dispatch
  split
  · exact quiet _ (by simp)
  · rename_i accepting
    split
    · exact quiet _ (by simp)
    · split
      · exact quiet _ (by simp)
      · split
        · split
          · exact quiet _ (by simp)
          · exact quiet _ (by simp)
        · split
          · exact quiet _ (by simp)
          · split
            · exact quiet _ (by simp)
            · unfold spawnHandler
              split
              · exact quiet _ rfl
              · rename_i unlisted
                exact .spawned frame.header.stream server.invocations.length assigned
                  (by simpa [roster] using unlisted) (by simp [roster, running])
                  (serves (by simpa using accepting))

section Events

variable [DecidableEq τ] {registry : MessageRegistry τ} {codec : Codec τ ν}

/-- A handler starts, or ends over an undecodable request. -/
theorem startHandler_move (object : Invocation ν) (lists : server.Lists invocation) :
    Move serving fails server.roster
      (server.startHandler registry codec invocation object).roster := by
  unfold startHandler
  dsimp only
  split
  · exact .kept
  · apply finishHandler_move
    · simp
    · exact server.callOperation_lists invocation _ lists

/-- A handler that returns waits for space, or ends. -/
theorem handlerReturns_move (object : Invocation ν) (type : τ) (value : ν type)
    (lists : server.Lists invocation) :
    Move serving fails server.roster
      (server.handlerReturns registry codec invocation object type value).roster := by
  unfold handlerReturns
  split
  · exact server.finishHandler_move invocation rfl lists
  · dsimp only
    have still := server.callOperation_lists invocation
      (fun operation => operation.complete "response ready") lists
    split
    · apply afterOffer_move
      · simp
      · exact (QueueRun.enqueue_outcome _ _ _).same_closed
      · exact still
    · apply finishHandler_move
      · simp
      · exact still

/-- Every event other than the loop over frames moves the roster. -/
theorem act_move (sound : server.book.Sound) (event : ServerEvent ν) (after : ServerConnection ν)
    (acts : server.Acts registry codec event after) :
    Move serving after.writeQueue.broken server.roster after.roster := by
  have quiet : after.roster = server.roster →
      Move serving after.writeQueue.broken server.roster after.roster := by
    intro same
    rw [same]
    exact .kept
  have lists : ∀ (invocation : Nat) (object : Invocation ν),
      server.invocations[invocation]? = some object → object.stage ≠ .finished →
      server.Lists invocation := by
    intro invocation object found running other present
    obtain rfl : object = other := Option.some.inj (found.symm.trans present)
    have listed := sound.listed invocation object found running
    exact Option.isSome_of_eq_some listed
  cases acts with
  | handle request response =>
    refine quiet ?_
    unfold handle
    split <;> rfl
  | run fresh =>
    refine quiet ?_
    unfold run
    dsimp only
    split <;> simp [roster, notify, transition, fresh]
  | startWriter queue started =>
    refine quiet ?_
    unfold WriteQueue.run at started
    split at started
    · obtain rfl := Option.some.inj started
      rfl
    · simp at started
  | startReader spawned => exact server.continueReading_move (by simp [spawned])
  | received bytes awaiting => exact quiet (by simp [roster, received, notify, awaiting])
  | endOfFile closes awaiting | readFailed closes awaiting =>
    apply finishReading_move
    · rfl
    · simp [awaiting]
  | startHandler invocation object found spawned =>
    exact server.startHandler_move invocation object
      (lists invocation object found (by simp [spawned]))
  | handlerReturns invocation type value object found handling =>
    exact server.handlerReturns_move invocation object type value
      (lists invocation object found (by simp [handling]))
  | handlerThrows invocation object found handling =>
    exact server.finishHandler_move invocation rfl
      (lists invocation object found (by simp [handling]))
  | resumeEnqueue invocation queue result resumed =>
    obtain ⟨frame, holds, outcome⟩ := QueueRun.resumeEnqueue_outcome _ _ _ _ resumed
    obtain ⟨object, found, responding, -⟩ := sound.held invocation frame holds
    exact server.afterOffer_move invocation rfl (queue, result) outcome.same_closed
      (lists invocation object found (by simp [responding]))
  | abortEnqueue invocation message queue aborted =>
    refine quiet ?_
    unfold WriteQueue.abortEnqueue at aborted
    split at aborted
    · obtain rfl := Option.some.inj aborted
      rfl
    · simp at aborted
  | shutdown expired => exact quiet (roster_steady.shutdown server expired)
  | drainTick expired aborted => exact quiet (roster_steady.drainTick server expired aborted)
  | resumeWriter queue resumed =>
    refine quiet ?_
    unfold WriteQueue.resumeRun at resumed
    split at resumed
    · obtain rfl := Option.some.inj resumed
      rfl
    · obtain rfl := Option.some.inj resumed
      simp [roster]
    · simp at resumed
  | writeCompleted queue frame completed =>
    refine quiet ?_
    unfold WriteQueue.writeCompleted at completed
    split at completed
    · obtain ⟨rfl, rfl⟩ := Prod.mk.inj (Option.some.inj completed)
      rfl
    · simp at completed
  | writeFailed what queue failed =>
    unfold WriteQueue.writeFailed at failed
    split at failed
    · obtain rfl := Option.some.inj failed
      exact .broken ⟨what, rfl⟩
    · simp at failed

omit [DecidableEq τ] in
/-- Routing a frame does not move the reader. -/
theorem dispatch_reader (frame : Frame) : (server.dispatch frame).reader = server.reader := by
  rcases server.dispatch_shell frame with same | ⟨violation, failed⟩ | severed
  · exact congrArg ConnectionShell.reader same
  · exact congrArg ConnectionShell.reader failed
  · exact congrArg ConnectionShell.reader severed

omit [DecidableEq τ] in
/-- A frame enlists a handler, or leaves the roster as it is; no handler is enlisted
during a shutdown. -/
theorem dispatchFrame_move (frame : Frame) (rest : List Frame)
    (reading : server.reader = .dispatching (frame :: rest))
    (assigned : frame.header.stream.value ≠ 0) :
    Move (server.isShuttingDown = false) fails server.roster
      (server.dispatchFrame frame rest).roster := by
  have running : server.reader ≠ .finished := by simp [reading]
  have same : ∀ routed : ServerConnection ν, routed.reader = server.reader →
      ({ routed with
        dispatched := routed.dispatched ++ [frame]
        reader := .dispatching (if routed.transportOpen then rest else []) } :
          ServerConnection ν).roster = routed.roster := by
    intro routed still
    simp [roster, still, running]
  unfold dispatchFrame
  dsimp only
  rw [same _ (dispatch_reader (server.notify _) frame)]
  exact dispatch_move (server.notify _) frame assigned running id

/-- Every step of the connection moves the roster. -/
theorem step_move (sound : server.book.Sound) {bytes : Buffer} (fed : server.shell.Fed bytes)
    (event : ServerEvent ν) (after : ServerConnection ν)
    (stepped : server.step registry codec event = some after) :
    Move (server.isShuttingDown = false) after.writeQueue.broken server.roster after.roster := by
  cases server.step_advances stepped with
  | dispatches frame rest reading =>
    apply server.dispatchFrame_move frame rest reading
    apply valid_stream
    exact fed.valid_batch (by simp [shell, Reader.batch, reading])
  | leaves reading => exact server.endBatch_move (by simp [reading])
  | acts acts => exact server.act_move sound event after acts

variable {guard : ServerConnection ν → ServerEvent ν → Prop} {limits : WriteQueueLimits}

/-- In every reachable state the queue is driven by one writer. -/
theorem Reachable.driven {server : ServerConnection ν}
    (reachable : Reachable registry codec guard limits server) : server.writeQueue.Driven := by
  apply Reachability.Reaches.invariant (fun server => server.writeQueue.Driven) ?_ ?_ reachable
  · exact WriteQueue.create_driven limits
  · intro before event after driven _ stepped
    exact driven.steps (before.step_queue event after stepped)

/-- In every reachable state the shell is orderly. -/
theorem Reachable.orderly {server : ServerConnection ν}
    (reachable : Reachable registry codec guard limits server) : server.shell.Orderly := by
  apply Reachability.Reaches.invariant (fun server => server.shell.Orderly) ?_ ?_ reachable
  · constructor <;> simp [shell, create]
  · intro before event after orderly _ stepped
    exact (before.step_turn event after stepped).orderly orderly

/-- A failed write has closed the transport. -/
theorem Reachable.broken_closed {server : ServerConnection ν}
    (reachable : Reachable registry codec guard limits server) (broken : server.writeQueue.broken) :
    server.transportOpen = false := by
  revert broken
  apply Reachability.Reaches.invariant (fun server : ServerConnection ν =>
    server.writeQueue.broken → server.transportOpen = false) ?_ ?_ reachable
  · rintro ⟨what, failed⟩
    simp [create, WriteQueue.create] at failed
  · intro before event after closed _ stepped broken
    by_cases failing : ∃ what, event = .writeFailed what
    · obtain ⟨what, rfl⟩ := failing
      cases before.step_acts stepped (by simp)
      rfl
    · have turn := before.step_turn event after stepped
      apply turn.severs
      apply closed
      by_contra fine
      have steps := before.step_queue event after stepped
      exact steps.keeps (fun step => step.unbroken failing) fine broken

/-- In every reachable state the counter is the number of the operations. -/
theorem Reachable.tallied {server : ServerConnection ν}
    (reachable : Reachable registry codec guard limits server) :
    server.roster.Tallied server.writeQueue.broken := by
  apply Reachability.Reaches.invariant_of_reached
    (fun server => server.roster.Tallied server.writeQueue.broken) ?_ ?_ reachable
  · exact ⟨rfl, by simp [roster, create], rfl, by simp [roster, create, WriteQueue.create]⟩
  · intro before event after reached tallied _ stepped
    obtain ⟨bytes, fed⟩ := Reachable.fed reached
    apply (before.step_move (Reachable.wired reached).sound fed event after stepped).tallied tallied
    rintro ⟨what, failed⟩
    exact ⟨what, (before.step_queue event after stepped).finished (Reachable.driven reached) failed⟩

end Events

end ServerConnection

/-- Not at its end yet. -/
def Invocation.unfinished (object : Invocation ν) : Bool := decide (object.stage ≠ .finished)

/-- The map has an entry for every coroutine that is not at its end. -/
theorem Book.Sound.unfinished {book : Book ν} (sound : book.Sound) :
    book.operations.entries.length = book.invocations.countP Invocation.unfinished := by
  have lookup_iff : ∀ entry : Sigma fun _ : StreamId => Nat, entry ∈ book.operations.entries ↔
      book.operations.lookup entry.1 = some entry.2 :=
    fun entry => AList.mem_lookup_iff.symm
  have distinct : (book.operations.entries.map Sigma.snd).Nodup := by
    apply List.Nodup.map_on
    · intro one member other memberOther same
      obtain ⟨object, found, stream, -⟩ := sound.entry one.1 one.2 ((lookup_iff one).mp member)
      obtain ⟨object', found', stream', -⟩ :=
        sound.entry other.1 other.2 ((lookup_iff other).mp memberOther)
      rw [same] at found
      obtain rfl : object = object' := Option.some.inj (found.symm.trans found')
      exact Sigma.ext (stream.symm.trans stream') (heq_of_eq same)
    · exact List.Nodup.of_map Sigma.fst book.operations.keys_nodup
  have members : ∀ place, place ∈ book.operations.entries.map Sigma.snd ↔
      place ∈ book.invocations.findIdxs Invocation.unfinished := by
    intro place
    rw [List.mem_findIdxs_iff_exists_getElem_pos]
    constructor
    · intro member
      obtain ⟨entry, listed, rfl⟩ := List.mem_map.mp member
      obtain ⟨object, found, -, running⟩ := sound.entry entry.1 entry.2 ((lookup_iff entry).mp listed)
      obtain ⟨bound, here⟩ := List.getElem?_eq_some_iff.mp found
      exact ⟨bound, by simp [here, Invocation.unfinished, running]⟩
    · rintro ⟨bound, running⟩
      have found := List.getElem?_eq_getElem bound
      have listed := sound.listed place _ found (by simpa [Invocation.unfinished] using running)
      exact List.mem_map.mpr ⟨⟨_, place⟩, (lookup_iff _).mpr listed, rfl⟩
  have permuted := (List.perm_ext_iff_of_nodup distinct List.nodup_findIdxs).mpr members
  rw [← List.length_findIdxs, ← permuted.length_eq, List.length_map]

namespace ServerConnection

section Bookkeeping

variable [DecidableEq τ] {registry : MessageRegistry τ} {codec : Codec τ ν}
  {limits : WriteQueueLimits} {server : ServerConnection ν}

/-- While a handler runs only a failed write closes the queue. -/
theorem Reachable.closed_broken {guard : ServerConnection ν → ServerEvent ν → Prop}
    (reachable : Reachable registry codec guard limits server) {invocation : Nat}
    {object : Invocation ν} (found : server.invocations[invocation]? = some object)
    (unfinished : object.stage ≠ .finished) (closed : server.writeQueue.closed = true) :
    server.writeQueue.broken := by
  have tallied := Reachable.tallied reachable
  rcases tallied.closing closed with broken | ⟨-, none⟩
  · exact broken
  · have listed := (Reachable.wired reachable).sound.listed invocation object found unfinished
    have present := Roster.erase_length (Option.isSome_of_eq_some listed)
    have counted : server.activeHandlers = server.operations.entries.length := tallied.counted
    have idle : server.activeHandlers = 0 := none
    have entries : server.book.operations = server.operations := rfl
    rw [entries] at present
    omega

/-- The counter, the map, the coroutines and the queue of a server agree in every
reachable state. A handler that ends takes its own entry out of the map and one
off the counter, which is not zero; a `shutdown` that was called lets no entry be
added; a queue that is closed while a handler runs was closed by a failed write. -/
theorem bookkeeping
    (reachable : Reachable registry codec Reachability.unguarded limits server) :
    server.activeHandlers = server.operations.entries.length ∧
    server.activeHandlers = server.invocations.countP Invocation.unfinished ∧
    (∀ stream invocation, server.operations.lookup stream = some invocation →
      ∃ object, server.invocations[invocation]? = some object ∧
        object.operation.stream = stream) ∧
    (server.writeQueue.closed = true →
      server.writeQueue.broken ∨ server.reading = false ∧ server.activeHandlers = 0) ∧
    (∀ (invocation : Nat) (object : Invocation ν), server.invocations[invocation]? = some object →
      object.stage ≠ .finished → server.writeQueue.closed = true → server.writeQueue.broken) ∧
    ∀ event after, server.step registry codec event = some after →
      (∀ (invocation : Nat) (object new : Invocation ν),
        server.invocations[invocation]? = some object → object.stage ≠ .finished →
        after.invocations[invocation]? = some new → new.stage = .finished →
        server.operations.lookup object.stream = some invocation ∧
          after.operations = server.operations.erase object.stream ∧
          after.activeHandlers + 1 = server.activeHandlers) ∧
      (server.shutdownEntered = true → ∀ stream invocation,
        after.operations.lookup stream = some invocation →
        server.operations.lookup stream = some invocation) := by
  have sound := (Reachable.wired reachable).sound
  have tallied := Reachable.tallied reachable
  have counted : server.activeHandlers = server.operations.entries.length := tallied.counted
  have running : server.activeHandlers = server.invocations.countP Invocation.unfinished :=
    counted.trans sound.unfinished
  refine ⟨counted, running, ?_, tallied.closing, ?_, ?_⟩
  · intro stream invocation listed
    obtain ⟨object, found, same, -⟩ := sound.entry stream invocation listed
    exact ⟨object, found, ((sound.operation invocation object found).1).trans same⟩
  · intro invocation object found unfinished closed
    exact reachable.closed_broken found unfinished closed
  · intro event after stepped
    have next := Reachable.tallied (.next reachable trivial stepped)
    constructor
    · intro invocation object new found unfinished present ended
      have listed := sound.listed invocation object found unfinished
      have fewer := Roster.erase_length (Option.isSome_of_eq_some listed)
      have erased : after.operations = server.operations.erase object.stream := by
        rcases server.step_book sound event after stepped with same | change
        · have kept : after.invocations = server.invocations := congrArg Book.invocations same
          rw [kept, found] at present
          obtain rfl := Option.some.inj present
          exact absurd ended unfinished
        · obtain ⟨-, -, erased, -⟩ := change.ends found unfinished present ended
          exact erased
      refine ⟨listed, erased, ?_⟩
      have counts : after.activeHandlers = after.operations.entries.length := next.counted
      rw [counts, counted, erased]
      exact fewer
    · intro entered stream invocation found
      obtain ⟨bytes, fed⟩ := Reachable.fed reachable
      have move := server.step_move sound fed event after stepped
      apply move.gains ?_ stream invocation found
      have orderly := Reachable.orderly reachable
      rcases orderly.entered entered with draining | closed
      · have state : server.lifecycle = .draining := draining
        simp [isShuttingDown, state]
      · have state : server.lifecycle = .closed := closed
        simp [isShuttingDown, state]

end Bookkeeping

end ServerConnection

end Server

/-- A request of one byte under identifier seven, or its cancellation. -/
def byteRequest (stream : UInt64) (byte : UInt8) (flags : FrameFlags) : Frame where
  header := { flags := flags, stream := ⟨stream⟩, payloadSize := 5 }
  payload := [0, 0, 0, 7, byte]

/-- A server with a handler for byte requests that has read some frames. -/
def serverReads (frames : List Frame) : List (ServerEvent fun _ : Unit => UInt8) :=
  [.handle () (), .run, .startWriter, .startReader, .received (FrameGrammar.encodeFrames frames)]

/-- Two requests were read; the handler of the first one threw. -/
def oneHandlerLeft : Option (ServerConnection fun _ : Unit => UInt8) :=
  Reachability.run (ServerConnection.step byteRegistry byteCodec) Reachability.unguarded
    (ServerConnection.create {})
    (serverReads [byteRequest 1 5 .none, byteRequest 3 6 .none] ++
      [.dispatchNext, .startHandler 0, .dispatchNext, .handlerThrows 0])

/-- One of two handlers is left, on the stream of the second request. -/
theorem bookkeeping_one_left :
    ∃ server, oneHandlerLeft = some server ∧ server.operations.lookup ⟨3⟩ = some 1 ∧
      server.activeHandlers = server.invocations.countP Invocation.unfinished ∧
      server.activeHandlers = 1 := by
  have reads : oneHandlerLeft.map (fun server => (server.operations.lookup ⟨3⟩,
      server.operations.entries.length)) = some (some 1, 1) := by
    decide +kernel
  obtain ⟨server, reached, facts⟩ := Option.map_eq_some_iff.mp reads
  obtain ⟨listed, one⟩ := Prod.mk.inj facts
  obtain ⟨counted, running, -⟩ :=
    ServerConnection.bookkeeping (Reachability.run_reaches _ _ _ _ _ reached)
  exact ⟨server, reached, listed, running, counted.trans one⟩

end Rillnet
