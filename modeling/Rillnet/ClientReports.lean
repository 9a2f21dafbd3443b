import Rillnet.ClientAnnals

/-!
# Balanced diagnostics and single cancellations

Two readings of the annals of a client connection. Beside a connection the log of
its cancellations keeps the operations that were abandoned, in the order in which
that happened; the calls of `send_cancellation` are exactly theirs. Along runs
without aborted waits a stream is used again only after its operation is over, so
the diagnostics are balanced, and the report of the end of the connection is the
last one that matters.
-/

namespace Rillnet

section Reports

variable {τ : Type} {ν : τ → Type}

namespace ClientConnection

/-- The operation of a request was cancelled or ran out of time. -/
def abandonedAt (client : ClientConnection ν) (request : Nat) : Bool :=
  client.requests[request]?.any fun object =>
    decide (object.operation.state = .cancelled) ||
      decide (object.operation.state = .failed) && object.operation.timedOut

/-- The operations that were abandoned between two states. -/
def newlyAbandoned (before after : ClientConnection ν) : List Nat :=
  (List.range after.requests.length).filter fun request =>
    after.abandonedAt request && !before.abandonedAt request

theorem annals_abandonedAt (client : ClientConnection ν) (request : Nat) :
    client.annals.abandonedAt request = client.abandonedAt request := by
  simp only [Annals.abandonedAt, annals, List.getElem?_map, abandonedAt]
  cases client.requests[request]? with
  | none => rfl
  | some object => rfl

theorem annals_found {client : ClientConnection ν} {request : Nat} {life : Life}
    (found : client.annals.lives[request]? = some life) :
    ∃ object, client.requests[request]? = some object ∧ object.operation.life = life := by
  simp only [annals, List.getElem?_map, Option.map_eq_some_iff] at found
  exact found

variable [DecidableEq τ] {registry : MessageRegistry τ} {codec : Codec τ ν}
variable {guard : ClientConnection ν → ClientEvent ν → Prop} {limits : WriteQueueLimits}
variable {maximumStreamId : UInt64} {client : ClientConnection ν}

theorem Reachable.regular
    (reachable : Reachable registry codec guard limits maximumStreamId client) :
    client.annals.Regular := by
  apply Reachability.Reaches.invariant_of_reached (fun client => client.annals.Regular) ?_ ?_
    reachable
  · intro life member
    simp [create, annals] at member
  · intro before event after reached regular _ stepped
    exact (before.step_annals event after regular (Reachable.orderly reached) stepped).regular
      regular

theorem Reachable.turn
    (reachable : Reachable registry codec guard limits maximumStreamId client)
    {event : ClientEvent ν} {after : ClientConnection ν}
    (stepped : client.step registry codec event = some after) :
    Annals.Turn client.Serves (after.lifecycle = .closed) client.annals after.annals :=
  client.step_annals event after reachable.regular reachable.orderly stepped

omit [DecidableEq τ] in
/-- An operation that appears in the list was abandoned since. -/
theorem mem_newlyAbandoned {before after : ClientConnection ν} {request : Nat} :
    request ∈ newlyAbandoned before after ↔
      after.abandonedAt request = true ∧ before.abandonedAt request = false := by
  simp only [newlyAbandoned, List.mem_filter, List.mem_range, Bool.and_eq_true, Bool.not_eq_true']
  constructor
  · exact fun listed => listed.2
  · rintro ⟨abandoned, live⟩
    refine ⟨?_, abandoned, live⟩
    by_contra outside
    simp [abandonedAt, List.getElem?_eq_none (Nat.le_of_not_lt outside)] at abandoned

/-- One step calls `send_cancellation` for nobody and abandons nobody, or it calls it
once, for the one operation it moves from active to cancelled or timed out. -/
theorem Reachable.tells (reachable : Reachable registry codec guard limits maximumStreamId client)
    {event : ClientEvent ν} {after : ClientConnection ν}
    (stepped : client.step registry codec event = some after) :
    (after.cancellations = client.cancellations ∧ newlyAbandoned client after = []) ∨
    ∃ request old new, newlyAbandoned client after = [request] ∧
      after.cancellations = client.cancellations ++ [old.stream] ∧
      client.requests[request]? = some old ∧ old.operation.state = .active ∧
      after.requests[request]? = some new ∧ new.stream = old.stream ∧
      (new.operation.state = .cancelled ∨
        new.operation.state = .failed ∧ new.operation.timedOut = true) := by
  rcases (reachable.turn stepped).cancels with ⟨calls, same⟩ |
    ⟨request, old, new, found, active, reread, abandoned, stream, calls, marked⟩
  · left
    refine ⟨calls, List.eq_nil_iff_forall_not_mem.mpr ?_⟩
    intro request listed
    obtain ⟨now, before_⟩ := mem_newlyAbandoned.mp listed
    have unchanged := same request
    rw [annals_abandonedAt, annals_abandonedAt, now, before_] at unchanged
    simp at unchanged
  · right
    obtain ⟨object, present, rfl⟩ := annals_found found
    obtain ⟨changed, again, rfl⟩ := annals_found reread
    have live : client.abandonedAt request = false := by
      have active : object.operation.state = .active := active
      simp [abandonedAt, present, active]
    have only : ∀ place, (after.abandonedAt place && !client.abandonedAt place) =
        (place == request) := by
      intro place
      have reading := marked place
      rw [annals_abandonedAt, annals_abandonedAt] at reading
      rw [reading]
      by_cases here : place = request
      · subst here
        simp [live]
      · cases client.abandonedAt place <;> simp [here]
    have within : request < after.requests.length := (List.getElem?_eq_some_iff.mp again).1
    refine ⟨request, object, changed, ?_, calls, present, active, again, stream, ?_⟩
    · unfold newlyAbandoned
      rw [List.filter_congr fun place _ => only place, List.filter_beq,
        List.count_eq_one_of_mem List.nodup_range (List.mem_range.mpr within)]
      rfl
    · have kind : (decide (changed.operation.state = .cancelled) ||
          decide (changed.operation.state = .failed) && changed.operation.timedOut) = true :=
        abandoned
      simpa using kind

/-- An abandoned operation stays abandoned, on its stream. -/
theorem Reachable.stays_abandoned
    (reachable : Reachable registry codec guard limits maximumStreamId client)
    {event : ClientEvent ν} {after : ClientConnection ν}
    (stepped : client.step registry codec event = some after) {request : Nat}
    (abandoned : client.abandonedAt request = true) :
    after.abandonedAt request = true ∧ after.streamOf request = client.streamOf request := by
  obtain ⟨object, found, given⟩ := (Option.any_eq_true _ _).mp abandoned
  have inactive : object.operation.state ≠ .active := by
    intro active
    simp [active] at given
  have life : client.annals.lives[request]? = some object.operation.life := by
    simp [annals, found]
  obtain ⟨again, present, same⟩ := annals_found ((reachable.turn stepped).kept life inactive)
  constructor
  · rw [← annals_abandonedAt] at abandoned ⊢
    simpa [Annals.abandonedAt, annals, present, found, same] using abandoned
  · have stream : again.stream = object.stream := congrArg Life.stream same
    simp [streamOf, present, found, stream]

end ClientConnection

/-- A client connection and the operations abandoned so far. -/
structure CancellationLog (ν : τ → Type) where
  client : ClientConnection ν
  abandoned : List Nat := []

namespace CancellationLog

variable [DecidableEq τ] (registry : MessageRegistry τ) (codec : Codec τ ν)

/-- One step of the connection, with the operations it abandons. -/
def step (log : CancellationLog ν) (event : ClientEvent ν) : Option (CancellationLog ν) :=
  (log.client.step registry codec event).map fun after =>
    { client := after
      abandoned := log.abandoned ++ ClientConnection.newlyAbandoned log.client after }

def create (limits : WriteQueueLimits) (maximumStreamId : UInt64) : CancellationLog ν where
  client := .create limits maximumStreamId

/-- The states a new connection reaches, with its log. -/
def Reachable (limits : WriteQueueLimits) (maximumStreamId : UInt64) : CancellationLog ν → Prop :=
  Reachability.Reaches (step registry codec) Reachability.unguarded
    (create limits maximumStreamId)

variable {registry codec} {limits : WriteQueueLimits} {maximumStreamId : UInt64}
variable {log : CancellationLog ν}

/-- Without its log a run is a run of the connection. -/
theorem Reachable.client (reachable : Reachable registry codec limits maximumStreamId log) :
    ClientConnection.Reachable registry codec Reachability.unguarded limits maximumStreamId
      log.client := by
  apply Reachability.Reaches.project CancellationLog.client ?_ reachable
  intro before event after _ stepped
  obtain ⟨client, moved, rfl⟩ := Option.map_eq_some_iff.mp stepped
  exact ⟨trivial, moved⟩

/-- The calls of `send_cancellation` are those of the abandoned operations, each once
and in order, and an abandoned operation stays so. -/
structure Attributed (log : CancellationLog ν) : Prop where
  calls : log.client.cancellations = log.abandoned.map log.client.streamOf
  once : log.abandoned.Nodup
  still : ∀ request ∈ log.abandoned, log.client.abandonedAt request = true

theorem Reachable.attributed (reachable : Reachable registry codec limits maximumStreamId log) :
    log.Attributed := by
  apply Reachability.Reaches.invariant_of_reached Attributed ?_ ?_ reachable
  · exact ⟨rfl, List.nodup_nil, by simp [create]⟩
  · intro before event after reached attributed _ stepped
    have earlier := Reachable.client reached
    obtain ⟨client, moved, rfl⟩ := Option.map_eq_some_iff.mp stepped
    have streams : before.abandoned.map client.streamOf =
        before.abandoned.map before.client.streamOf := by
      apply List.map_congr_left
      intro request listed
      exact (earlier.stays_abandoned moved (attributed.still request listed)).2
    have still : ∀ request ∈ before.abandoned, client.abandonedAt request = true :=
      fun request listed =>
        (earlier.stays_abandoned moved (attributed.still request listed)).1
    have telling := earlier.tells moved
    constructor
    · rw [List.map_append, streams, ← attributed.calls]
      rcases telling with ⟨calls, nobody⟩ |
        ⟨request, old, new, only, calls, -, -, found, stream, -⟩
      · simp [calls, nobody]
      · simp [calls, only, ClientConnection.streamOf, found, stream]
    · rw [List.nodup_append]
      refine ⟨attributed.once, List.nodup_range.filter _, ?_⟩
      rintro request listed other fresh rfl
      have live := (ClientConnection.mem_newlyAbandoned.mp fresh).2
      rw [attributed.still request listed] at live
      simp at live
    · intro request listed
      rcases List.mem_append.mp listed with old | fresh
      · exact still request old
      · exact (ClientConnection.mem_newlyAbandoned.mp fresh).1

/-- At most one cancellation for each operation, and only for an abandoned one. In
every run the calls of `send_cancellation` are those of the abandoned operations, each
once, in the step that moves the operation from active to cancelled or timed out; no
call is made for an operation that completed or failed otherwise. -/
theorem cancellation_once (reachable : Reachable registry codec limits maximumStreamId log) :
    log.client.cancellations = log.abandoned.map log.client.streamOf ∧ log.abandoned.Nodup ∧
    (∀ (request : Nat) (object : PendingRequest ν), log.client.requests[request]? = some object →
      request ∈ log.abandoned → object.operation.state = .cancelled ∨
        object.operation.state = .failed ∧ object.operation.timedOut = true) ∧
    ∀ (event : ClientEvent ν) (after : CancellationLog ν), log.step registry codec event = some after →
      (after.client.cancellations = log.client.cancellations ∧ after.abandoned = log.abandoned) ∨
      ∃ request old new, after.abandoned = log.abandoned ++ [request] ∧
        after.client.cancellations = log.client.cancellations ++ [old.stream] ∧
        log.client.requests[request]? = some old ∧ old.operation.state = .active ∧
        after.client.requests[request]? = some new ∧ new.stream = old.stream ∧
        (new.operation.state = .cancelled ∨
          new.operation.state = .failed ∧ new.operation.timedOut = true) := by
  have attributed := reachable.attributed
  refine ⟨attributed.calls, attributed.once, ?_, ?_⟩
  · intro request object found listed
    simpa [ClientConnection.abandonedAt, found] using attributed.still request listed
  · intro event after stepped
    obtain ⟨client, moved, rfl⟩ := Option.map_eq_some_iff.mp stepped
    rcases reachable.client.tells moved with ⟨calls, nobody⟩ | ⟨request, old, new, only, tells⟩
    · exact Or.inl ⟨calls, by rw [nobody, List.append_nil]⟩
    · exact Or.inr ⟨request, old, new, by rw [only], tells⟩

/-- One operation is cancelled twice and its handle destroyed, another runs out of
time, and a third is failed by the end of the connection. -/
def cancelledAndLate : Option (CancellationLog fun _ : Unit => UInt8) :=
  Reachability.run (step byteRegistry byteCodec) Reachability.unguarded
    (create {} 0xFFFFFFFFFFFFFFFF)
    [.run, .startWriter, .startReader, .startRequest () 5 () none, .startRequest () 6 () (some 9),
      .startRequest () 7 () none, .cancel 0 "operation cancelled", .cancel 0 "operation cancelled",
      .timerExpires 1, .timerHandler 1, .destroyHandle 0, .endOfFile true, .destroyHandle 2]

/-- The first two are told to the peer, once each. -/
theorem cancellation_once_late :
    ∃ log, cancelledAndLate = some log ∧ log.client.requests.length = 3 ∧
      log.abandoned = [0, 1] ∧
      log.client.cancellations = [0, 1].map log.client.streamOf ∧ log.abandoned.Nodup := by
  have reads : cancelledAndLate.map (fun log => (log.client.requests.length, log.abandoned)) =
      some (3, [0, 1]) := by
    decide +kernel
  obtain ⟨log, reached, facts⟩ := Option.map_eq_some_iff.mp reads
  obtain ⟨three, abandoned⟩ := Prod.mk.inj facts
  obtain ⟨calls, once, -⟩ := cancellation_once (Reachability.run_reaches _ _ _ _ _ reached)
  exact ⟨log, reached, three, abandoned, abandoned ▸ calls, once⟩

end CancellationLog

namespace ClientConnection

open DiagnosticsEvent (started)

section Balance

variable [DecidableEq τ] {registry : MessageRegistry τ} {codec : Codec τ ν}
variable {limits : WriteQueueLimits} {maximumStreamId : UInt64} {client : ClientConnection ν}
variable (reachable : Reachable registry codec unaborted limits maximumStreamId client)
include reachable

/-- Without aborted waits a live operation is listed and holds its stream. -/
theorem Reachable.live_listed {request : Nat} {object : PendingRequest ν}
    (found : client.requests[request]? = some object)
    (active : object.operation.state = .active) :
    client.pending.lookup object.stream = some request ∧ object.streamReleased = false :=
  reachable.consistent.listed request object found
    ((reachable.faithful.faithful request object found).undecided active).2.1

/-- An operation starts on a stream without a live one. -/
theorem Reachable.serves_free {stream : StreamId} (serves : client.Serves stream) (life : Life)
    (member : life ∈ client.annals.lives) (same : life.stream = stream) :
    life.state ≠ .active := by
  intro active
  obtain ⟨request, present⟩ := List.mem_iff_getElem?.mp member
  obtain ⟨object, found, rfl⟩ := annals_found present
  have allocation : client.ledger.streamIds.allocate.2 = .success stream :=
    allocation_of_stream reachable.consistent rfl serves.2
  exact Ledger.allocated_unused reachable.consistent stream allocation found
    (reachable.live_listed found active).2 same

/-- A closed connection has no live operation. -/
theorem Reachable.closed_idle (closed : client.lifecycle = .closed) (life : Life)
    (member : life ∈ client.annals.lives) : life.state ≠ .active := by
  intro active
  obtain ⟨request, present⟩ := List.mem_iff_getElem?.mp member
  obtain ⟨object, found, rfl⟩ := annals_found present
  have listed := (reachable.live_listed found active).1
  exact absurd (reachable.closed_vacant closed) (List.ne_nil_of_mem (AList.mem_lookup_iff.mp listed))

omit reachable in
/-- The diagnostics are in order. -/
structure Accounted (client : ClientConnection ν) : Prop where
  balanced : client.annals.chronicle.Balanced
  reported : client.annals.Reported
  closed : client.closedNotified = true → client.lifecycle = .closed

theorem Reachable.accounted : client.Accounted := by
  apply Reachability.Reaches.invariant_of_reached Accounted ?_ ?_ reachable
  · refine ⟨Chronicle.balanced_empty, ⟨?_, ?_, ?_⟩, ?_⟩
    · simp [create, annals]
    · simp [create, annals]
    · simp [create, annals]
    · simp [create]
  · intro before event after reached accounted _ stepped
    have earlier : Reachable registry codec unaborted limits maximumStreamId before := reached
    have turn := earlier.turn stepped
    constructor
    · exact (turn.chronicle earlier.regular fun stream serves => earlier.serves_free serves).balanced
        accounted.balanced
    · apply turn.reported accounted.reported
      intro closed
      have ended := accounted.closed closed
      refine ⟨earlier.closed_idle ended, ?_⟩
      rintro stream ⟨serving, -⟩
      simp [isShuttingDown, ended] at serving
    · intro closed
      rcases turn.closes closed with notified | ended
      · exact (before.step_turn event after earlier.consistent stepped).stays_closed
          (accounted.closed notified)
      · exact ended

omit [DecidableEq τ] reachable in
/-- The stories of the operations on a stream, read from the requests. -/
theorem annals_stories (stream : StreamId) :
    (client.annals.lives.filter fun life => decide (life.stream = stream)).flatMap Life.story =
      (client.requests.filter fun object => decide (object.stream = stream)).flatMap fun object =>
        started object.stream ::
          object.operation.result.toList.map (completionEvent object.stream) := by
  simp only [annals, List.filter_map, List.flatMap_map]
  rfl

end Balance

end ClientConnection

end Reports

end Rillnet
