import Rillnet.ClientShell

/-!
# Closing a client connection

The lifecycle moves forward only, `start_request` is refused as soon as it has
left its active state, and it is closed only where the map was emptied. So no
request slips in behind a shutdown or the end of the read loop, and a closed
connection has answered everybody.
-/

namespace Rillnet

section Closing

variable {τ : Type} {ν : τ → Type}

namespace Ledger

/-- An entry found after a request has left the map was there before. -/
theorem lookup_unlisted {pending : AList (fun _ : StreamId => Nat)} {old : PendingRequest ν}
    {stream : StreamId} {other : Nat}
    (lookup : (if old.removed then pending else pending.erase old.stream).lookup stream = some other) :
    pending.lookup stream = some other := by
  split at lookup
  · exact lookup
  · by_cases same : stream = old.stream
    · subst same
      simp at lookup
    · rwa [AList.lookup_erase_ne same] at lookup

variable [DecidableEq τ] {registry : MessageRegistry τ} {codec : Codec τ ν}
variable {permits : Ledger ν → Change → Prop} {before after : Ledger ν}

/-- Only a registration adds an entry. -/
theorem Step.lookup_old (step : Step registry codec permits before after)
    (refused : ∀ stream, ¬ permits before (.registers stream)) {stream : StreamId} {request : Nat}
    (lookup : after.pending.lookup stream = some request) :
    before.pending.lookup stream = some request := by
  cases step
  case registered permitted _ => exact absurd permitted (refused _)
  case refused => exact lookup_unlisted lookup
  case refusedLate => exact lookup_unlisted lookup
  case abandoned => exact lookup_unlisted lookup
  case failed fails =>
    obtain ⟨_, _, _, _, _, _, rfl⟩ := fails
    exact lookup_unlisted lookup
  case dropped => exact lookup_unlisted lookup
  case returned => exact lookup_unlisted lookup
  case completed => exact lookup_unlisted lookup
  case rejected => exact lookup_unlisted lookup
  all_goals exact lookup

theorem Steps.lookup_old (steps : Steps registry codec permits before after)
    (refused : ∀ ledger stream, ¬ permits ledger (.registers stream)) {stream : StreamId}
    {request : Nat} (lookup : after.pending.lookup stream = some request) :
    before.pending.lookup stream = some request := by
  induction steps with
  | refl => exact lookup
  | tail _ step inductionHypothesis =>
    exact inductionHypothesis (step.lookup_old (refused _) lookup)

end Ledger

namespace ClientConnection

variable [DecidableEq τ] {registry : MessageRegistry τ} {codec : Codec τ ν}
variable {guard : ClientConnection ν → ClientEvent ν → Prop} {limits : WriteQueueLimits}
variable {maximumStreamId : UInt64} {client : ClientConnection ν}

/-- The order is kept along every run. -/
theorem Reachable.orderly
    (reachable : Reachable registry codec guard limits maximumStreamId client) :
    client.shell.Orderly := by
  apply Reachability.Reaches.invariant_of_reached (fun client => client.shell.Orderly) ?_ ?_
    reachable
  · exact ⟨Or.inl rfl, by simp [create, shell], by simp [create, shell], by simp [create, shell],
      by simp [create, shell], by simp [create, shell], by simp [create, shell]⟩
  · intro before event after reached orderly _ stepped
    exact (before.step_turn event after (Reachable.consistent reached) stepped).orderly orderly

/-- A connection that refuses requests gains no entry. -/
theorem refusing_lookup (consistent : client.ledger.Consistent)
    (refusing : client.isShuttingDown = true) {event : ClientEvent ν} {after : ClientConnection ν}
    (stepped : client.step registry codec event = some after)
    {stream : StreamId} {request : Nat} (lookup : after.pending.lookup stream = some request) :
    client.pending.lookup stream = some request := by
  refine (client.step_steps event after consistent stepped).lookup_old ?_ lookup
  intro ledger stream brings
  cases brings with
  | registers type value response deadline stream serving allocation =>
    simp [refusing] at serving

/-- A closed connection has an empty map. -/
theorem Reachable.closed_vacant
    (reachable : Reachable registry codec guard limits maximumStreamId client) :
    client.lifecycle = .closed → client.pending.entries = [] := by
  apply Reachability.Reaches.invariant_of_reached
    (fun client => client.lifecycle = .closed → client.pending.entries = []) ?_ ?_ reachable
  · intro closed
    simp [create] at closed
  · intro before event after reached vacant _ stepped closed
    have consistent := Reachable.consistent reached
    rcases (before.step_turn event after consistent stepped).vacates closed with earlier | vacated
    · have refusing : before.isShuttingDown = true := by
        have earlier : before.lifecycle = .closed := earlier
        simp [isShuttingDown, earlier]
      cases entries : after.pending.entries with
      | nil => rfl
      | cons entry rest =>
        have present := refusing_lookup consistent refusing stepped
          (after.head_entry entry (by simp [entries]))
        exact absurd (vacant earlier) (List.ne_nil_of_mem (AList.mem_lookup_iff.mp present))
    · exact vacated

omit [DecidableEq τ] in
/-- A shutdown or the end of the read loop refuses requests from then on. -/
theorem closing_refuses (orderly : client.shell.Orderly)
    (closing : client.shutdownEntered = true ∨ client.reader = .finished) :
    client.isShuttingDown = true := by
  have inactive : client.lifecycle = .draining ∨ client.lifecycle = .closed := by
    rcases closing with entered | finished
    · exact orderly.entered entered
    · exact Or.inr (orderly.ended finished)
  rcases inactive with draining | closed
  · simp [isShuttingDown, draining]
  · simp [isShuttingDown, closed]

variable (registry codec) in
/-- Client close completeness. Once `shutdown` was entered or the read loop has
ended, no later state has an entry that is not in the map now. A closed
connection has an empty map, and without aborted waits every operation ever
started on it has a terminal result, also while its `start_request` is still
suspended. When the read loop has finished the lifecycle is closed. -/
theorem close_completeness (limits : WriteQueueLimits) (maximumStreamId : UInt64)
    (client : ClientConnection ν)
    (reachable : Reachable registry codec Reachability.unguarded limits maximumStreamId client) :
    (client.shutdownEntered = true ∨ client.reader = .finished →
      ∀ later, Reachability.Reaches (step registry codec) Reachability.unguarded client later →
      ∀ (stream : StreamId) (request : Nat), later.pending.lookup stream = some request →
        client.pending.lookup stream = some request) ∧
    (client.lifecycle = .closed → client.pending.entries = []) ∧
    (Reachable registry codec unaborted limits maximumStreamId client →
      client.lifecycle = .closed → ∀ (request : Nat) (object : PendingRequest ν),
        client.requests[request]? = some object →
        object.operation.isTerminal = true ∧ object.operation.result ≠ none) ∧
    (client.reader = .finished → client.lifecycle = .closed) := by
  refine ⟨?_, reachable.closed_vacant, ?_, reachable.orderly.ended⟩
  · intro closing later continues
    suffices closed : (later.shutdownEntered = true ∨ later.reader = .finished) ∧
        ∀ (stream : StreamId) (request : Nat), later.pending.lookup stream = some request →
          client.pending.lookup stream = some request from closed.2
    apply Reachability.Reaches.invariant_of_reached (fun later =>
      (later.shutdownEntered = true ∨ later.reader = .finished) ∧
        ∀ (stream : StreamId) (request : Nat), later.pending.lookup stream = some request →
          client.pending.lookup stream = some request) ?_ ?_ continues
    · exact ⟨closing, fun _ _ lookup => lookup⟩
    · rintro before event after reached ⟨closing, old⟩ _ stepped
      have earlier : Reachable registry codec Reachability.unguarded limits maximumStreamId before :=
        Reachability.Reaches.trans reachable reached
      refine ⟨(before.step_turn event after earlier.consistent stepped).closing closing, ?_⟩
      intro stream request lookup
      exact old stream request (refusing_lookup earlier.consistent
        (closing_refuses earlier.orderly closing) stepped lookup)
  · intro unaborted closed request object found
    have faithful := unaborted.faithful.faithful request object found
    have inactive : object.operation.state ≠ .active := by
      intro active
      have live := (faithful.undecided active).2.1
      have listed := (reachable.consistent.listed request object found live).1
      exact absurd (reachable.closed_vacant closed)
        (List.ne_nil_of_mem (AList.mem_lookup_iff.mp listed))
    refine ⟨object.operation.isTerminal_iff.mpr ?_, fun missing =>
      inactive (faithful.result_none_iff.mp missing)⟩
    rcases faithful.decided inactive with ⟨_, _, completed, -⟩ | ⟨_, failed | cancelled, -⟩
    · exact Or.inl completed
    · exact Or.inr (Or.inl failed)
    · exact Or.inr (Or.inr cancelled)

/-- A run in which `shutdown` comes before `run` while one request is in the
queue and the next is still suspended in `start_request`. -/
def closedEarly : Option (ClientConnection fun _ : Unit => UInt8) :=
  Reachability.run (step byteRegistry byteCodec) unaborted
    (create { maxFrames := 1 } 0xFFFFFFFFFFFFFFFF)
    [.startRequest () 5 () none, .startRequest () 6 () none, .shutdown false,
      .drainTick true false, .run, .startWriter, .startReader]

/-- The suspended request has its result too. -/
theorem close_completeness_early :
    ∃ client object, closedEarly = some client ∧ client.requests[1]? = some object ∧
      object.owner = .starting ∧ object.operation.isTerminal = true ∧
      client.lifecycle = .closed ∧ client.pending.entries = [] := by
  have reads : closedEarly.bind (fun client => client.requests[1]?.map fun object =>
      (client.reader, object.owner)) = some (.finished, .starting) := by
    decide +kernel
  obtain ⟨client, reached, read⟩ := Option.bind_eq_some_iff.mp reads
  obtain ⟨object, found, facts⟩ := Option.map_eq_some_iff.mp read
  obtain ⟨finished, starting⟩ : client.reader = .finished ∧ object.owner = .starting := by
    simpa using facts
  have unabortedRun := Reachability.run_reaches _ _ _ _ _ reached
  obtain ⟨-, vacant, terminal, closes⟩ := close_completeness byteRegistry byteCodec { maxFrames := 1 }
    0xFFFFFFFFFFFFFFFF client (Reachability.Reaches.weaken (fun _ _ _ => trivial) unabortedRun)
  exact ⟨client, object, reached, found, starting,
    (terminal unabortedRun (closes finished) 1 object found).1, closes finished,
    vacant (closes finished)⟩

end ClientConnection

end Closing

end Rillnet
