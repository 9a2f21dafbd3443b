import Rillnet.ClientSteps
import Rillnet.Library.Loop

/-!
# The loop of `fail_pending`

`fail_pending` takes whichever entry of the map comes first, fails its request and
relies on `cleanup_pending` to erase the entry; it goes on until the map is empty.
A round is therefore free in its choice of an entry, and nothing but the agreement
of the map with the shared objects makes the map shrink. In a state where they
agree every round erases one entry, so the loop takes one round for each entry
whatever the order, and leaves every other request and all streams alone.
-/

namespace Rillnet

section Failing

variable {τ : Type} {ν : τ → Type}

/-- A request that was failed with a status and a message, its channel closed and its
entry gone, but not its stream. -/
def PendingRequest.failedBy (request : PendingRequest ν) (status : StatusCode) (message : String) :
    PendingRequest ν :=
  request.failedWith
    { request.operation with state := .failed, result := some (.failure status message) }
    (.failure status message) false

namespace ClientConnection

/-- One round: any entry is failed. -/
def FailsOne (status : StatusCode) (message : String) (before after : ClientConnection ν) : Prop :=
  ∃ entry ∈ before.pending.entries, after = before.failRequest entry.2 status message false

variable {status : StatusCode} {message : String}

/-- What a round does to the ledger. -/
theorem FailsOne.retires {before after : ClientConnection ν}
    (fails : FailsOne status message before after) (consistent : before.ledger.Consistent)
    (failure : status ≠ .ok) :
    ∃ stream request object, before.pending.lookup stream = some request ∧
      before.requests[request]? = some object ∧ after.pending = before.pending.erase stream ∧
      before.ledger.Fails after.ledger ∧
      after.ledger = before.ledger.retire request object (object.failedBy status message) false := by
  obtain ⟨⟨stream, request⟩, member, rfl⟩ := fails
  have entry : before.pending.lookup stream = some request := AList.mem_lookup_iff.mpr member
  obtain ⟨object, found, sameStream, active, live⟩ := consistent.entry stream request entry
  obtain ⟨wins, failsWith⟩ := object.operation.fail_fails status message failure active
  have computed := before.failed_ledger (fun operation => operation.fail status message) _ false found
    (consistent.sane request object found) (before.listed_of_consistent consistent found) wins
    failsWith
  refine ⟨stream, request, object, entry, found, ?_,
    ⟨request, object, _, _, found, failsWith, computed⟩, ?_⟩
  · have pending := congrArg Ledger.pending computed
    rw [Ledger.retire, live, sameStream] at pending
    exact pending
  · refine computed.trans ?_
    rw [object.operation.fail_eq status message failure, if_pos active]
    rfl

/-- A round erases exactly one entry. -/
theorem FailsOne.shrinks {before after : ClientConnection ν}
    (fails : FailsOne status message before after) (consistent : before.ledger.Consistent)
    (failure : status ≠ .ok) :
    after.pending.entries.length + 1 = before.pending.entries.length := by
  obtain ⟨stream, request, object, entry, -, erased, -⟩ := fails.retires consistent failure
  rw [erased]
  exact length_erase_entry before.pending stream (by rw [entry]; rfl)

/-- Between two rounds: the entries left are those of the start with their requests
as they were, the requests of the others have been failed, and nothing else of the
requests and streams has changed. -/
structure FailsSome (status : StatusCode) (message : String) (start now : ClientConnection ν) :
    Prop where
  consistent : now.ledger.Consistent
  left : ∀ (stream : StreamId) (request : Nat), now.pending.lookup stream = some request →
    start.pending.lookup stream = some request ∧ now.requests[request]? = start.requests[request]?
  failed : ∀ (stream : StreamId) (request : Nat) (object : PendingRequest ν),
    start.pending.lookup stream = some request → now.pending.lookup stream = none →
    start.requests[request]? = some object →
    now.requests[request]? = some (object.failedBy status message)
  others : ∀ request : Nat, (∀ stream, start.pending.lookup stream ≠ some request) →
    now.requests[request]? = start.requests[request]?
  streamIds : now.streamIds = start.streamIds

theorem FailsSome.begin {start : ClientConnection ν} (consistent : start.ledger.Consistent) :
    FailsSome status message start start where
  consistent := consistent
  left := fun _ _ entry => ⟨entry, rfl⟩
  failed := by
    intro stream request object entry gone
    rw [entry] at gone
    simp at gone
  others := fun _ _ => rfl
  streamIds := rfl

/-- A round keeps what holds between two rounds. -/
theorem FailsSome.next {start before after : ClientConnection ν}
    (partly : FailsSome status message start before) (initial : start.ledger.Consistent)
    (failure : status ≠ .ok) (fails : FailsOne status message before after) :
    FailsSome status message start after := by
  obtain ⟨stream, request, object, entry, found, pending, change, computed⟩ :=
    fails.retires partly.consistent failure
  obtain ⟨first, same⟩ := partly.left stream request entry
  have requests : ∀ other : Nat, after.requests[other]? =
      if other = request then some (object.failedBy status message)
      else before.requests[other]? := by
    intro other
    change after.ledger.requests[other]? = _
    rw [computed]
    exact Ledger.retire_get found other
  refine ⟨change.consistent partly.consistent, ?_, ?_, ?_, ?_⟩
  · intro other name lookup
    change after.ledger.pending.lookup other = some name at lookup
    rw [computed] at lookup
    obtain ⟨listed, different⟩ := Ledger.retire_entry partly.consistent found other name lookup
    rw [requests, if_neg different]
    exact partly.left other name listed
  · intro other name victim listed gone present
    by_cases here : other = stream
    · subst here
      obtain rfl : name = request := Option.some.inj (listed.symm.trans first)
      rw [← same, found] at present
      obtain rfl := Option.some.inj present
      rw [requests, if_pos rfl]
    · have earlier : before.pending.lookup other = none := by
        rw [pending, AList.lookup_erase_ne here] at gone
        exact gone
      -- Two entries of the start never name one request: each names its own stream.
      have different : name ≠ request := by
        rintro rfl
        obtain ⟨one, foundOne, streamOne, -⟩ := initial.entry other name listed
        obtain ⟨two, foundTwo, streamTwo, -⟩ := initial.entry stream name first
        rw [foundOne] at foundTwo
        obtain rfl := Option.some.inj foundTwo
        exact here (streamOne.symm.trans streamTwo)
      rw [requests, if_neg different]
      exact partly.failed other name victim listed earlier present
  · intro other unlisted
    have different : other ≠ request := by
      rintro rfl
      exact unlisted stream first
    rw [requests, if_neg different]
    exact partly.others other unlisted
  · have kept := congrArg Ledger.streamIds computed
    exact kept.trans partly.streamIds

section Loops

variable {start : ClientConnection ν} (initial : start.ledger.Consistent) (failure : status ≠ .ok)
include initial failure

theorem rounds_failed {count : Nat} {now : ClientConnection ν}
    (rounds : Loop.Rounds (FailsOne status message) start count now) :
    FailsSome status message start now := by
  apply rounds.invariant (FailsSome status message start) (FailsSome.begin initial)
  intro before after partly fails
  exact partly.next initial failure fails

/-- Rounds taken and entries left add up to the entries there were. -/
theorem rounds_counted {count : Nat} {now : ClientConnection ν}
    (rounds : Loop.Rounds (FailsOne status message) start count now) :
    count + now.pending.entries.length = start.pending.entries.length := by
  apply rounds.counted (FailsSome status message start) (fun client => client.pending.entries.length)
    (FailsSome.begin initial)
  · intro before after partly fails
    exact partly.next initial failure fails
  · intro before after partly fails
    exact fails.shrinks partly.consistent failure

/-- The loop of the model is one of these, with a round for each entry. -/
theorem failPendingLoop_ends (fuel : Nat) (enough : start.pending.entries.length = fuel) :
    Loop.Ends (FailsOne status message) start fuel (failPendingLoop status message fuel start) := by
  induction fuel generalizing start with
  | zero =>
    refine ⟨.start, ?_⟩
    rintro after ⟨entry, member, -⟩
    rw [failPendingLoop, List.length_eq_zero_iff.mp enough] at member
    simp at member
  | succ fuel inductionHypothesis =>
    unfold failPendingLoop
    cases entries : start.pending.entries with
    | nil => simp [entries] at enough
    | cons entry rest =>
      have fails : FailsOne status message start (start.failRequest entry.2 status message false) :=
        ⟨entry, by simp [entries], rfl⟩
      have shorter := fails.shrinks initial failure
      obtain ⟨rounds, ended⟩ := inductionHypothesis
        ((FailsSome.begin initial).next initial failure fails).consistent (by omega)
      exact ⟨rounds.first fails, ended⟩

end Loops

section Runs

variable [DecidableEq τ] (registry : MessageRegistry τ) (codec : Codec τ ν)

/-- `fail_pending` ends and fails everything. In every reachable state and for every
status of a failure, whichever entry each round takes: rounds and entries left add up
to the entries there were, so the loop ends, after a round for each entry, with the
map empty. Each request of an entry is then failed with the status and the message
and its channel is closed. No stream is released and the other requests are as they
were. -/
theorem fail_pending_exhausts (limits : WriteQueueLimits) (maximumStreamId : UInt64)
    (client : ClientConnection ν)
    (reachable : Reachable registry codec Reachability.unguarded limits maximumStreamId client)
    (status : StatusCode) (message : String) (failure : status ≠ .ok) :
    (∀ (count : Nat) (now : ClientConnection ν),
      Loop.Rounds (FailsOne status message) client count now →
      count + now.pending.entries.length = client.pending.entries.length) ∧
    (∀ (count : Nat) (final : ClientConnection ν),
      Loop.Ends (FailsOne status message) client count final →
      count = client.pending.entries.length ∧ final.pending.entries = [] ∧
      (∀ (stream : StreamId) (request : Nat), client.pending.lookup stream = some request →
        ∃ object failed, client.requests[request]? = some object ∧
          final.requests[request]? = some failed ∧ failed.operation.stream = stream ∧
          failed.operation.state = .failed ∧
          failed.operation.result = some (.failure status message) ∧
          failed.channel.closed = true ∧ failed.streamReleased = object.streamReleased) ∧
      (∀ request : Nat, (∀ stream, client.pending.lookup stream ≠ some request) →
        final.requests[request]? = client.requests[request]?) ∧
      final.streamIds = client.streamIds) ∧
    Loop.Ends (FailsOne status message) client client.pending.entries.length
      (client.failPending status message) := by
  have consistent := reachable.consistent
  refine ⟨fun _ _ rounds => rounds_counted consistent failure rounds, ?_,
    failPendingLoop_ends consistent failure _ rfl⟩
  rintro count final ⟨rounds, ended⟩
  have empty : final.pending.entries = [] := by
    apply List.eq_nil_iff_forall_not_mem.mpr
    intro entry member
    exact ended _ ⟨entry, member, rfl⟩
  have counted := rounds_counted consistent failure rounds
  have done := rounds_failed consistent failure rounds
  refine ⟨by simpa [empty] using counted, empty, ?_, done.others, done.streamIds⟩
  intro stream request entry
  obtain ⟨object, found, sameStream, -, -⟩ := consistent.entry stream request entry
  have gone : final.pending.lookup stream = none := by
    apply Option.eq_none_iff_forall_ne_some.mpr
    intro other listed
    have member := AList.mem_lookup_iff.mp listed
    rw [empty] at member
    simp at member
  have failed := done.failed stream request object entry gone found
  refine ⟨object, object.failedBy status message, found, failed, sameStream, rfl, rfl, ?_, ?_⟩
  · rfl
  · exact Bool.or_false _

end Runs

end ClientConnection

end Failing

namespace ClientConnection

/-- A connection with two requests under way. -/
def twoUnderWay : Option (ClientConnection fun _ : Unit => UInt8) :=
  Reachability.run (step byteRegistry byteCodec) Reachability.unguarded
    (create {} 0xFFFFFFFFFFFFFFFF)
    [.run, .startRequest () 5 () none, .startRequest () 6 () (some 3)]

/-- Failing both takes two rounds and fails the second request as told. -/
theorem fail_pending_exhausts_two :
    ∃ client, twoUnderWay = some client ∧
      Loop.Ends (FailsOne .connectionClosed "closed") client 2
        (client.failPending .connectionClosed "closed") ∧
      ∃ failed, (client.failPending .connectionClosed "closed").requests[1]? = some failed ∧
        failed.operation.result = some (.failure .connectionClosed "closed") := by
  have reads : twoUnderWay.map (fun client =>
      (client.pending.entries.length, client.pending.lookup ⟨3⟩)) = some (2, some 1) := by
    decide +kernel
  obtain ⟨client, reached, both⟩ := Option.map_eq_some_iff.mp reads
  obtain ⟨two, entry⟩ := Prod.mk.inj both
  obtain ⟨-, ended, ends⟩ := fail_pending_exhausts byteRegistry byteCodec {} 0xFFFFFFFFFFFFFFFF client
    (Reachability.run_reaches _ _ _ _ _ reached) .connectionClosed "closed" (by decide)
  obtain ⟨-, -, fails, -, -⟩ := ended _ _ ends
  obtain ⟨-, failed, -, found, -, -, result, -, -⟩ := fails ⟨3⟩ 1 entry
  exact ⟨client, reached, two ▸ ends, failed, found, result⟩

end ClientConnection

end Rillnet
