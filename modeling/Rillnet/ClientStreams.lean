import Rillnet.ClientSteps

/-!
# Stream identifiers are conserved

An identifier in use belongs to a request that has not given its stream back, and
such a request is held by a suspended `start_request` or by the caller's handle.
One path breaks this: a request that cannot be encoded returns after its stream
was allocated and before there is an object to give the stream back.
-/

namespace Rillnet

section Streams

variable {τ : Type} {ν : τ → Type}

namespace Ledger

/-- The identifiers in use are accounted for, and none is lost. -/
structure Reserves (maximumStreamId : UInt64) (ledger : Ledger ν) : Prop where
  owned : ∀ (request : Nat) (object : PendingRequest ν), ledger.requests[request]? = some object →
    object.streamReleased = false → object.owner = .starting ∨ object.owner = .handle
  used : ∀ value ∈ ledger.streamIds.inUse, ∃ (request : Nat) (object : PendingRequest ν),
    ledger.requests[request]? = some object ∧ object.stream.value = value ∧
      object.streamReleased = false
  complete : ledger.streamIds.Complete
  initiator : ledger.streamIds.initiator = .client
  maximum : ledger.streamIds.maximum = StreamIdAllocator.lastId .client maximumStreamId

variable {maximumStreamId : UInt64}

section Writes

variable {ledger : Ledger ν}
variable (consistent : ledger.Consistent) (reserves : ledger.Reserves maximumStreamId)

include reserves in
/-- What does not touch the objects and the allocator. -/
theorem Reserves.same (other : Ledger ν) (requests : other.requests = ledger.requests)
    (streamIds : other.streamIds = ledger.streamIds) : other.Reserves maximumStreamId := by
  constructor
  · rw [requests]
    exact reserves.owned
  · rw [requests, streamIds]
    exact reserves.used
  · rw [streamIds]
    exact reserves.complete
  · rw [streamIds]
    exact reserves.initiator
  · rw [streamIds]
    exact reserves.maximum

include consistent reserves in
/-- One object is written, and its stream is given back if asked for. -/
theorem Reserves.written {request : Nat} {old new : PendingRequest ν} (release : Bool)
    (found : ledger.requests[request]? = some old) (other : Ledger ν)
    (requests : other.requests = ledger.requests.set request new)
    (streamIds : other.streamIds =
      if release && !old.streamReleased then ledger.streamIds.release old.stream
      else ledger.streamIds)
    (stream : new.stream = old.stream)
    (released : new.streamReleased = (old.streamReleased || release))
    (owner : new.streamReleased = false → new.owner = old.owner ∨ new.owner = .handle) :
    other.Reserves maximumStreamId := by
  have spec := ledger.streamIds.release_spec consistent.allocator old.stream
  have present : other.requests[request]? = some new := by
    rw [requests, getElem?_set_found _ found, if_pos rfl]
  have elsewhere : ∀ place, place ≠ request → other.requests[place]? = ledger.requests[place]? := by
    intro place different
    rw [requests, getElem?_set_found _ found, if_neg different]
  constructor
  · intro place object here unreleased
    by_cases same : place = request
    · subst same
      obtain rfl : new = object := Option.some.inj (present.symm.trans here)
      rcases owner unreleased with kept | handle
      · rw [kept]
        rw [released, Bool.or_eq_false_iff] at unreleased
        exact reserves.owned place old found unreleased.1
      · exact Or.inr handle
    · rw [elsewhere place same] at here
      exact reserves.owned place object here unreleased
  · intro value used
    rw [streamIds] at used
    split at used
    · rw [spec.2.2.2.1] at used
      obtain ⟨different, before⟩ := Finset.mem_erase.mp used
      obtain ⟨place, object, here, sameValue, unreleased⟩ := reserves.used value before
      have other_place : place ≠ request := by
        rintro rfl
        obtain rfl : old = object := Option.some.inj (found.symm.trans here)
        exact different sameValue.symm
      exact ⟨place, object, (elsewhere place other_place).trans here, sameValue, unreleased⟩
    · rename_i kept
      obtain ⟨place, object, here, sameValue, unreleased⟩ := reserves.used value used
      by_cases same : place = request
      · subst same
        obtain rfl : old = object := Option.some.inj (found.symm.trans here)
        refine ⟨place, new, present, stream ▸ sameValue, ?_⟩
        rw [released, unreleased]
        simpa [unreleased] using kept
      · exact ⟨place, object, (elsewhere place same).trans here, sameValue, unreleased⟩
  · rw [streamIds]
    split
    · exact ledger.streamIds.release_complete reserves.complete old.stream
    · exact reserves.complete
  · rw [streamIds]
    split
    · exact spec.2.1.trans reserves.initiator
    · exact reserves.initiator
  · rw [streamIds]
    split
    · exact spec.2.2.1.trans reserves.maximum
    · exact reserves.maximum

include consistent reserves in
/-- A registered request accounts for the identifier it was given. -/
theorem Reserves.register (stream : StreamId) (response : τ) (deadline : Option Deadline)
    (allocation : ledger.streamIds.allocate.2 = .success stream) :
    (ledger.register stream response deadline).Reserves maximumStreamId := by
  obtain ⟨-, initiator, maximum, -⟩ := ledger.streamIds.allocate_spec consistent.allocator
  obtain ⟨-, -, inUse⟩ := ledger.streamIds.allocate_success consistent.allocator allocation
  constructor
  · intro request object present unreleased
    rcases getElem?_append_singleton present with before | ⟨-, rfl⟩
    · exact reserves.owned request object before unreleased
    · exact Or.inl rfl
  · intro value used
    change value ∈ ledger.streamIds.allocate.1.inUse at used
    rw [inUse] at used
    rcases Finset.mem_insert.mp used with rfl | before
    · exact ⟨ledger.requests.length, PendingRequest.create stream response deadline,
        List.getElem?_concat_length, rfl, rfl⟩
    · obtain ⟨request, object, present, same, unreleased⟩ := reserves.used value before
      exact ⟨request, object, getElem?_append_found present, same, unreleased⟩
  · exact ledger.streamIds.allocate_complete consistent.allocator reserves.complete
  · exact initiator.trans reserves.initiator
  · exact maximum.trans reserves.maximum

end Writes

section Steps

variable [DecidableEq τ] {registry : MessageRegistry τ} {codec : Codec τ ν}
variable {permits : Ledger ν → Change → Prop} {before after : Ledger ν}

/-- Every change but a leak keeps the identifiers accounted for. -/
theorem Step.keepsReserved (step : Step registry codec permits before after)
    (unleaked : ¬ permits before .leaks) (consistent : before.Consistent)
    (reserves : before.Reserves maximumStreamId) : after.Reserves maximumStreamId := by
  cases step with
  | allocated kept =>
    have exhausted := kept.resolve_right unleaked
    obtain ⟨-, initiator, maximum, ⟨other, success, -⟩ | ⟨-, inUse, -⟩⟩ :=
      before.streamIds.allocate_spec consistent.allocator
    · rw [exhausted] at success
      simp [StreamIdAllocation.success, StreamIdAllocation.exhausted] at success
    · constructor
      · exact reserves.owned
      · rw [inUse]
        exact reserves.used
      · exact before.streamIds.allocate_complete consistent.allocator reserves.complete
      · exact initiator.trans reserves.initiator
      · exact maximum.trans reserves.maximum
  | registered stream response deadline permitted allocation =>
    exact reserves.register consistent stream response deadline allocation
  | suspended request object frame found starting framed => exact reserves.same _ rfl rfl
  | admitted request object frame permitted found starting framed =>
    refine reserves.written consistent false found _ rfl rfl
      (PendingRequest.startTimer_stream _) ?_ ?_
    · exact (PendingRequest.startTimer_streamReleased _).trans (Bool.or_false _).symm
    · exact fun _ => Or.inr (PendingRequest.startTimer_owner _)
  | refused request object operation status message found starting fails =>
    exact reserves.written consistent true found _ rfl rfl fails.stream rfl
      (by simp [refusedObject, PendingRequest.failedWith])
  | refusedLate request object status message found starting inactive =>
    exact reserves.written consistent true found _ rfl rfl rfl rfl (by simp [refusedObject])
  | touched request object new found touch =>
    obtain ⟨-, operation, -, released, -⟩ := (consistent.sane request object found).touch touch
    refine reserves.written consistent false found _ rfl rfl (congrArg Operation.stream operation)
      (released.trans (Bool.or_false _).symm) ?_
    intro unreleased
    cases touch with
    | timer | asyncWait | abortWait => exact Or.inl rfl
    | released handle freed => simp [freed] at unreleased
  | abandoned request object operation result release offered permitted found fails kind =>
    exact reserves.written consistent release found _ rfl rfl fails.stream rfl fun _ => Or.inl rfl
  | failed after permitted fails =>
    obtain ⟨request, object, operation, result, found, fails, rfl⟩ := fails
    exact reserves.written consistent false found _ rfl rfl fails.stream rfl fun _ => Or.inl rfl
  | dropped request object found handle inactive =>
    exact reserves.written consistent true found _ rfl rfl rfl rfl fun _ => Or.inl rfl
  | returned request object wait posted permitted found member =>
    exact reserves.written consistent true found _ rfl rfl rfl rfl fun _ => Or.inl rfl
  | completed request object frame permitted found entry active response open_ plain =>
    exact reserves.written consistent true found _ rfl rfl
      (PendingRequest.completedWith_stream object _ frame)
      (PendingRequest.completedWith_streamReleased object _ frame)
      fun _ => Or.inl (PendingRequest.completedWith_owner object _ frame)
  | rejected request object operation result release offered frame permitted found entry fails kind
      open_ silent =>
    exact reserves.written consistent release found _ rfl rfl fails.stream rfl fun _ => Or.inl rfl
  | accused frame violation permitted => exact reserves.same _ rfl rfl
  | charged violation permitted => exact reserves.same _ rfl rfl

theorem Steps.keepsReserved (steps : Steps registry codec permits before after)
    (unleaked : ∀ ledger, ¬ permits ledger .leaks) (consistent : before.Consistent)
    (reserves : before.Reserves maximumStreamId) : after.Reserves maximumStreamId := by
  induction steps with
  | refl => exact reserves
  | tail earlier step inductionHypothesis =>
    exact step.keepsReserved (unleaked _) (Steps.consistent earlier consistent) inductionHypothesis

end Steps

end Ledger

namespace ClientConnection

variable [DecidableEq τ] (registry : MessageRegistry τ) (codec : Codec τ ν)

/-- A request that is given a stream can be encoded. -/
def encodes (client : ClientConnection ν) : ClientEvent ν → Bool
  | .startRequest type value _ _ =>
    client.isShuttingDown || client.streamIds.allocate.2.stream.all fun stream =>
      (encodeMessage registry codec type value stream).frame.isSome
  | _ => true

variable {registry codec}

theorem encodes_unleaked {client after : ClientConnection ν} {event : ClientEvent ν}
    (encodes : client.encodes registry codec event = true) (ledger : Ledger ν) :
    ¬ client.Brings registry codec after event ledger .leaks := by
  rintro ⟨⟩
  rename_i type value response deadline stream serving unencodable allocation
  simp [ClientConnection.encodes, serving, allocation, StreamIdAllocation.success, unencodable]
    at encodes

theorem Reachable.reserves {limits : WriteQueueLimits} {maximumStreamId : UInt64}
    {client : ClientConnection ν}
    (reachable : Reachable registry codec
      (fun client event => client.encodes registry codec event = true) limits maximumStreamId
      client) :
    client.ledger.Reserves maximumStreamId := by
  apply Reachability.Reaches.invariant_of_reached
    (fun client => client.ledger.Reserves maximumStreamId) ?_ ?_ reachable
  · exact ⟨by simp [create, ledger], by simp [create, ledger, StreamIdAllocator.create],
      StreamIdAllocator.create_complete .client maximumStreamId, rfl, rfl⟩
  · intro before event after reached reserves allowed stepped
    have consistent := Reachable.consistent reached
    exact (before.step_steps event after consistent stepped).keepsReserved
      (encodes_unleaked allowed) consistent reserves

section Refusals

variable (client : ClientConnection ν) (request : Nat)

omit [DecidableEq τ] in
theorem finishOperation_refusals (call : Operation StreamId → Operation StreamId × Bool) :
    (client.finishOperation request call).1.refusals = client.refusals := by
  unfold finishOperation
  split <;> rfl

omit [DecidableEq τ] in
theorem cleanupPending_refusals (release : Bool) :
    (client.cleanupPending request release).refusals = client.refusals := by
  unfold cleanupPending
  split
  · rfl
  · dsimp only
    split <;> split <;> rfl

omit [DecidableEq τ] in
/-- Once the request is registered, nothing is refused at once any more. -/
theorem afterOffer_refusals (offered : WriteQueue × Option WriteResult) :
    (client.afterOffer request offered).refusals = client.refusals := by
  unfold afterOffer
  split
  · rfl
  · unfold finishStart
    split
    · rfl
    · change ((finishOperation _ request _).1.modifyRequest request _ |>.cleanupPending
        request true).refusals = _
      rw [cleanupPending_refusals]
      exact finishOperation_refusals _ _ _

end Refusals

/-- A `start_request` that fails at once leaves no stream reserved, if its request
could be encoded. -/
theorem startRequest_refused {client : ClientConnection ν} (consistent : client.ledger.Consistent)
    (type : τ) (value : ν type) (response : τ) (deadline : Option Deadline)
    (encodes : client.encodes registry codec (.startRequest type value response deadline) = true)
    (refused : (client.startRequest registry codec type value response deadline).refusals ≠
      client.refusals) :
    (client.startRequest registry codec type value response deadline).streamIds.inUse =
      client.streamIds.inUse := by
  unfold startRequest at refused ⊢
  split at refused
  · rename_i draining
    rw [if_pos draining]
  · rename_i serving
    rw [if_neg serving]
    obtain ⟨-, -, -, ⟨stream, success, -⟩ | ⟨exhausted, inUse, -⟩⟩ :=
      client.streamIds.allocate_spec consistent.allocator
    · have encoded : (encodeMessage registry codec type value stream).frame.isSome = true := by
        simpa [ClientConnection.encodes, serving, success, StreamIdAllocation.success] using encodes
      obtain ⟨frame, sends⟩ := Option.isSome_iff_exists.mp encoded
      refine absurd ?_ refused
      dsimp only
      rw [success]
      simp only [StreamIdAllocation.success, sends]
      rw [afterOffer_refusals]
      unfold emplacePending
      split <;> rfl
    · dsimp only
      rw [exhausted]
      exact inUse

variable (registry codec) in
/-- Stream identifiers are conserved. If every request that is given a stream can be
encoded, the identifiers in use are those of the requests that have not given their
stream back, each held by a suspended `start_request` or a live handle. A
`start_request` that failed holds none, and once nobody holds a request every
identifier up to the maximum can be handed out again. -/
theorem stream_ids_conserved (limits : WriteQueueLimits) (maximumStreamId : UInt64)
    (client : ClientConnection ν)
    (reachable : Reachable registry codec
      (fun client event => client.encodes registry codec event = true) limits maximumStreamId
      client) :
    (∀ value, value ∈ client.streamIds.inUse ↔
      ∃ (request : Nat) (object : PendingRequest ν), client.requests[request]? = some object ∧
        object.operation.stream.value = value ∧ object.streamReleased = false ∧
        (object.owner = .starting ∨ object.owner = .handle)) ∧
    (∀ (request : Nat) (object : PendingRequest ν) (status : StatusCode) (message : String),
      client.requests[request]? = some object → object.owner = .refused status message →
      object.streamReleased = true) ∧
    (∀ (type : τ) (value : ν type) (response : τ) (deadline : Option Deadline)
        (after : ClientConnection ν),
      client.encodes registry codec (.startRequest type value response deadline) = true →
      client.step registry codec (.startRequest type value response deadline) = some after →
      after.refusals ≠ client.refusals → after.streamIds.inUse = client.streamIds.inUse) ∧
    ((∀ object ∈ client.requests, object.owner ≠ .starting ∧ object.owner ≠ .handle) →
      ∀ value, value % 2 = 1 → value ≤ maximumStreamId →
      ∃ count, some ⟨value⟩ ∈ client.streamIds.issue count ∧
        none ∉ client.streamIds.issue count) := by
  have consistent := Reachable.consistent reachable
  have reserves := Reachable.reserves reachable
  refine ⟨?_, ?_, ?_, ?_⟩
  · intro value
    constructor
    · intro used
      obtain ⟨request, object, found, same, unreleased⟩ := reserves.used value used
      exact ⟨request, object, found, same, unreleased,
        reserves.owned request object found unreleased⟩
    · rintro ⟨request, object, found, rfl, unreleased, -⟩
      exact consistent.inUse request object found unreleased
  · intro request object status message found refused
    by_contra kept
    rcases reserves.owned request object found (by simpa using kept) with owner | owner
    · simp [refused] at owner
    · simp [refused] at owner
  · intro type value response deadline after encodes stepped refused
    cases client.step_advances stepped with
    | acts _ acts =>
      cases acts
      exact startRequest_refused consistent type value response deadline encodes refused
  · intro nobody value odd bounded
    have vacant : value ∉ client.streamIds.inUse := by
      intro used
      obtain ⟨request, object, found, -, unreleased⟩ := reserves.used value used
      have owner := nobody object (List.mem_of_getElem? found)
      rcases reserves.owned request object found unreleased with starting | handle
      · exact owner.1 starting
      · exact owner.2 handle
    apply client.streamIds.issue_reaches consistent.allocator reserves.complete ?_ vacant
    refine ⟨?_, ?_, ?_⟩
    · rintro rfl
      simp at odd
    · have maximum : client.streamIds.maximum = _ := reserves.maximum
      rw [maximum]
      exact StreamIdAllocator.le_lastId odd bounded
    · have initiator : client.streamIds.initiator = .client := reserves.initiator
      rw [initiator]
      exact odd

end ClientConnection

end Streams

/-- A registry without types. -/
def emptyRegistry : MessageRegistry Unit := {}

/-- A request that cannot be encoded takes the only stream of the connection with it:
the stream is in use, no request holds it, and it is never handed out again. -/
theorem stream_ids_conserved_fails :
    ∃ client : ClientConnection fun _ : Unit => UInt8,
      ClientConnection.Reachable emptyRegistry byteCodec Reachability.unguarded {} 1 client ∧
      client.requests.length = 0 ∧ 1 ∈ client.streamIds.inUse ∧
      client.streamIds.allocate.2 = .exhausted := by
  have reads : (Reachability.run (ClientConnection.step emptyRegistry byteCodec)
      Reachability.unguarded (ClientConnection.create {} 1) [.startRequest () 5 () none]).map
        (fun client => (client.requests.length, decide (1 ∈ client.streamIds.inUse),
          client.streamIds.allocate.2)) = some (0, true, .exhausted) := by
    decide +kernel
  obtain ⟨client, reached, facts⟩ := Option.map_eq_some_iff.mp reads
  obtain ⟨none, used, exhausted⟩ : client.requests.length = 0 ∧ 1 ∈ client.streamIds.inUse ∧
      client.streamIds.allocate.2 = .exhausted := by
    simpa only [Prod.mk.injEq, decide_eq_true_eq] using facts
  exact ⟨client, Reachability.run_reaches _ _ _ _ _ reached, none, used, exhausted⟩

/-- The only stream of a connection is used and can be used again. -/
theorem stream_ids_conserved_again :
    ∃ client, Reachability.run (ClientConnection.step byteRegistry byteCodec)
        (fun client event => client.encodes byteRegistry byteCodec event = true)
        (ClientConnection.create {} 1) [.startRequest () 5 () none, .destroyHandle 0] =
          some client ∧
      client.requests.length = 1 ∧
      ∃ count, some ⟨1⟩ ∈ client.streamIds.issue count ∧
        none ∉ client.streamIds.issue count := by
  have reads : (Reachability.run (ClientConnection.step byteRegistry byteCodec)
      (fun client event => client.encodes byteRegistry byteCodec event = true)
      (ClientConnection.create {} 1) [.startRequest () 5 () none, .destroyHandle 0]).map
        (fun client => (client.requests.length, client.requests.all fun object =>
          decide (object.owner ≠ .starting ∧ object.owner ≠ .handle))) = some (1, true) := by
    decide +kernel
  obtain ⟨client, reached, facts⟩ := Option.map_eq_some_iff.mp reads
  obtain ⟨one, nobody⟩ := Prod.mk.inj facts
  obtain ⟨-, -, -, again⟩ := ClientConnection.stream_ids_conserved byteRegistry byteCodec {} 1 client
    (Reachability.run_reaches _ _ _ _ _ reached)
  exact ⟨client, reached, one, again (by simpa using nobody) 1 (by decide) (by decide)⟩

end Rillnet
