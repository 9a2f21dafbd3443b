import Rillnet.ConnectionQueues
import Rillnet.Correlation

/-!
# The values of a client

A request object stands between two values: the one `start_request` encoded into the
frame that was enqueued, and the one a wait decodes from the frame that was delivered.
Neither is made up on the way. What a wait returns was decoded from a delivered frame, and
the frame accepted at the position an object records is the encoding of the value that the
object was made for. Nor is a request frame accepted for anything but an object.
-/

namespace Rillnet

namespace WriteQueue

section Offers

variable {before after : WriteQueue} {producer : Nat} {frame : Frame} {result : Option WriteResult}
variable (offered : Offered before after producer frame result)
include offered

/-- A producer that is suspended after an offer was so before, or holds the frame offered. -/
theorem Offered.holds {other : Nat} {held : Frame} (holds : after.held other = some held) :
    before.held other = some held ∨ other = producer ∧ held = frame := by
  cases offered with
  | accepted history written kept => exact Or.inl (kept ▸ holds)
  | refused result failed same => exact Or.inl (same ▸ holds)
  | suspended history written kept =>
    rw [kept] at holds
    by_cases same : other = producer
    · subst same
      rw [Function.update_self] at holds
      exact Or.inr ⟨rfl, (Option.some.inj holds).symm⟩
    · rw [Function.update_of_ne same] at holds
      exact Or.inl holds

/-- Nothing but the frame offered is newly accepted. -/
theorem Offered.accepts {position : Nat} {other : Frame}
    (accepted : after.accepted[position]? = some other) (late : before.accepted.length ≤ position) :
    other = frame := by
  have old : before.accepted[position]? = none := List.getElem?_eq_none late
  cases offered with
  | accepted history written kept =>
    rw [history] at accepted
    rcases getElem?_append_singleton accepted with earlier | ⟨-, rfl⟩
    · simp [old] at earlier
    · rfl
  | refused result failed same => simp [same, old] at accepted
  | suspended history written kept => simp [history, old] at accepted

end Offers

/-- A suspended producer holds a frame that it enqueued. -/
theorem undriven_held {enqueues known : Nat → Frame → Prop}
    (knows : ∀ producer frame, enqueues producer frame → known producer frame) :
    Undriven enqueues fun queue =>
      ∀ producer frame, queue.held producer = some frame → known producer frame where
  tried := by
    intro queue frame property other held holds
    apply property other held
    rcases queue.tryEnqueueFrame_effect frame with ⟨-, -, -, producers⟩ | ⟨-, same⟩
    · have kept : (queue.tryEnqueue frame).1.held = queue.held := by
        unfold WriteQueue.held tryEnqueue
        rw [producers]
      exact kept ▸ holds
    · rw [tryEnqueue, same] at holds
      exact holds
  enqueued := by
    intro queue producer frame enqueues property other held holds
    rcases (queue.enqueue_effect producer frame).holds holds with before | ⟨rfl, rfl⟩
    · exact property other held before
    · exact knows _ _ enqueues
  resumed := by
    intro queue producer after result resumed property other held holds
    obtain ⟨frame, waiting, offered⟩ := queue.resumeEnqueue_effect producer after result resumed
    rcases offered.holds holds with before | ⟨rfl, rfl⟩
    · rw [leave_held] at before
      by_cases same : other = producer
      · simp [same] at before
      · rw [Function.update_of_ne same] at before
        exact property other held before
    · exact property _ _ waiting
  aborted := by
    intro queue producer message after aborted property
    have kept := (queue.abortEnqueue_kept producer message after aborted).1.held
    exact kept ▸ property
  closed := by
    intro queue property
    have kept := queue.close_kept.held
    exact kept ▸ property
  started := by
    intro queue after started property
    have kept := (queue.run_effect after started).1.held
    exact kept ▸ property

end WriteQueue

section Clients

variable {τ : Type} [DecidableEq τ] {ν : τ → Type} (registry : MessageRegistry τ) (codec : Codec τ ν)

namespace PendingRequest

/-- What lies in the channel, what was posted to a wait and what a wait decoded was
delivered. -/
structure Sourced (request : PendingRequest ν) : Prop where
  stored : ∀ frame ∈ request.channel.buffer, ∃ position, (position, frame) ∈ request.delivered
  posted : ∀ wait frame, (wait, some frame) ∈ request.resumed →
    ∃ position, (position, frame) ∈ request.delivered
  decoded : ∀ wait result, (wait, result) ∈ request.returned → result.value ≠ none →
    ∃ position frame, (position, frame) ∈ request.delivered ∧
      result = decodeMessage registry codec request.response frame

section Preservation

variable {registry codec} {request : PendingRequest ν}

theorem create_sourced (stream : StreamId) (response : τ) (deadline : Option Deadline) :
    (create stream response deadline : PendingRequest ν).Sourced registry codec :=
  ⟨by simp [create, Channel.fresh], by simp [create], fun _ _ member => absurd member List.not_mem_nil⟩

theorem Sourced.closeChannel (sourced : request.Sourced registry codec) :
    request.closeChannel.Sourced registry codec where
  stored := sourced.stored
  posted := by
    intro wait frame member
    rcases List.mem_append.mp member with before | released
    · exact sourced.posted wait frame before
    · simp at released
  decoded := sourced.decoded

theorem Sourced.startTimer (sourced : request.Sourced registry codec) :
    request.startTimer.Sourced registry codec := by
  unfold PendingRequest.startTimer
  split
  · exact sourced
  · exact ⟨sourced.stored, sourced.posted, sourced.decoded⟩

/-- A frame sent into the channel is delivered in the same step. -/
theorem Sourced.trySend (sourced : request.Sourced registry codec) (position : Nat) (frame : Frame) :
    (request.trySend position frame).Sourced registry codec := by
  have later : ∀ {other : Frame}, (∃ place, (place, other) ∈ request.delivered) →
      ∃ place, (place, other) ∈ request.delivered ++ [(position, frame)] :=
    fun ⟨place, member⟩ => ⟨place, List.mem_append_left _ member⟩
  have last : ∃ place, (place, frame) ∈ request.delivered ++ [(position, frame)] :=
    ⟨position, by simp⟩
  unfold PendingRequest.trySend
  split
  · exact sourced
  · rename_i channel receiver sent
    refine ⟨?_, ?_, ?_⟩
    · intro other member
      cases receiver with
      | none =>
        have buffer := (request.channel.trySend_buffered channel frame sent).2.2.2.1
        rcases List.mem_append.mp (buffer ▸ member) with before | new
        · exact later (sourced.stored other before)
        · rw [List.mem_singleton.mp new]
          exact last
      | some wait =>
        have buffer := (request.channel.trySend_handed channel frame wait sent).2.2.2.1
        simp [buffer] at member
    · intro wait other member
      rcases List.mem_append.mp member with before | new
      · exact later (sourced.posted wait other before)
      · obtain ⟨receiver, -, same⟩ := List.mem_map.mp new
        obtain rfl : frame = other := by simpa using congrArg Prod.snd same
        exact last
    · intro wait result member valued
      obtain ⟨place, other, delivered, decoded⟩ := sourced.decoded wait result member valued
      exact ⟨place, other, List.mem_append_left _ delivered, decoded⟩

/-- A call of `async_wait` takes a frame from the channel, if there is one. -/
theorem Sourced.asyncWait (sourced : request.Sourced registry codec) :
    request.asyncWait.Sourced registry codec := by
  cases received : request.channel.receive request.waits with
  | mk channel reception =>
    cases reception with
    | suspended =>
      have vacant := (request.channel.receive_suspended channel request.waits received).2.2.1
      refine ⟨?_, ?_, ?_⟩
      · simp [PendingRequest.asyncWait, received, vacant]
      · simpa [PendingRequest.asyncWait, received] using sourced.posted
      · exact sourced.decoded
    | message frame =>
      have buffer := (request.channel.receive_message channel frame request.waits received).1
      refine ⟨?_, ?_, ?_⟩
      · intro other member
        rw [PendingRequest.asyncWait, received] at member ⊢
        exact sourced.stored other (buffer ▸ List.mem_cons_of_mem _ member)
      · intro wait other member
        rw [PendingRequest.asyncWait, received] at member ⊢
        rcases List.mem_append.mp member with before | new
        · exact sourced.posted wait other before
        · obtain ⟨-, rfl⟩ : wait = request.waits ∧ other = frame := by simpa using new
          exact sourced.stored other (buffer ▸ List.mem_cons_self)
      · exact sourced.decoded
    | closed =>
      have same := (request.channel.receive_closed channel request.waits received).1
      refine ⟨?_, ?_, ?_⟩
      · simpa [PendingRequest.asyncWait, received, same] using sourced.stored
      · intro wait other member
        rw [PendingRequest.asyncWait, received] at member ⊢
        rcases List.mem_append.mp member with before | new
        · exact sourced.posted wait other before
        · simp at new
      · exact sourced.decoded

/-- A wait that was resumed with a frame decodes it, and has no value otherwise. -/
theorem Sourced.returned (sourced : request.Sourced registry codec) (wait : Nat)
    (posted : Option Frame) (member : (wait, posted) ∈ request.resumed) :
    (Ledger.returnedObject registry codec request wait posted).Sourced registry codec := by
  refine ⟨sourced.stored, ?_, ?_⟩
  · intro other frame still
    exact sourced.posted other frame (List.mem_of_mem_erase still)
  · intro other result reported valued
    rcases List.mem_append.mp reported with before | new
    · exact sourced.decoded other result before valued
    · obtain ⟨rfl, rfl⟩ := Prod.mk.inj (List.mem_singleton.mp new)
      cases posted with
      | some frame =>
        obtain ⟨position, delivered⟩ := sourced.posted other frame member
        exact ⟨position, frame, delivered, rfl⟩
      | none =>
        unfold waitOutcome at valued
        dsimp only at valued
        split at valued
        · exact absurd rfl valued
        · exact absurd rfl valued

/-- However an object goes on, its values come from delivered frames. -/
theorem Evolves.sourced {aborts : Prop} {answers : Nat → Frame → Prop} {new : PendingRequest ν}
    (evolves : request.Evolves registry codec aborts answers new)
    (sourced : request.Sourced registry codec) : new.Sourced registry codec := by
  have failed : ∀ (operation : Operation StreamId) (result : OperationResult) (release : Bool),
      (request.failedWith operation result release).Sourced registry codec := by
    intro operation result release
    have closed := sourced.closeChannel
    exact ⟨closed.stored, closed.posted, closed.decoded⟩
  cases evolves with
  | same => exact sourced
  | started starting index =>
    exact Sourced.startTimer ⟨sourced.stored, sourced.posted, sourced.decoded⟩
  | refused starting operation status message fails =>
    have closed := failed operation (.failure status message) true
    exact ⟨closed.stored, closed.posted, closed.decoded⟩
  | refusedLate starting inactive status message =>
    have closed := sourced.closeChannel
    exact ⟨closed.stored, closed.posted, closed.decoded⟩
  | touched new touch =>
    cases touch with
    | timer timer started => exact ⟨sourced.stored, sourced.posted, sourced.decoded⟩
    | asyncWait handle => exact sourced.asyncWait
    | abortWait allowed wait waiting =>
      refine ⟨sourced.stored, ?_, sourced.decoded⟩
      intro other frame member
      rcases List.mem_append.mp member with before | aborted
      · exact sourced.posted other frame before
      · simp at aborted
    | released handle => exact ⟨sourced.stored, sourced.posted, sourced.decoded⟩
  | failed operation result release fails => exact failed operation result release
  | dropped inactive => exact ⟨sourced.stored, sourced.posted, sourced.decoded⟩
  | returned wait posted member => exact sourced.returned wait posted member
  | completed active position frame answered =>
    have completed : PendingRequest.Sourced registry codec { request with
        operation := request.completedOperation
        settled := request.settled ++ [OperationResult.success "response received"]
        timer := request.timer.cancel } := ⟨sourced.stored, sourced.posted, sourced.decoded⟩
    have sent := completed.trySend position frame
    exact ⟨sent.stored, sent.posted, sent.decoded⟩

end Preservation

end PendingRequest

namespace Ledger

variable {registry codec} {permits : Ledger ν → Change → Prop} {before after : Ledger ν}

/-- An object is given an index where its frame is accepted. -/
theorem Step.indexed (step : Step registry codec permits before after) {request position : Nat}
    {new : PendingRequest ν} (found : after.requests[request]? = some new)
    (index : new.requestIndex = some position) :
    (∃ object, before.requests[request]? = some object ∧ object.requestIndex = some position ∧
      new.stream = object.stream) ∨
    permits before (.admits request) ∧ new.owner ≠ .starting ∧ position = before.accepted.length ∧
      ∃ frame, after.accepted = before.accepted ++ [frame] ∧ RequestFrame frame new.stream := by
  have moved : ∀ (place : Nat) (old other : PendingRequest ν), before.requests[place]? = some old →
      after.requests = before.requests.set place other →
      other.requestIndex = old.requestIndex → other.stream = old.stream →
      ∃ object, before.requests[request]? = some object ∧ object.requestIndex = some position ∧
        new.stream = object.stream := by
    intro place old other present written same stream
    rw [written] at found
    rcases getElem?_set_cases present found with ⟨rfl, rfl⟩ | ⟨-, kept⟩
    · exact ⟨old, present, same.symm.trans index, stream⟩
    · exact ⟨new, kept, index, rfl⟩
  cases step with
  | allocated | suspended | accused | charged => exact Or.inl ⟨new, found, index, rfl⟩
  | registered stream response deadline permitted allocation =>
    rcases getElem?_append_singleton found with kept | ⟨-, rfl⟩
    · exact Or.inl ⟨new, kept, index, rfl⟩
    · simp [PendingRequest.create] at index
  | admitted place object frame permitted present starting framed =>
    rcases getElem?_set_cases present found with ⟨rfl, rfl⟩ | ⟨-, kept⟩
    · have given : (object.started before.accepted.length).requestIndex =
          some before.accepted.length := by
        unfold PendingRequest.started PendingRequest.startTimer
        split <;> rfl
      refine Or.inr ⟨permitted, by simp [PendingRequest.started],
        Option.some.inj (index.symm.trans given), frame, rfl, ?_⟩
      rw [PendingRequest.started, PendingRequest.startTimer_stream]
      exact framed
    · exact Or.inl ⟨new, kept, index, rfl⟩
  | refused place object operation status message present starting fails =>
    exact Or.inl (moved place object _ present rfl rfl fails.stream)
  | refusedLate place object status message present starting inactive =>
    exact Or.inl (moved place object _ present rfl rfl rfl)
  | touched place object other present touch =>
    refine Or.inl (moved place object other present rfl ?_ ?_)
    · cases touch <;> rfl
    · cases touch <;> rfl
  | abandoned place object operation result release offered permitted present fails kind =>
    exact Or.inl (moved place object _ present rfl rfl fails.stream)
  | failed after permitted fails =>
    obtain ⟨place, object, operation, result, present, fails, rfl⟩ := fails
    exact Or.inl (moved place object _ present rfl rfl fails.stream)
  | dropped place object present handle inactive =>
    exact Or.inl (moved place object _ present rfl rfl rfl)
  | returned place object wait posted permitted present member =>
    exact Or.inl (moved place object _ present rfl rfl rfl)
  | completed place object frame permitted present entry active response open_ plain =>
    refine Or.inl (moved place object _ present rfl ?_ ?_)
    · unfold PendingRequest.completedWith PendingRequest.trySend
      split <;> rfl
    · exact PendingRequest.completedWith_stream object _ frame
  | rejected place object operation result release offered frame permitted present entry fails kind
      open_ silent =>
    exact Or.inl (moved place object _ present rfl rfl fails.stream)

/-- What was accepted stays accepted. -/
theorem Step.accepts (step : Step registry codec permits before after) :
    before.accepted <+: after.accepted := by
  rcases step.accepted with same | ⟨request, object, frame, -, -, -, rfl⟩ | ⟨request, object, -, joined⟩
  · exact same ▸ List.prefix_rfl
  · exact List.prefix_append _ _
  · exact joined ▸ List.prefix_append _ _

theorem Steps.accepts (steps : Steps registry codec permits before after) :
    before.accepted <+: after.accepted := by
  induction steps with
  | refl => exact List.prefix_rfl
  | tail _ step inductionHypothesis => exact inductionHypothesis.trans step.accepts

/-- The indexes that a sequence of changes gives out are those of newly accepted frames. -/
theorem Steps.indexed (steps : Steps registry codec permits before after) {request position : Nat}
    {new : PendingRequest ν} (found : after.requests[request]? = some new)
    (index : new.requestIndex = some position) :
    (∃ object, before.requests[request]? = some object ∧ object.requestIndex = some position) ∨
    (∃ ledger, permits ledger (.admits request)) ∧ before.accepted.length ≤ position := by
  induction steps generalizing new with
  | refl => exact Or.inl ⟨new, found, index⟩
  | tail earlier step inductionHypothesis =>
    rcases step.indexed found index with ⟨object, present, same, -⟩ | ⟨permitted, -, rfl, -⟩
    · exact inductionHypothesis present same
    · exact Or.inr ⟨⟨_, permitted⟩, (Steps.accepts earlier).length_le⟩

/-- Every index of an object is the position of its frame, and no request frame is
without an object. -/
structure Indexed (ledger : Ledger ν) : Prop where
  unsent : ∀ (request : Nat) (object : PendingRequest ν), ledger.requests[request]? = some object →
    object.owner = .starting → object.requestIndex = none
  framed : ∀ (request : Nat) (object : PendingRequest ν) (position : Nat),
    ledger.requests[request]? = some object → object.requestIndex = some position →
    ∃ frame, ledger.accepted[position]? = some frame ∧ RequestFrame frame object.stream
  covered : ∀ (position : Nat) (frame : Frame), ledger.accepted[position]? = some frame →
    hasFlag frame.header.flags .cancel = false →
    ∃ (request : Nat) (object : PendingRequest ν), ledger.requests[request]? = some object ∧
      object.requestIndex = some position

/-- An object that has started keeps its index. -/
theorem Step.keepsIndex (step : Step registry codec permits before after) {request : Nat}
    {object : PendingRequest ν} (found : before.requests[request]? = some object)
    (sent : object.owner ≠ .starting) :
    ∃ new, after.requests[request]? = some new ∧ new.requestIndex = object.requestIndex := by
  obtain ⟨new, reread, evolves⟩ := step.evolves found
  refine ⟨new, reread, ?_⟩
  cases evolves with
  | same | failed | dropped | returned => rfl
  | started starting | refused starting | refusedLate starting => exact absurd starting sent
  | touched new touch => cases touch <;> rfl
  | completed active position frame answered =>
    unfold PendingRequest.completedWith PendingRequest.trySend
    split <;> rfl

theorem Step.keepsIndexed (step : Step registry codec permits before after)
    (indexed : before.Indexed) : after.Indexed where
  unsent := by
    intro request new found starting
    cases index : new.requestIndex with
    | none => rfl
    | some position =>
      rcases step.indexed found index with ⟨object, present, same, -⟩ | ⟨-, started, -⟩
      · obtain ⟨other, reread, evolves⟩ := step.evolves present
        obtain rfl : new = other := Option.some.inj (found.symm.trans reread)
        have vacant := indexed.unsent request object present (evolves.kept.1 starting)
        simp [same] at vacant
      · exact absurd starting started
  framed := by
    intro request new position found index
    rcases step.indexed found index with
      ⟨object, present, same, stream⟩ | ⟨-, -, rfl, frame, joined, framed⟩
    · obtain ⟨frame, accepted, framed⟩ := indexed.framed request object position present same
      exact ⟨frame, getElem?_initial step.accepts accepted, stream ▸ framed⟩
    · exact ⟨frame, by rw [joined]; exact List.getElem?_concat_length, framed⟩
  covered := by
    intro position frame accepted plain
    have earlier : before.accepted[position]? = some frame → ∃ (request : Nat)
        (object : PendingRequest ν), after.requests[request]? = some object ∧
          object.requestIndex = some position := by
      intro old
      obtain ⟨request, object, found, index⟩ := indexed.covered position frame old plain
      have sent : object.owner ≠ .starting := by
        intro starting
        simp [indexed.unsent request object found starting] at index
      obtain ⟨new, reread, same⟩ := step.keepsIndex found sent
      exact ⟨request, new, reread, same.trans index⟩
    rcases step.accepted with same | ⟨request, object, sent, found, -, -, submitted⟩ |
      ⟨request, object, found, joined⟩
    · exact earlier (same ▸ accepted)
    · have joined : after.accepted = before.accepted ++ [sent] := by rw [submitted]; rfl
      rw [joined] at accepted
      rcases getElem?_append_singleton accepted with old | ⟨rfl, rfl⟩
      · exact earlier old
      · refine ⟨request, object.started before.accepted.length, ?_, ?_⟩
        · rw [submitted]
          exact (getElem?_set_found _ found request).trans (if_pos rfl)
        · unfold PendingRequest.started PendingRequest.startTimer
          split <;> rfl
    · rw [joined] at accepted
      rcases getElem?_append_singleton accepted with old | ⟨-, rfl⟩
      · exact earlier old
      · rw [ClientConnection.cancellationFrame_cancels] at plain
        simp at plain

theorem Steps.keepsIndexed (steps : Steps registry codec permits before after)
    (indexed : before.Indexed) : after.Indexed := by
  induction steps with
  | refl => exact indexed
  | tail _ step inductionHypothesis => exact step.keepsIndexed inductionHypothesis

/-- The values of every object come from delivered frames. -/
theorem Steps.sourced (steps : Steps registry codec permits before after)
    (sourced : ∀ (request : Nat) (object : PendingRequest ν),
      before.requests[request]? = some object → object.Sourced registry codec) :
    ∀ (request : Nat) (object : PendingRequest ν),
      after.requests[request]? = some object → object.Sourced registry codec := by
  induction steps with
  | refl => exact sourced
  | tail _ step inductionHypothesis =>
    intro request new found
    rcases step.origin found with ⟨object, present, evolves⟩ | ⟨stream, response, deadline, rfl⟩
    · exact evolves.sourced (inductionHypothesis request object present)
    · exact PendingRequest.create_sourced stream response deadline

/-- No object is lost. -/
theorem Steps.grows (steps : Steps registry codec permits before after) :
    before.requests.length ≤ after.requests.length := by
  induction steps with
  | refl => exact Nat.le_refl _
  | tail _ step inductionHypothesis =>
    refine inductionHypothesis.trans ?_
    rcases step.heap with same | ⟨request, object, new, -, -, written⟩ | ⟨stream, response, deadline, made⟩
    · rw [same]
    · rw [written, List.length_set]
    · rw [made, List.length_append]
      exact Nat.le_add_right _ _

end Ledger

namespace ClientConnection

variable {registry codec} {client after : ClientConnection ν} {event : ClientEvent ν}

/-- A producer that is suspended after a step was so before, or enqueued a request in it. -/
theorem step_held (stepped : client.step registry codec event = some after) {request : Nat}
    {frame : Frame} (holds : after.writeQueue.held request = some frame) :
    client.writeQueue.held request = some frame ∨
      client.Enqueues registry codec event request frame := by
  cases drives : event.drives with
  | false =>
    have undriven : WriteQueue.Undriven (client.Enqueues registry codec event) fun queue =>
        ∀ producer frame, queue.held producer = some frame →
          client.writeQueue.held producer = some frame ∨
            client.Enqueues registry codec event producer frame :=
      WriteQueue.undriven_held fun _ _ => Or.inr
    exact client.step_keeps undriven (fun _ _ => Or.inl) (fun _ _ => id) drives stepped request frame
      holds
  | true =>
    left
    cases client.step_advances stepped with
    | dispatches | leaves => simp [ClientEvent.drives] at drives
    | acts _ acts =>
      cases acts with
      | resumeWriter queue resumed =>
        exact (client.writeQueue.resumeRun_effect queue resumed).1.held ▸ holds
      | writeCompleted queue written completed =>
        exact (client.writeQueue.writeCompleted_effect queue written completed).1.held ▸ holds
      | writeFailed what queue failed =>
        exact (client.writeQueue.writeFailed_effect what queue failed).1.held ▸ holds
      | _ => simp [ClientEvent.drives] at drives

/-- What `start_request` does to the queue. -/
theorem startRequest_queue (type : τ) (value : ν type) (response : τ) (deadline : Option Deadline) :
    (client.startRequest registry codec type value response deadline).writeQueue =
        client.writeQueue ∨
      ∃ frame, client.Enqueues registry codec (.startRequest type value response deadline)
          client.requests.length frame ∧
        (client.startRequest registry codec type value response deadline).writeQueue =
          (client.writeQueue.enqueue client.requests.length frame).1 := by
  unfold startRequest
  split
  · exact Or.inl rfl
  · dsimp only
    split
    · exact Or.inl rfl
    · rename_i stream allocation
      split
      · exact Or.inl rfl
      · rename_i frame encoded
        refine Or.inr ⟨frame,
          .startRequest type value response deadline stream frame allocation encoded, ?_⟩
        rw [afterOffer_queue]
        exact congrArg (fun queue => (WriteQueue.enqueue queue client.requests.length frame).1)
          (emplacePending_queue _ _ stream)

/-- An index given out in a step is the position of the frame the object held, or of the
request enqueued in this step. -/
theorem step_index (consistent : client.ledger.Consistent) (indexed : client.ledger.Indexed)
    (stepped : client.step registry codec event = some after) {request position : Nat}
    {new : PendingRequest ν} (found : after.requests[request]? = some new)
    (index : new.requestIndex = some position) :
    (∃ object, client.requests[request]? = some object ∧ object.requestIndex = some position) ∨
    ∃ frame, after.writeQueue.accepted[position]? = some frame ∧
      (client.writeQueue.held request = some frame ∨
        client.Enqueues registry codec event request frame) := by
  have steps := client.step_steps event after consistent stepped
  rcases steps.indexed found index with old | ⟨⟨ledger, permitted⟩, late⟩
  · exact Or.inl old
  · right
    obtain ⟨frame, accepted, -⟩ := (steps.keepsIndexed indexed).framed request new position found index
    have accepted : after.writeQueue.accepted[position]? = some frame := accepted
    have late : client.writeQueue.accepted.length ≤ position := late
    refine ⟨frame, accepted, ?_⟩
    cases permitted with
    | admitsNew type value response deadline =>
      cases client.step_advances stepped with
      | acts _ acts =>
        cases acts with
        | startRequest type value response deadline =>
          rcases client.startRequest_queue type value response deadline with
            same | ⟨sent, enqueued, queue⟩
          · rw [same, List.getElem?_eq_none late] at accepted
            simp at accepted
          · rw [queue] at accepted
            obtain rfl := (client.writeQueue.enqueue_effect _ sent).accepts accepted late
            exact Or.inr enqueued
    | admitsHeld request =>
      cases client.step_advances stepped with
      | acts _ acts =>
        cases acts with
        | resumeEnqueue request queue result resumed =>
          obtain ⟨sent, holds, offered⟩ :=
            client.writeQueue.resumeEnqueue_effect request queue result resumed
          rw [afterOffer_queue] at accepted
          obtain rfl := offered.accepts accepted late
          exact Or.inl holds

variable (registry codec) in
/-- The frame is the encoding of the value that the object was made for. -/
def Bears (asked : List (Nat × Sigma ν)) (request : Nat) (frame : Frame) : Prop :=
  ∃ call : Sigma ν, (request, call) ∈ asked ∧
    (encodeMessage registry codec call.1 call.2 frame.header.stream).frame = some frame

variable (registry codec) in
/-- The calls of `start_request` that made an object, each with the object's place: every
frame an object holds or has had accepted bears the value of its call. -/
structure Asks (client : ClientConnection ν) (asked : List (Nat × Sigma ν)) : Prop where
  bounded : ∀ entry ∈ asked, entry.1 < client.requests.length
  once : (asked.map Prod.fst).Nodup
  held : ∀ (request : Nat) (frame : Frame), client.writeQueue.held request = some frame →
    Bears registry codec asked request frame
  indexed : ∀ (request : Nat) (object : PendingRequest ν) (position : Nat),
    client.requests[request]? = some object → object.requestIndex = some position →
    ∃ frame, client.writeQueue.accepted[position]? = some frame ∧
      Bears registry codec asked request frame

/-- The calls recorded after a step: a call that made an object joins them. -/
def recordCall (client after : ClientConnection ν) (event : ClientEvent ν)
    (asked : List (Nat × Sigma ν)) : List (Nat × Sigma ν) :=
  match event with
  | .startRequest type value _ _ =>
    if client.requests.length < after.requests.length then
      asked ++ [(client.requests.length, ⟨type, value⟩)]
    else asked
  | _ => asked

omit [DecidableEq τ] in
theorem recordCall_grows (asked : List (Nat × Sigma ν)) :
    asked <+: client.recordCall after event asked := by
  unfold recordCall
  split
  · split
    · exact List.prefix_append _ _
    · exact List.prefix_rfl
  · exact List.prefix_rfl

omit [DecidableEq τ] in
/-- A recorded call was recorded before, or is the one of this step. -/
theorem recordCall_mem {asked : List (Nat × Sigma ν)} {entry : Nat × Sigma ν}
    (member : entry ∈ client.recordCall after event asked) :
    entry ∈ asked ∨ entry.1 = client.requests.length ∧
      client.requests.length < after.requests.length := by
  unfold recordCall at member
  split at member
  · split at member
    · rename_i made
      rcases List.mem_append.mp member with before | new
      · exact Or.inl before
      · rw [List.mem_singleton.mp new]
        exact Or.inr ⟨rfl, made⟩
    · exact Or.inl member
  · exact Or.inl member

omit [DecidableEq τ] in
theorem recordCall_once {asked : List (Nat × Sigma ν)} (once : (asked.map Prod.fst).Nodup)
    (bounded : ∀ entry ∈ asked, entry.1 < client.requests.length) :
    ((client.recordCall after event asked).map Prod.fst).Nodup := by
  unfold recordCall
  split
  · split
    · rw [List.map_append, List.map_singleton, List.nodup_append]
      refine ⟨once, List.nodup_singleton _, ?_⟩
      intro place earlier other last
      obtain ⟨entry, member, rfl⟩ := List.mem_map.mp earlier
      rw [List.mem_singleton.mp last]
      exact Nat.ne_of_lt (bounded entry member)
    · exact once
  · exact once

theorem Bears.grows {asked later : List (Nat × Sigma ν)} {request : Nat} {frame : Frame}
    (bears : Bears registry codec asked request frame) (grows : asked <+: later) :
    Bears registry codec later request frame := by
  obtain ⟨call, member, encoded⟩ := bears
  exact ⟨call, grows.subset member, encoded⟩

/-- The frame enqueued for the object that a step made. -/
theorem Enqueues.bears {request : Nat} {frame : Frame} (asked : List (Nat × Sigma ν))
    (enqueues : client.Enqueues registry codec event request frame)
    (made : request < after.requests.length) :
    Bears registry codec (client.recordCall after event asked) request frame := by
  cases enqueues with
  | startRequest type value response deadline stream frame allocation encoded =>
    refine ⟨⟨type, value⟩, ?_, ?_⟩
    · simp [recordCall, made]
    · rw [(encodeMessage_frame registry codec type value stream .request .none frame encoded).2.2.2.1]
      exact encoded

/-- Every step keeps the calls and the frames together. -/
theorem Asks.step {asked : List (Nat × Sigma ν)} (asks : client.Asks registry codec asked)
    (consistent : client.ledger.Consistent) (indexed : client.ledger.Indexed)
    (stepped : client.step registry codec event = some after) :
    after.Asks registry codec (client.recordCall after event asked) := by
  have steps := client.step_steps event after consistent stepped
  have grows : client.requests.length ≤ after.requests.length := steps.grows
  have recorded : asked <+: client.recordCall after event asked := client.recordCall_grows asked
  constructor
  · intro entry member
    rcases recordCall_mem member with before | ⟨place, made⟩
    · exact (asks.bounded entry before).trans_le grows
    · exact place ▸ made
  · exact recordCall_once asks.once asks.bounded
  · intro request frame holds
    rcases step_held stepped holds with before | enqueued
    · exact (asks.held request frame before).grows recorded
    · obtain ⟨object, found, -⟩ := (steps.consistent consistent).held request frame holds
      exact enqueued.bears asked (List.getElem?_eq_some_iff.mp found).1
  · intro request new position found index
    rcases step_index consistent indexed stepped found index with
      ⟨object, present, same⟩ | ⟨frame, accepted, source⟩
    · obtain ⟨frame, accepted, bears⟩ := asks.indexed request object position present same
      exact ⟨frame, getElem?_initial steps.accepts accepted, bears.grows recorded⟩
    · refine ⟨frame, accepted, ?_⟩
      rcases source with holds | enqueued
      · exact (asks.held request frame holds).grows recorded
      · exact enqueued.bears asked (List.getElem?_eq_some_iff.mp found).1

section Reached

variable {guard : ClientConnection ν → ClientEvent ν → Prop} {limits : WriteQueueLimits}
variable {maximumStreamId : UInt64}

theorem create_asks (limits : WriteQueueLimits) (maximumStreamId : UInt64) :
    (create limits maximumStreamId : ClientConnection ν).Asks registry codec [] where
  bounded := nofun
  once := List.nodup_nil
  held := by simp [create, WriteQueue.create, WriteQueue.held]
  indexed := by simp [create]

theorem Reachable.indexed
    (reachable : Reachable registry codec guard limits maximumStreamId client) :
    client.ledger.Indexed := by
  apply Reachability.Reaches.invariant_of_reached (fun client => client.ledger.Indexed) ?_ ?_
    reachable
  · exact ⟨by simp [create, ledger], by simp [create, ledger],
      by simp [create, ledger, WriteQueue.create]⟩
  · intro before event after reached indexed _ stepped
    exact (before.step_steps event after (Reachable.consistent reached) stepped).keepsIndexed indexed

theorem Reachable.sourced
    (reachable : Reachable registry codec guard limits maximumStreamId client) {request : Nat}
    {object : PendingRequest ν} (found : client.requests[request]? = some object) :
    object.Sourced registry codec := by
  have all : ∀ (request : Nat) (object : PendingRequest ν), client.requests[request]? = some object →
      object.Sourced registry codec := by
    apply Reachability.Reaches.invariant_of_reached (fun client : ClientConnection ν =>
      ∀ (request : Nat) (object : PendingRequest ν), client.requests[request]? = some object →
        object.Sourced registry codec) ?_ ?_ reachable
    · simp [create]
    · intro before event after reached sourced _ stepped
      exact (before.step_steps event after (Reachable.consistent reached) stepped).sourced sourced
  exact all request object found

end Reached

end ClientConnection

end Clients

end Rillnet
