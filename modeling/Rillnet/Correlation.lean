import Rillnet.Session

/-!
# Which response belongs to which request

A request that was accepted can be answered while its frame is on its way to the
server, while its handler can still reply, and while the reply is on its way
back. Stream identifiers are handed out again after they were released, possibly
while an earlier request on the stream can still be answered; the answer then
completes the later request. If no identifier is handed out so, every response
belongs to the request it completes.
-/

namespace Rillnet

section Answers

variable {τ : Type} {ν : τ → Type}

/-- The handler can still reply, or its reply has not been dispatched by a client
that has dispatched so many frames. -/
def Invocation.answers (delivered : Nat) (object : Invocation ν) : Bool :=
  match object.stage with
  | .spawned | .handling => decide (object.operation.state = .active)
  | .responding => true
  | .finished => object.reply.any fun position => decide (delivered ≤ position)

/-- What a handler coroutine keeps while it goes on: it loses nothing it replied,
and it can answer only if it could before. -/
structure Invocation.Follows (accepted : Nat) (old new : Invocation ν) : Prop where
  frame : new.frame = old.frame
  inbound : new.inbound = old.inbound
  reply : ∀ position, old.reply = some position → new.reply = some position
  answers : ∀ delivered ≤ accepted, new.answers delivered = true → old.answers delivered = true

theorem Invocation.Follows.same (accepted : Nat) (object : Invocation ν) :
    object.Follows accepted object :=
  ⟨rfl, rfl, fun _ => id, fun _ _ => id⟩

/-- A coroutine that has not finished and only lost its operation. -/
theorem Invocation.Follows.settled {accepted : Nat} {object : Invocation ν}
    (operation : Operation StreamId)
    (settles : operation.state = .active → object.operation.state = .active) :
    object.Follows accepted { object with operation := operation } := by
  refine ⟨rfl, rfl, fun _ => id, ?_⟩
  intro delivered _ answers
  unfold Invocation.answers at answers ⊢
  cases stage : object.stage with
  | spawned =>
    simp only [stage, decide_eq_true_eq] at answers ⊢
    exact settles answers
  | handling =>
    simp only [stage, decide_eq_true_eq] at answers ⊢
    exact settles answers
  | responding => rfl
  | finished => simpa only [stage] using answers

section Books

variable [DecidableEq τ] {registry : MessageRegistry τ} {codec : Codec τ ν} {draining : Prop}
variable {permits : Deed → Prop} {before after : Book ν}

omit [DecidableEq τ] in
/-- A coroutine keeps what it replied, and does not become able to answer. -/
theorem Invocation.Goes.follows {accepted : Nat} {ends : Ending → Prop} {old new : Invocation ν}
    (goes : old.Goes accepted ends new) (activated : old.operation.state ≠ .created)
    (unanswered : old.stage ≠ .finished → old.reply = none) : old.Follows accepted new := by
  cases goes with
  | same => exact .same _ old
  | cancelled =>
    refine .settled _ ?_
    intro still
    rw [old.operation.cancel_eq _ activated] at still
    split at still
    · assumption
    · exact still
  | lost =>
    refine .settled _ ?_
    intro still
    rw [old.operation.lost_eq activated] at still
    split at still
    · assumption
    · exact still
  | started argument spawned =>
    refine ⟨rfl, rfl, fun _ => id, ?_⟩
    intro delivered _ answers
    simpa [Invocation.answers, spawned] using answers
  | undecodable status message offered rejects spawned failure =>
    have silent := unanswered (by simp [spawned])
    refine ⟨rfl, rfl, fun _ => id, ?_⟩
    intro delivered _ answers
    simp [Invocation.answers, silent] at answers
  | dropped silent handling =>
    have silent := unanswered (by simp [handling])
    refine ⟨rfl, rfl, fun _ => id, ?_⟩
    intro delivered _ answers
    simp [Invocation.answers, silent] at answers
  | refused operation refuses ready =>
    have silent := unanswered (by
      rcases ready with ⟨handling, -⟩ | ⟨responding, -⟩
      · simp [handling]
      · simp [responding])
    refine ⟨rfl, rfl, fun _ => id, ?_⟩
    intro delivered _ answers
    simp [Invocation.answers, silent] at answers
  | suspended handling active =>
    refine ⟨rfl, rfl, fun _ => id, ?_⟩
    intro delivered _ _
    simp [Invocation.answers, handling, active]
  | replied operation frame replies framed ready =>
    have silent := unanswered (by
      rcases ready with ⟨handling, -⟩ | ⟨responding, -⟩
      · simp [handling]
      · simp [responding])
    refine ⟨rfl, rfl, ?_, ?_⟩
    · intro position replied
      simp [silent] at replied
    · intro delivered _ _
      rcases ready with ⟨handling, active, -⟩ | ⟨responding, -⟩
      · simp [Invocation.answers, handling, active]
      · simp [Invocation.answers, responding]

omit [DecidableEq τ] in
theorem Book.Sound.follows (sound : before.Sound) {invocation : Nat} {object new : Invocation ν}
    {ends : Ending → Prop} (found : before.invocations[invocation]? = some object)
    (goes : object.Goes before.accepted.length ends new) :
    object.Follows before.accepted.length new :=
  goes.follows (sound.operation invocation object found).2.2 (sound.unanswered found)

/-- Every coroutine after a change was there before, or is new. -/
theorem Book.Step.origin (step : Step registry codec draining permits before after)
    (sound : before.Sound) {invocation : Nat} {new : Invocation ν}
    (found : after.invocations[invocation]? = some new) :
    (∃ object, before.invocations[invocation]? = some object ∧
      object.Follows before.accepted.length new) ∨
    ∃ frame handler, permits (.reads frame) ∧ frame.header.type = .request ∧
      hasFlag frame.header.flags .cancel = false ∧
      new = Invocation.spawn frame handler before.dispatched.length := by
  rcases step.comes found with ⟨object, present, goes⟩ | spawned
  · exact Or.inl ⟨object, present, sound.follows present goes⟩
  · exact Or.inr spawned

/-- No change loses a reply. -/
theorem Book.Step.reply (step : Step registry codec draining permits before after)
    (sound : before.Sound) {invocation : Nat} {object : Invocation ν}
    (found : before.invocations[invocation]? = some object) :
    ∃ new, after.invocations[invocation]? = some new ∧ new.inbound = object.inbound ∧
      ∀ position, object.reply = some position → new.reply = some position := by
  obtain ⟨new, present, goes⟩ := step.goes found
  have follows := sound.follows found goes
  exact ⟨new, present, follows.inbound, follows.reply⟩

end Books

section Ledgers

variable [DecidableEq τ] {registry : MessageRegistry τ} {codec : Codec τ ν}
variable {permits : Ledger ν → Change → Prop} {before after : Ledger ν}

/-- No object goes back to starting, or takes back a stream it released. -/
theorem PendingRequest.Evolves.kept {aborts : Prop} {answers : Nat → Frame → Prop}
    {request new : PendingRequest ν} (evolves : request.Evolves registry codec aborts answers new) :
    (new.owner = .starting → request.owner = .starting) ∧
      (new.streamReleased = false → request.streamReleased = false) := by
  cases evolves with
  | same => exact ⟨id, id⟩
  | started starting index => exact ⟨fun _ => starting, by simp [PendingRequest.started]⟩
  | refused starting operation status message fails =>
    exact ⟨fun _ => starting, by simp [Ledger.refusedObject, PendingRequest.failedWith]⟩
  | refusedLate starting inactive status message =>
    exact ⟨fun _ => starting, by simp [Ledger.refusedObject]⟩
  | touched new touch =>
    cases touch with
    | timer timer started => exact ⟨id, id⟩
    | asyncWait handle => exact ⟨id, id⟩
    | abortWait allowed wait waiting => exact ⟨id, id⟩
    | released handle => exact ⟨fun starting => by simp at starting, id⟩
  | failed operation result release fails =>
    exact ⟨id, fun unreleased => (Bool.or_eq_false_iff.mp unreleased).1⟩
  | dropped inactive => exact ⟨id, by simp⟩
  | returned wait posted member =>
    exact ⟨id, fun unreleased => (Bool.or_eq_false_iff.mp unreleased).1⟩
  | completed active position frame answered =>
    constructor
    · intro starting
      unfold PendingRequest.completedWith PendingRequest.trySend at starting
      split at starting <;> exact starting
    · simp [PendingRequest.completedWith]

/-- A completed operation was delivered a frame. -/
structure PendingRequest.Traced (request : PendingRequest ν) : Prop where
  capacity : request.channel.capacity = 1
  completed : request.operation.state = .completed → request.delivered ≠ []

/-- An active operation's channel takes the response that completes it. -/
theorem PendingRequest.Evolves.traced {aborts : Prop} {answers : Nat → Frame → Prop}
    {request new : PendingRequest ν} (evolves : request.Evolves registry codec aborts answers new)
    (sane : request.Sane) (traced : request.Traced) : new.Traced := by
  have failed : ∀ (operation : Operation StreamId) (result : OperationResult) (release : Bool),
      FailsWith request.operation operation result →
      (request.failedWith operation result release).Traced := by
    intro operation result release fails
    refine ⟨traced.capacity, ?_⟩
    intro completed
    have state : operation.state = .completed := completed
    rcases fails.state with failed | cancelled
    · simp [failed] at state
    · simp [cancelled] at state
  cases evolves with
  | same => exact traced
  | started starting index =>
    unfold PendingRequest.started PendingRequest.startTimer
    split
    · exact ⟨traced.capacity, traced.completed⟩
    · refine ⟨traced.capacity, ?_⟩
      simp only [Operation.setDeadline]
      split <;> exact traced.completed
  | refused starting operation status message fails =>
    exact ⟨(failed operation _ true fails).capacity, (failed operation _ true fails).completed⟩
  | refusedLate starting inactive status message => exact ⟨traced.capacity, traced.completed⟩
  | touched new touch =>
    cases touch with
    | timer timer started => exact ⟨traced.capacity, traced.completed⟩
    | asyncWait handle =>
      exact ⟨(request.channel.receive_capacity _).trans traced.capacity, traced.completed⟩
    | abortWait allowed wait waiting => exact ⟨traced.capacity, traced.completed⟩
    | released handle => exact ⟨traced.capacity, traced.completed⟩
  | failed operation result release fails => exact failed operation result release fails
  | dropped inactive => exact ⟨traced.capacity, traced.completed⟩
  | returned wait posted member => exact ⟨traced.capacity, traced.completed⟩
  | completed active position frame answered =>
    obtain ⟨notClosed, vacant⟩ := sane.vacant active
    obtain ⟨⟨channel, receiver⟩, sent⟩ :=
      PendingRequest.trySend_accepted traced.capacity notClosed vacant frame
    refine ⟨(PendingRequest.completedWith_capacity position frame).trans traced.capacity, ?_⟩
    intro _
    unfold PendingRequest.completedWith PendingRequest.trySend
    simp [sent, PendingRequest.cleaned]

theorem Ledger.Steps.traced (steps : Steps registry codec permits before after)
    (consistent : before.Consistent)
    (traced : ∀ (request : Nat) (object : PendingRequest ν),
      before.requests[request]? = some object → object.Traced) :
    ∀ (request : Nat) (object : PendingRequest ν),
      after.requests[request]? = some object → object.Traced := by
  induction steps with
  | refl => exact traced
  | tail earlier step inductionHypothesis =>
    intro request new found
    rcases step.origin found with ⟨object, present, evolves⟩ | ⟨stream, response, deadline, rfl⟩
    · exact evolves.traced ((Steps.consistent earlier consistent).sane request object present)
        (inductionHypothesis request object present)
    · exact ⟨rfl, nofun⟩

/-- A change submits the frame of a request, registers a request, or moves objects
on and accepts at most a cancellation. -/
theorem Ledger.Step.kinds (step : Step registry codec permits before after) :
    (∃ (request : Nat) (object : PendingRequest ν) (frame : Frame),
      before.requests[request]? = some object ∧ object.owner = .starting ∧
      RequestFrame frame object.stream ∧ after = before.submit request object frame) ∨
    (∃ (stream : StreamId) (response : τ) (deadline : Option Deadline),
      permits before (.registers stream) ∧
      before.streamIds.allocate.2 = .success stream ∧
      after = before.register stream response deadline) ∨
    ((∀ (request : Nat) (new : PendingRequest ν), after.requests[request]? = some new →
        ∃ object, before.requests[request]? = some object ∧
          object.Evolves registry codec (permits before (.abortsWait request))
            (before.Answers permits after request) new ∧
          new.requestIndex = object.requestIndex) ∧
      (after.accepted = before.accepted ∨
        ∃ stream, after.accepted = before.accepted ++ [ClientConnection.cancellationFrame stream])) := by
  have stays : after.requests = before.requests →
      ∀ (request : Nat) (new : PendingRequest ν), after.requests[request]? = some new →
        ∃ object, before.requests[request]? = some object ∧
          object.Evolves registry codec (permits before (.abortsWait request))
            (before.Answers permits after request) new ∧
          new.requestIndex = object.requestIndex := by
    intro same request new found
    exact ⟨new, same ▸ found, .same, rfl⟩
  have moves : ∀ (place : Nat) (old moved : PendingRequest ν),
      before.requests[place]? = some old → after.requests = before.requests.set place moved →
      old.Evolves registry codec (permits before (.abortsWait place))
        (before.Answers permits after place) moved → moved.requestIndex = old.requestIndex →
      ∀ (request : Nat) (new : PendingRequest ν), after.requests[request]? = some new →
        ∃ object, before.requests[request]? = some object ∧
          object.Evolves registry codec (permits before (.abortsWait request))
            (before.Answers permits after request) new ∧
          new.requestIndex = object.requestIndex := by
    intro place old moved present written evolves index request new found
    rw [written] at found
    rcases getElem?_set_cases present found with ⟨rfl, rfl⟩ | ⟨-, kept⟩
    · exact ⟨old, present, evolves, index⟩
    · exact ⟨new, kept, .same, rfl⟩
  cases step with
  | allocated kept => exact Or.inr (Or.inr ⟨stays rfl, Or.inl rfl⟩)
  | registered stream response deadline permitted allocation =>
    exact Or.inr (Or.inl ⟨stream, response, deadline, permitted, allocation, rfl⟩)
  | suspended request object frame found starting framed =>
    exact Or.inr (Or.inr ⟨stays rfl, Or.inl rfl⟩)
  | admitted request object frame permitted found starting framed =>
    exact Or.inl ⟨request, object, frame, found, starting, framed, rfl⟩
  | refused request object operation status message found starting fails =>
    exact Or.inr (Or.inr ⟨moves request object _ found rfl
      (.refused starting operation status message fails) rfl, Or.inl rfl⟩)
  | refusedLate request object status message found starting inactive =>
    exact Or.inr (Or.inr ⟨moves request object _ found rfl
      (.refusedLate starting inactive status message) rfl, Or.inl rfl⟩)
  | touched request object new found touch =>
    have index : new.requestIndex = object.requestIndex := by
      cases touch <;> rfl
    exact Or.inr (Or.inr ⟨moves request object new found rfl (.touched new touch) index,
      Or.inl rfl⟩)
  | abandoned request object operation result release offered permitted found fails kind =>
    refine Or.inr (Or.inr ⟨moves request object _ found rfl
      (.failed operation result release fails) rfl, ?_⟩)
    rcases accept_offered before.accepted kind with same | joined
    · exact Or.inl same
    · exact Or.inr ⟨object.stream, joined⟩
  | failed after permitted fails =>
    obtain ⟨request, object, operation, result, found, fails, rfl⟩ := fails
    exact Or.inr (Or.inr ⟨moves request object _ found rfl
      (.failed operation result false fails) rfl, Or.inl rfl⟩)
  | dropped request object found handle inactive =>
    exact Or.inr (Or.inr ⟨moves request object _ found rfl (.dropped inactive) rfl, Or.inl rfl⟩)
  | returned request object wait posted permitted found member =>
    exact Or.inr (Or.inr ⟨moves request object _ found rfl (.returned wait posted member) rfl,
      Or.inl rfl⟩)
  | completed request object frame permitted found entry active response open_ plain =>
    have index : (object.completedWith before.dispatched.length frame).requestIndex =
        object.requestIndex := by
      unfold PendingRequest.completedWith PendingRequest.trySend
      split <;> rfl
    exact Or.inr (Or.inr ⟨moves request object _ found rfl (.completed active _ frame
      ⟨permitted, rfl, rfl, entry, response, plain, open_⟩) index, Or.inl rfl⟩)
  | rejected request object operation result release offered frame permitted found entry fails kind
      open_ silent =>
    refine Or.inr (Or.inr ⟨moves request object _ found rfl
      (.failed operation result release fails) rfl, ?_⟩)
    rcases accept_offered before.accepted kind with same | joined
    · exact Or.inl same
    · exact Or.inr ⟨object.stream, joined⟩
  | accused frame violation permitted => exact Or.inr (Or.inr ⟨stays rfl, Or.inl rfl⟩)
  | charged violation permitted => exact Or.inr (Or.inr ⟨stays rfl, Or.inl rfl⟩)

/-- Terminal streams are never forgotten. -/
theorem Ledger.Step.terminal (step : Step registry codec permits before after) :
    before.terminalStreams ⊆ after.terminalStreams := by
  have marks : ∀ (ledger : Ledger ν) (frame : Frame),
      ledger.terminalStreams ⊆ (ledger.observe frame).terminalStreams := by
    intro ledger frame
    unfold Ledger.observe
    dsimp only
    split
    · exact Finset.subset_insert _ _
    · exact Finset.Subset.refl _
  cases step
  case completed => exact marks _ _
  case rejected => exact marks _ _
  case failed fails =>
    obtain ⟨_, _, _, _, _, _, rfl⟩ := fails
    exact Finset.Subset.refl _
  all_goals exact Finset.Subset.refl _

end Ledgers

section Correlating

/-- The request at a position among the accepted frames can still be answered:
its frame was not dispatched yet, or its handler answers. -/
def Answering (ledger : Ledger ν) (book : Book ν) (stream : StreamId) (position : Nat) : Prop :=
  (book.dispatched.length ≤ position ∧ ∃ frame, ledger.accepted[position]? = some frame ∧
    hasFlag frame.header.flags .cancel = false ∧ frame.header.stream = stream) ∨
  ∃ (invocation : Nat) (object : Invocation ν), book.invocations[invocation]? = some object ∧
    object.inbound = position ∧ object.stream = stream ∧
    object.answers ledger.dispatched.length = true

/-- No earlier request on the stream can complete a later one: the client accepts
no frame on it any more, or no earlier request is waiting for room in the queue,
on its way to the server, with a handler that can reply, or answered by a frame on
its way back. -/
def Settled (ledger : Ledger ν) (book : Book ν) (stream : StreamId) : Prop :=
  stream ∈ ledger.terminalStreams ∨
    (∀ object ∈ ledger.requests, object.owner = .starting → object.stream ≠ stream) ∧
    (∀ frame ∈ ledger.accepted.drop book.dispatched.length,
      hasFlag frame.header.flags .cancel = false → frame.header.stream ≠ stream) ∧
    ∀ object ∈ book.invocations, object.answers ledger.dispatched.length = true →
      object.stream ≠ stream

instance (ledger : Ledger ν) (book : Book ν) (stream : StreamId) :
    Decidable (Settled ledger book stream) :=
  inferInstanceAs (Decidable (_ ∨ _))

theorem Settled.unanswerable {ledger : Ledger ν} {book : Book ν} {stream : StreamId}
    (settled : Settled ledger book stream) (unmarked : stream ∉ ledger.terminalStreams) :
    (∀ position, ¬ Answering ledger book stream position) ∧
      ∀ (request : Nat) (object : PendingRequest ν), ledger.requests[request]? = some object →
        object.owner = .starting → object.stream ≠ stream := by
  obtain ⟨unstarted, undispatched, unanswered⟩ := settled.resolve_left unmarked
  constructor
  · rintro position (⟨late, frame, accepted, plain, same⟩ |
      ⟨invocation, object, found, -, same, answers⟩)
    · refine undispatched frame ?_ plain same
      apply List.mem_iff_getElem?.mpr
      refine ⟨position - book.dispatched.length, ?_⟩
      rw [List.getElem?_drop, Nat.add_sub_cancel' late]
      exact accepted
    · exact unanswered object (List.mem_of_getElem? found) answers same
  · intro request object found
    exact unstarted object (List.mem_of_getElem? found)

/-- Every request that can be answered belongs to the object that holds its
stream, and every delivered frame is the reply to the object's own request. -/
structure Correlated (ledger : Ledger ν) (book : Book ν) : Prop where
  unsent : ∀ (request : Nat) (object : PendingRequest ν), ledger.requests[request]? = some object →
    object.owner = .starting → object.requestIndex = none
  alone : ∀ (request other : Nat) (object starting : PendingRequest ν),
    ledger.requests[request]? = some object → object.streamReleased = false →
    object.stream ∉ ledger.terminalStreams → ledger.requests[other]? = some starting →
    starting.owner = .starting → starting.stream = object.stream → other = request
  own : ∀ (request : Nat) (object : PendingRequest ν) (position : Nat),
    ledger.requests[request]? = some object → object.streamReleased = false →
    object.stream ∉ ledger.terminalStreams → Answering ledger book object.stream position →
    object.requestIndex = some position
  delivered : ∀ (request : Nat) (object : PendingRequest ν) (position : Nat) (frame : Frame),
    ledger.requests[request]? = some object → (position, frame) ∈ object.delivered →
    ∃ (invocation : Nat) (answerer : Invocation ν),
      book.invocations[invocation]? = some answerer ∧ answerer.reply = some position ∧
      object.requestIndex = some answerer.inbound

/-- What the changes of a client's ledger may rely on. -/
def Vouched (ledger : Ledger ν) (book : Book ν) : Change → Prop
  | .registers stream => Settled ledger book stream
  | .completes _ frame => book.accepted[ledger.dispatched.length]? = some frame
  | _ => True

theorem Invocation.answers_of_le {fewer more : Nat} (object : Invocation ν) (le : fewer ≤ more)
    (answers : object.answers more = true) : object.answers fewer = true := by
  unfold Invocation.answers at answers ⊢
  cases stage : object.stage with
  | finished =>
    simp only [stage, Option.any_eq_true, decide_eq_true_eq] at answers ⊢
    obtain ⟨position, replied, late⟩ := answers
    exact ⟨position, replied, le.trans late⟩
  | spawned => simpa only [stage] using answers
  | handling => simpa only [stage] using answers
  | responding => rfl

section ClientSide

variable {before after : Ledger ν} {book : Book ν}

/-- Fewer requests can be answered when frames were dispatched and only
cancellations accepted. -/
theorem Answering.earlier {stream : StreamId} {position : Nat}
    (answering : Answering after book stream position)
    (dispatched : before.dispatched <+: after.dispatched)
    (accepted : after.accepted = before.accepted ∨ ∃ stream,
      after.accepted = before.accepted ++ [ClientConnection.cancellationFrame stream]) :
    Answering before book stream position := by
  rcases answering with ⟨late, frame, present, plain, same⟩ |
    ⟨invocation, object, found, inbound, same, answers⟩
  · left
    refine ⟨late, frame, ?_, plain, same⟩
    rcases accepted with kept | ⟨cancelled, joined⟩
    · exact kept ▸ present
    · rw [joined] at present
      rcases getElem?_append_singleton present with old | ⟨-, rfl⟩
      · exact old
      · rw [ClientConnection.cancellationFrame_cancels] at plain
        simp at plain
  · right
    exact ⟨invocation, object, found, inbound, same,
      object.answers_of_le dispatched.length_le answers⟩

variable [DecidableEq τ] {registry : MessageRegistry τ} {codec : Codec τ ν}
variable {permits : Ledger ν → Change → Prop}

omit [DecidableEq τ] in
/-- A response that completes an object is the reply to the object's request. -/
theorem Correlated.answered (correlated : Correlated before book) (consistent : before.Consistent)
    (sound : book.Sound) {request position : Nat} {object : PendingRequest ν} {frame : Frame}
    (found : before.requests[request]? = some object)
    (answers : before.Answers permits after request position frame)
    (vouched : Vouched before book (.completes request frame)) :
    ∃ (invocation : Nat) (answerer : Invocation ν),
      book.invocations[invocation]? = some answerer ∧ answerer.reply = some position ∧
      object.requestIndex = some answerer.inbound := by
  have taken : book.accepted[position]? = some frame := by
    rw [answers.position]
    exact vouched
  rcases sound.answers position frame taken with ⟨_, -, status, rfl⟩ |
    ⟨invocation, answerer, present, replied⟩
  · have plain := answers.plain.2
    rw [makeErrorFrame_errs] at plain
    simp at plain
  · obtain ⟨finished, reply, accepted, framed⟩ :=
      sound.reply invocation answerer position present replied
    obtain rfl : frame = reply := Option.some.inj (taken.symm.trans accepted)
    obtain ⟨listed, foundListed, stream, -, live⟩ := consistent.entry _ _ answers.entry
    obtain rfl : object = listed := Option.some.inj (found.symm.trans foundListed)
    have unreleased := (consistent.listed request object found live).2
    refine ⟨invocation, answerer, present, replied, ?_⟩
    apply correlated.own request object _ found unreleased (stream ▸ answers.unmarked)
    right
    refine ⟨invocation, answerer, present, rfl, framed.stream.symm.trans stream.symm, ?_⟩
    simp [Invocation.answers, finished, replied, answers.position]

/-- Objects that only move on stay correlated. -/
theorem Correlated.moved (correlated : Correlated before book) (consistent : before.Consistent)
    (sound : book.Sound) (vouched : ∀ change, permits before change → Vouched before book change)
    (terminal : before.terminalStreams ⊆ after.terminalStreams)
    (dispatched : before.dispatched <+: after.dispatched)
    (origin : ∀ (request : Nat) (new : PendingRequest ν), after.requests[request]? = some new →
      ∃ object, before.requests[request]? = some object ∧
        object.Evolves registry codec (permits before (.abortsWait request))
          (before.Answers permits after request) new ∧
        new.requestIndex = object.requestIndex)
    (accepted : after.accepted = before.accepted ∨ ∃ stream,
      after.accepted = before.accepted ++ [ClientConnection.cancellationFrame stream]) :
    Correlated after book := by
  constructor
  · intro request new found starting
    obtain ⟨object, present, evolves, index⟩ := origin request new found
    rw [index]
    exact correlated.unsent request object present (evolves.kept.1 starting)
  · intro request other new starting found unreleased unmarked foundOther owner same
    obtain ⟨object, present, evolves, -⟩ := origin request new found
    obtain ⟨old, presentOther, evolvesOther, -⟩ := origin other starting foundOther
    refine correlated.alone request other object old present (evolves.kept.2 unreleased) ?_
      presentOther (evolvesOther.kept.1 owner) ?_
    · exact fun marked => unmarked (evolves.stream ▸ terminal marked)
    · exact evolvesOther.stream.symm.trans (same.trans evolves.stream)
  · intro request new position found unreleased unmarked answering
    obtain ⟨object, present, evolves, index⟩ := origin request new found
    rw [index]
    refine correlated.own request object position present (evolves.kept.2 unreleased) ?_ ?_
    · exact fun marked => unmarked (evolves.stream ▸ terminal marked)
    · exact evolves.stream ▸ answering.earlier dispatched accepted
  · intro request new position frame found member
    obtain ⟨object, present, evolves, index⟩ := origin request new found
    rw [index]
    rcases evolves.delivered with same | ⟨where_, what, -, answers, joined, -⟩
    · exact correlated.delivered request object position frame present (same ▸ member)
    · rw [joined] at member
      rcases List.mem_append.mp member with old | added
      · exact correlated.delivered request object position frame present old
      · obtain ⟨rfl, rfl⟩ : position = where_ ∧ frame = what := by simpa using added
        exact correlated.answered consistent sound present answers
          (vouched _ answers.permitted)

omit [DecidableEq τ] in
/-- A request on a settled stream has nothing to be confused with. -/
theorem Correlated.registered (correlated : Correlated before book) (consistent : before.Consistent)
    (stream : StreamId) (response : τ) (deadline : Option Deadline)
    (allocation : before.streamIds.allocate.2 = .success stream)
    (settled : Settled before book stream) :
    Correlated (before.register stream response deadline) book := by
  have reading : ∀ (request : Nat) (object : PendingRequest ν),
      (before.register stream response deadline).requests[request]? = some object →
      before.requests[request]? = some object ∨
        request = before.requests.length ∧
          object = PendingRequest.create stream response deadline :=
    fun request object present => getElem?_append_singleton present
  constructor
  · intro request object found starting
    rcases reading request object found with old | ⟨-, rfl⟩
    · exact correlated.unsent request object old starting
    · rfl
  · intro request other object starting found unreleased unmarked foundOther owner same
    rcases reading request object found with old | ⟨rfl, rfl⟩
    · rcases reading other starting foundOther with oldOther | ⟨rfl, rfl⟩
      · exact correlated.alone request other object starting old unreleased unmarked oldOther owner
          same
      · exact absurd same.symm
          (Ledger.allocated_unused consistent stream allocation old unreleased)
    · rcases reading other starting foundOther with oldOther | ⟨rfl, rfl⟩
      · exact absurd same ((settled.unanswerable unmarked).2 other starting oldOther owner)
      · rfl
  · intro request object position found unreleased unmarked answering
    rcases reading request object found with old | ⟨rfl, rfl⟩
    · exact correlated.own request object position old unreleased unmarked answering
    · exact absurd answering ((settled.unanswerable unmarked).1 position)
  · intro request object position frame found member
    rcases reading request object found with old | ⟨-, rfl⟩
    · exact correlated.delivered request object position frame old member
    · exact absurd member List.not_mem_nil

omit [DecidableEq τ] in
/-- The frame of a request goes to the position its object remembers. -/
theorem Correlated.submitted (correlated : Correlated before book) {request : Nat}
    {object : PendingRequest ν} (frame : Frame) (found : before.requests[request]? = some object)
    (starting : object.owner = .starting) (framed : RequestFrame frame object.stream) :
    Correlated (before.submit request object frame) book := by
  have unsent := correlated.unsent request object found starting
  have index : (object.started before.accepted.length).requestIndex =
      some before.accepted.length := by
    unfold PendingRequest.started PendingRequest.startTimer
    split <;> rfl
  have owner : (object.started before.accepted.length).owner = .handle := by
    unfold PendingRequest.started PendingRequest.startTimer
    split <;> rfl
  have delivered : (object.started before.accepted.length).delivered = object.delivered := by
    unfold PendingRequest.started PendingRequest.startTimer
    split <;> rfl
  have stream : (object.started before.accepted.length).stream = object.stream :=
    PendingRequest.startTimer_stream _
  have released : (object.started before.accepted.length).streamReleased = object.streamReleased :=
    PendingRequest.startTimer_streamReleased _
  have reading : ∀ (place : Nat) (new : PendingRequest ν),
      (before.submit request object frame).requests[place]? = some new →
      (place = request ∧ new = object.started before.accepted.length) ∨
        (place ≠ request ∧ before.requests[place]? = some new) := by
    intro place new present
    exact getElem?_set_cases found present
  -- the new position is the only one that can be answered now and could not before
  have answerable : ∀ (key : StreamId) (position : Nat),
      Answering (before.submit request object frame) book key position →
      Answering before book key position ∨
        position = before.accepted.length ∧ object.stream = key := by
    rintro key position (⟨late, other, present, plain, same⟩ | handled)
    · rcases getElem?_append_singleton present with old | ⟨last, rfl⟩
      · exact Or.inl (Or.inl ⟨late, other, old, plain, same⟩)
      · exact Or.inr ⟨last, framed.stream.symm.trans same⟩
    · exact Or.inl (Or.inr handled)
  constructor
  · intro place new present owned
    rcases reading place new present with ⟨rfl, rfl⟩ | ⟨-, old⟩
    · rw [owner] at owned
      simp at owned
    · exact correlated.unsent place new old owned
  · intro place other new waiting present unreleased unmarked presentOther owned same
    rcases reading other waiting presentOther with ⟨rfl, rfl⟩ | ⟨-, oldOther⟩
    · rw [owner] at owned
      simp at owned
    · rcases reading place new present with ⟨rfl, rfl⟩ | ⟨-, old⟩
      · rw [stream] at unmarked same
        exact correlated.alone place other object waiting found (released ▸ unreleased) unmarked
          oldOther owned same
      · exact correlated.alone place other new waiting old unreleased unmarked oldOther owned same
  · intro place new position present unreleased unmarked answering
    rcases reading place new present with ⟨rfl, rfl⟩ | ⟨elsewhere, old⟩
    · rw [stream] at unmarked answering
      rcases answerable _ position answering with earlier | ⟨rfl, -⟩
      · have claimed := correlated.own place object position found (released ▸ unreleased) unmarked
          earlier
        simp [unsent] at claimed
      · exact index
    · rcases answerable _ position answering with earlier | ⟨-, same⟩
      · exact correlated.own place new position old unreleased unmarked earlier
      · exact absurd (correlated.alone place request new object old unreleased unmarked found
          starting same).symm elsewhere
  · intro place new position other present member
    rcases reading place new present with ⟨rfl, rfl⟩ | ⟨-, old⟩
    · rw [delivered] at member
      obtain ⟨invocation, answerer, -, -, claimed⟩ :=
        correlated.delivered place object position other found member
      simp [unsent] at claimed
    · exact correlated.delivered place new position other old member

/-- Every change of a client's ledger keeps the correlation. -/
theorem Correlated.clientStep (correlated : Correlated before book) (consistent : before.Consistent)
    (sound : book.Sound) (step : Ledger.Step registry codec permits before after)
    (vouched : ∀ change, permits before change → Vouched before book change) :
    Correlated after book := by
  rcases step.kinds with ⟨request, object, frame, found, starting, framed, rfl⟩ |
    ⟨stream, response, deadline, permitted, allocation, rfl⟩ | ⟨origin, accepted⟩
  · exact correlated.submitted frame found starting framed
  · exact correlated.registered consistent stream response deadline allocation
      (vouched _ permitted)
  · exact correlated.moved consistent sound vouched step.terminal step.dispatched origin accepted

theorem Correlated.clientSteps (correlated : Correlated before book)
    (consistent : before.Consistent) (sound : book.Sound)
    (steps : Ledger.Steps registry codec permits before after)
    (vouched : ∀ ledger change, permits ledger change → Vouched ledger book change) :
    Correlated after book := by
  induction steps with
  | refl => exact correlated
  | tail earlier step inductionHypothesis =>
    exact inductionHypothesis.clientStep (Ledger.Steps.consistent earlier consistent) sound step
      (vouched _)

end ClientSide

section ServerSide

variable [DecidableEq τ] {registry : MessageRegistry τ} {codec : Codec τ ν} {draining : Prop}
variable {permits : Deed → Prop} {ledger : Ledger ν} {before after : Book ν}

/-- No change of a server's book makes a request answerable. -/
theorem Answering.already (step : Book.Step registry codec draining permits before after)
    (sound : before.Sound)
    (reads : ∀ frame, permits (.reads frame) →
      ledger.accepted[before.dispatched.length]? = some frame)
    (behind : ledger.dispatched.length ≤ before.accepted.length) {stream : StreamId}
    {position : Nat} (answering : Answering ledger after stream position) :
    Answering ledger before stream position := by
  rcases answering with ⟨late, frame, present, plain, same⟩ |
    ⟨invocation, new, found, rfl, rfl, answers⟩
  · exact Or.inl ⟨step.dispatched.length_le.trans late, frame, present, plain, same⟩
  · rcases step.origin sound found with ⟨object, present, follows⟩ |
      ⟨frame, handler, permitted, -, plain, rfl⟩
    · refine Or.inr ⟨invocation, object, present, follows.inbound.symm, ?_,
        follows.answers _ behind answers⟩
      exact congrArg (fun frame => frame.header.stream) follows.frame.symm
    · exact Or.inl ⟨Nat.le_refl _, frame, reads frame permitted, plain, rfl⟩

/-- Every change of a server's book keeps the correlation. -/
theorem Correlated.serverStep (correlated : Correlated ledger before) (sound : before.Sound)
    (step : Book.Step registry codec draining permits before after)
    (reads : ∀ frame, permits (.reads frame) →
      ledger.accepted[before.dispatched.length]? = some frame)
    (behind : ledger.dispatched.length ≤ before.accepted.length) : Correlated ledger after where
  unsent := correlated.unsent
  alone := correlated.alone
  own := by
    intro request object position found unreleased unmarked answering
    exact correlated.own request object position found unreleased unmarked
      (answering.already step sound reads behind)
  delivered := by
    intro request object position frame found member
    obtain ⟨invocation, answerer, present, replied, index⟩ :=
      correlated.delivered request object position frame found member
    obtain ⟨new, reread, inbound, reply⟩ := step.reply sound present
    exact ⟨invocation, new, reread, reply position replied, inbound ▸ index⟩

end ServerSide

end Correlating

/-- A call of `start_request`. -/
def SessionEvent.startsRequest : SessionEvent ν → Bool
  | .client (.startRequest _ _ _ _) => true
  | _ => false

namespace Session

/-- No request is started on a stream on which an earlier one can still be
answered. -/
def unrecycled (session : Session ν) (event : SessionEvent ν) : Prop :=
  event.startsRequest = true → session.client.isShuttingDown = false →
    ∀ stream ∈ session.client.streamIds.allocate.2.stream,
      Settled session.client.ledger session.server.book stream

instance (session : Session ν) (event : SessionEvent ν) : Decidable (session.unrecycled event) :=
  inferInstanceAs (Decidable (_ → _ → ∀ _ ∈ _, _))

section Runs

variable [DecidableEq τ] {registry : MessageRegistry τ} {codec : Codec τ ν}
variable {before after : Session ν}

/-- The client's own changes are vouched for. -/
theorem Joined.vouched (joined : before.Joined) {event : ClientEvent ν}
    (allowed : before.unrecycled (.client event)) (ledger : Ledger ν) (change : Change)
    (brings : before.client.Brings registry codec after.client event ledger change) :
    Vouched ledger before.server.book change := by
  cases brings with
  | registers type value response deadline stream serving allocation =>
    exact allowed rfl serving stream (by simp [allocation, StreamIdAllocation.success])
  | completes frame rest request reading =>
    have next := (joined.down_next reading).trans joined.server_sent
    exact getElem?_initial next List.getElem?_concat_length
  | leaks | admitsNew | admitsHeld | returns | cancels | timesOut | discards | abortsWait | rejects
  | fails | failsBlaming | accuses | charges => trivial

/-- What the server reads next was accepted by the client. -/
theorem Joined.reads (joined : before.Joined) {event : ServerEvent ν} {frame : Frame}
    (brings : before.server.Brings registry codec event (.reads frame)) :
    before.client.ledger.accepted[before.server.book.dispatched.length]? = some frame := by
  cases brings with
  | reads frame rest _ reading =>
    have next := (joined.up_next reading).trans joined.client_sent
    exact getElem?_initial next List.getElem?_concat_length

/-- Every allowed step keeps the correlation. -/
theorem Joined.correlated {event : SessionEvent ν} (joined : before.Joined)
    (allowed : before.unrecycled event) (stepped : before.step registry codec event = some after)
    (correlated : Correlated before.client.ledger before.server.book) :
    Correlated after.client.ledger after.server.book := by
  rcases step_moves stepped with ⟨move, kind, moved⟩ | ⟨move, -, moved⟩
  · rw [moved.server]
    have allowed : before.unrecycled (.client move) := by
      rcases kind with rfl | ⟨bytes, rfl⟩
      · exact allowed
      · exact nofun
    exact correlated.clientSteps joined.consistent joined.server.sound
      (before.client.step_steps move after.client joined.consistent moved.stepped)
      (joined.vouched allowed)
  · rw [moved.client]
    rcases before.server.step_book joined.server.sound move after.server moved.stepped with
      same | step
    · rw [same]
      exact correlated
    · exact correlated.serverStep joined.server.sound step (fun frame => joined.reads)
        joined.down_dispatched.length_le

variable {clientLimits serverLimits : WriteQueueLimits} {maximumStreamId : UInt64}
variable {session : Session ν}

theorem Reachable.correlated
    (reachable : Reachable registry codec unrecycled clientLimits serverLimits maximumStreamId
      session) : Correlated session.client.ledger session.server.book := by
  apply Reachability.Reaches.invariant_of_reached
    (fun session => Correlated session.client.ledger session.server.book) ?_ ?_ reachable
  · constructor <;> simp [create, ClientConnection.create, ClientConnection.ledger]
  · intro before event after reached correlated allowed stepped
    exact (Reachable.joined reached).correlated allowed stepped correlated

theorem Reachable.traced {guard : Session ν → SessionEvent ν → Prop}
    (reachable : Reachable registry codec guard clientLimits serverLimits maximumStreamId session) :
    ∀ (request : Nat) (object : PendingRequest ν),
      session.client.requests[request]? = some object → object.Traced := by
  apply Reachability.Reaches.invariant_of_reached (fun session : Session ν =>
    ∀ (request : Nat) (object : PendingRequest ν),
      session.client.requests[request]? = some object → object.Traced) ?_ ?_ reachable
  · simp [create, ClientConnection.create]
  · intro before event after reached traced _ stepped
    have joined := Reachable.joined reached
    rcases step_moves stepped with ⟨move, -, moved⟩ | ⟨move, -, moved⟩
    · exact (before.client.step_steps move after.client joined.consistent moved.stepped).traced
        joined.consistent traced
    · rw [moved.client]
      exact traced

variable (registry codec) in
/-- Response correlation. In every run that starts no request on a stream on which
an earlier one can still be answered, a completed operation was delivered exactly
one frame, and that frame is the reply the server accepted for the handler
invocation that the operation's own request frame started. -/
theorem response_correlation (clientLimits serverLimits : WriteQueueLimits)
    (maximumStreamId : UInt64) (session : Session ν)
    (reachable : Reachable registry codec unrecycled clientLimits serverLimits maximumStreamId
      session) (request : Nat) (object : PendingRequest ν)
    (found : session.client.requests[request]? = some object)
    (completed : object.operation.state = .completed) :
    ∃ (position : Nat) (frame : Frame) (invocation : Nat) (answerer : Invocation ν) (sent : Nat),
      object.delivered = [(position, frame)] ∧
      session.server.invocations[invocation]? = some answerer ∧
      answerer.reply = some position ∧
      session.server.writeQueue.accepted[position]? = some frame ∧
      object.requestIndex = some sent ∧ answerer.inbound = sent ∧
      session.client.writeQueue.accepted[sent]? = some answerer.frame ∧
      session.server.dispatched[sent]? = some answerer.frame := by
  have joined := Reachable.joined reachable
  have routed := (Reachable.clientRun reachable).routed
  obtain ⟨⟨position, frame⟩, delivered⟩ : ∃ first, object.delivered = [first] := by
    apply List.length_eq_one_iff.mp
    have some := List.length_pos_of_ne_nil
      ((Reachable.traced reachable request object found).completed completed)
    have single := routed.single request object found
    omega
  have member : (position, frame) ∈ object.delivered := by simp [delivered]
  obtain ⟨invocation, answerer, present, replied, index⟩ :=
    (Reachable.correlated reachable).delivered request object position frame found member
  have dispatched := (routed.routed request object position frame found member).1
  have seen := (joined.server.sound.inbound invocation answerer present).1
  exact ⟨position, frame, invocation, answerer, answerer.inbound, delivered, present, replied,
    getElem?_initial joined.down_dispatched dispatched, index, rfl,
    getElem?_initial joined.up_dispatched seen, seen⟩

end Runs

/-- The two connections start, the client sends a request on the first stream, and
its handler replies. -/
def firstReply : List (SessionEvent fun _ : Unit => UInt8) :=
  [.client .run, .client .startWriter, .client .startReader, .server (.handle () ()), .server .run,
    .server .startWriter, .server .startReader, .client (.startRequest () 5 () none),
    .client .resumeWriter, .serverReads 23, .server .dispatchNext, .server (.startHandler 0),
    .server (.handlerReturns 0 () 9), .server .dispatchNext, .server .resumeWriter]

/-- A run in which the reply is read after the request was cancelled, its stream
released and a second request started on it. -/
def recycledStream : Option (Session fun _ : Unit => UInt8) :=
  Reachability.run (step byteRegistry byteCodec) Reachability.unguarded
    (create {} {} 0xFFFFFFFFFFFFFFFF)
    (firstReply ++ [.client (.cancel 0 "operation cancelled"), .client (.asyncWait 0),
      .client (.resumeWait 0 0), .client (.startRequest () 6 () none), .clientReads 23,
      .client .dispatchNext])

/-- The second request, sent at position two, is completed by the reply to the
first, dispatched at position zero. -/
theorem response_correlation_fails :
    ∃ (session : Session fun _ : Unit => UInt8) (object : PendingRequest fun _ : Unit => UInt8),
      Reachable byteRegistry byteCodec Reachability.unguarded {} {} 0xFFFFFFFFFFFFFFFF session ∧
      session.client.requests[1]? = some object ∧ object.operation.state = .completed ∧
      ¬ ∃ (position : Nat) (frame : Frame) (invocation : Nat)
        (answerer : Invocation fun _ : Unit => UInt8),
        (position, frame) ∈ object.delivered ∧
        session.server.invocations[invocation]? = some answerer ∧
        answerer.reply = some position ∧ object.requestIndex = some answerer.inbound := by
  have reads : recycledStream.bind (fun session => session.client.requests[1]?.map fun object =>
      (object.operation.state, object.requestIndex,
        session.server.invocations.map Invocation.inbound)) =
      some (.completed, some 2, [0]) := by
    decide +kernel
  obtain ⟨session, reached, read⟩ := Option.bind_eq_some_iff.mp reads
  obtain ⟨object, found, facts⟩ := Option.map_eq_some_iff.mp read
  obtain ⟨completed, index, inbounds⟩ : object.operation.state = .completed ∧
      object.requestIndex = some 2 ∧
      session.server.invocations.map Invocation.inbound = [0] := by
    simpa using facts
  refine ⟨session, object, Reachability.run_reaches _ _ _ _ _ reached, found, completed, ?_⟩
  rintro ⟨position, frame, invocation, answerer, -, present, -, claimed⟩
  have listed : answerer.inbound ∈ session.server.invocations.map Invocation.inbound :=
    List.mem_map_of_mem (List.mem_of_getElem? present)
  rw [inbounds] at listed
  rw [index] at claimed
  have zero := List.mem_singleton.mp listed
  have two := Option.some.inj claimed
  omega

/-- A run in which the reply is read before the stream is used again. -/
def answeredStream : Option (Session fun _ : Unit => UInt8) :=
  Reachability.run (step byteRegistry byteCodec) unrecycled (create {} {} 0xFFFFFFFFFFFFFFFF)
    (firstReply ++ [.clientReads 23, .client .dispatchNext, .client .dispatchNext,
      .client (.startRequest () 6 () none)])

/-- The first request is completed by the reply to it. -/
theorem response_correlation_answered :
    ∃ session object, answeredStream = some session ∧
      session.client.requests[0]? = some object ∧ object.operation.state = .completed ∧
      ∃ (position : Nat) (frame : Frame) (invocation : Nat)
        (answerer : Invocation fun _ : Unit => UInt8),
        object.delivered = [(position, frame)] ∧
        session.server.invocations[invocation]? = some answerer ∧
        answerer.reply = some position ∧ object.requestIndex = some answerer.inbound := by
  have reads : answeredStream.bind (fun session => session.client.requests[0]?.map fun object =>
      object.operation.state) = some .completed := by
    decide +kernel
  obtain ⟨session, reached, read⟩ := Option.bind_eq_some_iff.mp reads
  obtain ⟨object, found, completed⟩ := Option.map_eq_some_iff.mp read
  obtain ⟨position, frame, invocation, answerer, sent, delivered, present, replied, -, index,
    inbound, -⟩ := response_correlation byteRegistry byteCodec {} {} 0xFFFFFFFFFFFFFFFF session
      (Reachability.run_reaches _ _ _ _ _ reached) 0 object found completed
  exact ⟨session, object, reached, found, completed, position, frame, invocation, answerer, delivered,
    present, replied, inbound ▸ index⟩

end Session

end Answers

end Rillnet
