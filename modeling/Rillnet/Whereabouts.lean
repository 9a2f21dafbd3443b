import Rillnet.ConnectionDraining
import Rillnet.ServerAnswers
import Rillnet.SidesInStep

/-!
# Where a request is

A request that waits for its answer is somewhere: on its way to the server, with a handler,
or its answer is on the way back. The server may also have given it up, when it ends the
work on a request and no frame for it enters the queue: the handler threw, its response
could not be encoded or was not taken, or the request was refused and the queue had no room
for the error. Beside a session we keep the positions of the requests that were given up.
While both transports are open, every request in the map of the client is in one of these
places.
-/

namespace Rillnet

section Whereabouts

variable {τ : Type} {ν : τ → Type}

/-- The places where a request can be that waits for an answer on its stream. Requests go by
the positions of their frames, `ledger` is the client's and `book` the server's. -/
inductive Whereabouts (ledger : Ledger ν) (book : Book ν) (abandoned : List Nat) (stream : StreamId)
    (position : Nat) : Prop where
  | sent (undelivered : book.dispatched.length ≤ position)
  | attended (invocation : Nat) (object : Invocation ν)
      (found : book.invocations[invocation]? = some object) (inbound : object.inbound = position)
      (unfinished : object.stage ≠ .finished)
  | answered (place : Nat) (frame : Frame) (undelivered : ledger.dispatched.length ≤ place)
      (accepted : book.accepted[place]? = some frame) (answers : frame.header.stream = stream)
  | abandoned (listed : position ∈ abandoned)

/-- Every request in the map whose frame was accepted is somewhere. -/
def Located (ledger : Ledger ν) (book : Book ν) (abandoned : List Nat) : Prop :=
  ∀ (request : Nat) (object : PendingRequest ν) (position : Nat),
    ledger.requests[request]? = some object → object.removed = false →
    object.requestIndex = some position → Whereabouts ledger book abandoned object.stream position

section ClientSide

variable [DecidableEq τ] {registry : MessageRegistry τ} {codec : Codec τ ν}

/-- An object that is taken out of the map does not come back. -/
theorem PendingRequest.Evolves.unremoved {aborts : Prop} {answers : Nat → Frame → Prop}
    {request new : PendingRequest ν} (evolves : request.Evolves registry codec aborts answers new)
    (listed : new.removed = false) : request.removed = false := by
  cases evolves with
  | same => exact listed
  | started starting index => simpa [PendingRequest.started] using listed
  | touched new touch => cases touch <;> exact listed
  | refused | refusedLate | failed | dropped | returned | completed =>
    simp [Ledger.refusedObject, Ledger.returnedObject, PendingRequest.failedWith,
      PendingRequest.completedWith] at listed

/-- What is true of the changes while the client's transport is open: a routed frame is the
next one that the server accepted. -/
def Routes (book : Book ν) (ledger : Ledger ν) : Change → Prop
  | .completes _ frame | .rejects _ frame => book.accepted[ledger.dispatched.length]? = some frame
  | _ => True

variable {permits : Ledger ν → Change → Prop} {before after : Ledger ν}

namespace Ledger

/-- A frame that is dispatched takes the request on its stream out of the map, or is held
against the peer. -/
theorem Step.dispatches (step : Step registry codec permits before after) :
    after.dispatched = before.dispatched ∨
    (∃ request object new frame, before.pending.lookup frame.header.stream = some request ∧
      before.requests[request]? = some object ∧ after.requests = before.requests.set request new ∧
      new.removed = true ∧ after.dispatched = before.dispatched ++ [frame] ∧
      (permits before (.completes request frame) ∨ permits before (.rejects request frame))) ∨
    ∃ violation, after.violations = before.violations ++ [violation] := by
  cases step with
  | completed request object frame permitted found entry =>
    exact Or.inr (Or.inl ⟨request, object, _, frame, entry, found, rfl, rfl, rfl, Or.inl permitted⟩)
  | rejected request object operation result release offered frame permitted found entry =>
    exact Or.inr (Or.inl ⟨request, object, _, frame, entry, found, rfl, rfl, rfl, Or.inr permitted⟩)
  | accused frame violation permitted => exact Or.inr (Or.inr ⟨violation, rfl⟩)
  | failed after permitted fails =>
    obtain ⟨request, object, operation, result, -, -, rfl⟩ := fails
    exact Or.inl rfl
  | _ => exact Or.inl rfl

/-- Violations are only added. -/
theorem Step.violations (step : Step registry codec permits before after) :
    before.violations <+: after.violations := by
  cases step with
  | failed after permitted fails =>
    obtain ⟨request, object, operation, result, -, -, rfl⟩ := fails
    exact List.prefix_rfl
  | accused | charged => exact List.prefix_append _ _
  | _ => exact List.prefix_rfl

/-- A request in the map with an index was there before, or its frame was just accepted. -/
theorem Step.listedBefore (step : Step registry codec permits before after) {request position : Nat}
    {new : PendingRequest ν} (found : after.requests[request]? = some new)
    (listed : new.removed = false) (index : new.requestIndex = some position) :
    (∃ object, before.requests[request]? = some object ∧ object.removed = false ∧
      object.requestIndex = some position ∧ new.stream = object.stream) ∨
    position = before.accepted.length := by
  rcases step.indexed found index with ⟨object, present, same, stream⟩ | ⟨-, -, rfl, -⟩
  · obtain ⟨other, reread, evolves⟩ := step.evolves present
    obtain rfl : new = other := Option.some.inj (found.symm.trans reread)
    exact Or.inl ⟨object, present, evolves.unremoved listed, same, stream⟩
  · exact Or.inr rfl

end Ledger

/-- Once its `start_request` has returned, a request in the map has an index. -/
def PendingRequest.Numbered (request : PendingRequest ν) : Prop :=
  request.removed = false → request.owner ≠ .starting → request.requestIndex.isSome

/-- An object keeps the number its frame was accepted under. -/
theorem PendingRequest.Evolves.numbered {aborts : Prop} {answers : Nat → Frame → Prop}
    {request new : PendingRequest ν} (evolves : request.Evolves registry codec aborts answers new)
    (numbered : request.Numbered) : new.Numbered := by
  intro listed returned
  have unremoved := evolves.unremoved listed
  cases evolves with
  | same => exact numbered listed returned
  | started starting index =>
    unfold PendingRequest.started PendingRequest.startTimer
    split <;> rfl
  | touched new touch =>
    cases touch with
    | timer | asyncWait | abortWait => exact numbered unremoved returned
    | released handle => exact numbered unremoved (by simp [handle])
  | refused | refusedLate | failed | dropped | returned | completed =>
    simp [Ledger.refusedObject, Ledger.returnedObject, PendingRequest.failedWith,
      PendingRequest.completedWith] at listed

/-- Every request that was started has a number. -/
theorem Ledger.Steps.numbered (steps : Ledger.Steps registry codec permits before after)
    (numbered : ∀ (request : Nat) (object : PendingRequest ν),
      before.requests[request]? = some object → object.Numbered) :
    ∀ (request : Nat) (object : PendingRequest ν),
      after.requests[request]? = some object → object.Numbered := by
  induction steps with
  | refl => exact numbered
  | tail _ step inductionHypothesis =>
    intro request new found
    rcases step.origin found with ⟨object, present, evolves⟩ | ⟨stream, response, deadline, rfl⟩
    · exact evolves.numbered (inductionHypothesis request object present)
    · exact fun _ returned => absurd rfl returned

variable {book : Book ν} {abandoned : List Nat}

/-- A change of the client keeps every request located, as long as it holds nothing against
the server. -/
theorem Located.clientStep (located : Located before book abandoned)
    (consistent : before.Consistent) (up : book.dispatched <+: before.accepted)
    (step : Ledger.Step registry codec permits before after)
    (routes : ∀ change, permits before change → Routes book before change)
    (content : after.violations = []) : Located after book abandoned := by
  intro request new position found listed index
  rcases step.listedBefore found listed index with ⟨object, present, kept, same, stream⟩ | rfl
  · rw [stream]
    cases located request object position present kept same with
    | sent undelivered => exact .sent undelivered
    | attended invocation object found inbound unfinished =>
      exact .attended invocation object found inbound unfinished
    | abandoned member => exact .abandoned member
    | answered place frame undelivered accepted answers =>
      rcases step.dispatches with still | ⟨other, old, written, taken, entry, -, requests, removed,
        joined, permitted⟩ | ⟨violation, charged⟩
      · exact .answered place frame (still ▸ undelivered) accepted answers
      · by_cases next : place = before.dispatched.length
        · -- the answer itself is dispatched, and takes the request out of the map
          have next_frame : book.accepted[before.dispatched.length]? = some taken := by
            rcases permitted with completes | rejects
            · exact routes _ completes
            · exact routes _ rejects
          obtain rfl : frame = taken := by
            rw [next, next_frame] at accepted
            exact (Option.some.inj accepted).symm
          have own := (consistent.listed request object present kept).1
          obtain rfl : request = other := by
            rw [← answers, entry] at own
            exact (Option.some.inj own).symm
          rw [requests, getElem?_set_found written present, if_pos rfl] at found
          rw [← Option.some.inj found, removed] at listed
          simp at listed
        · refine .answered place frame ?_ accepted answers
          rw [joined, List.length_append, List.length_singleton]
          omega
      · simp [content] at charged
  · exact .sent up.length_le

/-- A step of the client that reads what the server sent leaves every request located. -/
theorem Located.clientSteps (located : Located before book abandoned)
    (consistent : before.Consistent) (up : book.dispatched <+: before.accepted)
    (steps : Ledger.Steps registry codec permits before after)
    (routes : ∀ ledger change, permits ledger change → Routes book ledger change)
    (content : after.violations = []) : Located after book abandoned := by
  induction steps with
  | refl => exact located
  | tail earlier step inductionHypothesis =>
    have clean := List.prefix_nil.mp (content ▸ step.violations)
    exact (inductionHypothesis clean).clientStep (Ledger.Steps.consistent earlier consistent)
      (up.trans (Ledger.Steps.accepts earlier)) step (routes _) content

end ClientSide

section ServerSide

/-- A handler that goes on without an answer goes on. -/
theorem Invocation.Goes.unfinished {accepted : Nat} {old new : Invocation ν}
    (goes : old.Goes accepted (fun _ => False) new) (unfinished : old.stage ≠ .finished) :
    new.stage ≠ .finished := by
  cases goes with
  | same | cancelled | lost => exact unfinished
  | started | suspended => simp
  | undecodable | dropped | refused | replied => contradiction

namespace ServerConnection

variable [DecidableEq τ] (registry : MessageRegistry τ) (codec : Codec τ ν)
variable (server : ServerConnection ν)

/-- The positions of the requests that an event gives up: no frame for them is accepted. -/
def abandoning : ServerEvent ν → List Nat
  | .dispatchNext =>
    server.reader.batch.head?.elim [] fun frame =>
      if (server.refusal frame).isSome && (server.rejects frame).isEmpty then
        [server.dispatched.length]
      else []
  | event =>
    (server.ending registry codec event).elim [] fun (invocation, ending) =>
      if ending.offered.isEmpty then
        (server.invocations[invocation]?.map Invocation.inbound).toList
      else []

variable {registry codec server}

/-- A handler that ends without an answer abandons its request. -/
theorem abandoning_ended {event : ServerEvent ν} {invocation : Nat} {ending : Ending}
    {object : Invocation ν} (handles : event ≠ .dispatchNext)
    (ended : server.ending registry codec event = some (invocation, ending))
    (found : server.invocations[invocation]? = some object) (silent : ending.offered = []) :
    server.abandoning registry codec event = [object.inbound] := by
  cases event with
  | dispatchNext => exact absurd rfl handles
  | _ => simp [abandoning, ended, found, silent]

omit [DecidableEq τ] in
/-- A request that is not refused is given to a handler, unless it costs the connection. -/
theorem dispatch_attends (server : ServerConnection ν) {frame : Frame}
    (accepted : server.refusal frame = none) (request : frame.isRequest = true)
    (usable : (server.dispatch frame).transportOpen = true) :
    ∃ handler, (server.dispatch frame).invocations =
      server.invocations ++ [Invocation.spawn frame handler server.dispatched.length] := by
  obtain ⟨type, plain⟩ : frame.header.type = .request ∧
      hasFlag frame.header.flags .cancel = false := by
    simpa [Frame.isRequest] using request
  unfold refusal at accepted
  unfold dispatch at usable ⊢
  split at accepted
  · simp at accepted
  · rename_i serving
    rw [if_neg serving] at usable ⊢
    rw [if_neg (not_not.mpr type)] at usable ⊢
    by_cases marked : frame.header.stream ∈ server.terminalStreams
    · rw [if_pos marked] at usable
      simp [failConnection] at usable
    · rw [if_neg marked] at usable ⊢
      simp only [plain, Bool.false_eq_true, if_false] at usable ⊢
      simp only [type, marked, plain, ne_eq, not_true_eq_false, Bool.false_eq_true, or_self,
        if_false] at accepted
      cases peeked : peekMessageType frame.payload with
      | none => simp [peeked] at accepted
      | some messageType =>
        simp only [peeked] at accepted usable ⊢
        cases registered : server.handlers.lookup messageType with
        | none => simp [registered] at accepted
        | some handler =>
          simp only [registered] at usable ⊢
          refine ⟨handler, ?_⟩
          unfold spawnHandler at usable ⊢
          split
          · rename_i busy
            rw [if_pos busy] at usable
            simp at usable
          · rfl

end ServerConnection

variable [DecidableEq τ] {registry : MessageRegistry τ} {codec : Codec τ ν} {ledger : Ledger ν}
variable {before after : ServerConnection ν} {abandoned : List Nat}

/-- The next frame is a request: it is given to a handler, answered with an error, or given
up. -/
theorem Whereabouts.delivered {frame : Frame} {rest : List Frame} {stream : StreamId}
    (framed : RequestFrame frame stream)
    (down : ledger.dispatched <+: before.writeQueue.accepted)
    (reading : before.reader = .dispatching (frame :: rest))
    (usable : (before.dispatchFrame frame rest).transportOpen = true) :
    Whereabouts ledger (before.dispatchFrame frame rest).book
      (abandoned ++ before.abandoning registry codec .dispatchNext) stream
      before.dispatched.length := by
  cases refused : before.refusal frame with
  | none =>
    have request : frame.isRequest = true := by
      simp [Frame.isRequest, framed.type, framed.plain]
    obtain ⟨handler, spawned⟩ := ServerConnection.dispatch_attends
      (before.notify { type := .messageTransferred, stream := frame.header.stream, inbound := true })
      refused request usable
    refine .attended before.invocations.length
      (Invocation.spawn frame handler before.dispatched.length) ?_ rfl (by simp [Invocation.spawn])
    change (before.dispatchFrame frame rest).invocations[before.invocations.length]? = _
    rw [show (before.dispatchFrame frame rest).invocations = _ from spawned]
    exact List.getElem?_concat_length
  | some status =>
    have accepted := before.dispatchFrame_accepted frame rest
    rcases before.rejects_kind frame with none | ⟨other, -, error⟩
    · refine .abandoned (List.mem_append_right _ ?_)
      simp [ServerConnection.abandoning, reading, Reader.batch, refused, none]
    · refine .answered before.writeQueue.accepted.length (makeErrorFrame frame.header.stream other)
        down.length_le ?_ ?_
      · change (before.dispatchFrame frame rest).writeQueue.accepted[_]? = _
        rw [accepted, error]
        exact List.getElem?_concat_length
      · exact (makeErrorFrame_ends _ _).stream.trans framed.stream

/-- A step of the server keeps every request located. -/
theorem Located.serverStep (located : Located ledger before.book abandoned)
    (sound : before.book.Sound) (indexed : ledger.Indexed)
    (up : before.dispatched <+: ledger.accepted)
    (down : ledger.dispatched <+: before.writeQueue.accepted)
    (reads : ∀ frame rest, before.reader = .dispatching (frame :: rest) →
      ledger.accepted[before.dispatched.length]? = some frame)
    {event : ServerEvent ν} (stepped : before.step registry codec event = some after)
    (usable : after.transportOpen = true) :
    Located ledger after.book (abandoned ++ before.abandoning registry codec event) := by
  intro request object position found listed index
  obtain ⟨frame, accepted, framed⟩ := indexed.framed request object position found index
  have place := located request object position found listed index
  cases before.step_serves sound stepped with
  | dispatched next rest dispatches reading dispatched offered goes comes =>
    subst dispatches
    have same : after = before.dispatchFrame next rest := by
      simpa [ServerConnection.step, reading] using stepped.symm
    cases place with
    | sent undelivered =>
      by_cases here : position = before.dispatched.length
      · subst here
        obtain rfl : next = frame :=
          Option.some.inj ((reads next rest reading).symm.trans accepted)
        subst same
        exact .delivered framed down reading usable
      · refine .sent ?_
        change after.dispatched.length ≤ position
        change before.dispatched.length ≤ position at undelivered
        rw [dispatched, List.length_append, List.length_singleton]
        omega
    | attended invocation handler present inbound unfinished =>
      obtain ⟨new, still, moved⟩ := goes invocation handler present
      exact .attended invocation new still (moved.inbound.trans inbound) (moved.unfinished unfinished)
    | answered place answer undelivered taken answers =>
      refine .answered place answer undelivered ?_ answers
      change after.writeQueue.accepted[place]? = some answer
      rw [offered]
      exact getElem?_initial (List.prefix_append before.writeQueue.accepted _) taken
    | abandoned member => exact .abandoned (List.mem_append_left _ member)
  | ended invocation ending old new handles ended present unfinished finished goes written offered
      dispatched =>
    cases place with
    | sent undelivered => exact .sent (show after.dispatched.length ≤ _ from dispatched ▸ undelivered)
    | attended place handler still inbound running =>
      by_cases here : place = invocation
      · -- the handler of this request ends, with an answer or without
        subst here
        obtain rfl : handler = old := Option.some.inj (still.symm.trans present)
        rcases goes.offers ended present finished unfinished with none | ⟨answer, one, ends, -⟩
        · refine .abandoned (List.mem_append_right _ ?_)
          rw [ServerConnection.abandoning_ended handles ended present none]
          simp [inbound]
        · refine .answered before.writeQueue.accepted.length answer down.length_le ?_ ?_
          · change after.writeQueue.accepted[_]? = _
            rw [offered, one]
            exact List.getElem?_concat_length
          · obtain ⟨arrived, -⟩ := sound.inbound place handler present
            rw [inbound] at arrived
            have same := getElem?_initial up arrived
            obtain rfl : frame = handler.frame := Option.some.inj (accepted.symm.trans same)
            exact ends.stream.trans framed.stream
      · refine .attended place handler ?_ inbound running
        change after.invocations[place]? = _
        rw [written, getElem?_set_found new present, if_neg here]
        exact still
    | answered place answer undelivered taken answers =>
      refine .answered place answer undelivered ?_ answers
      change after.writeQueue.accepted[place]? = some answer
      rw [offered]
      exact getElem?_initial (List.prefix_append before.writeQueue.accepted _) taken
    | abandoned member => exact .abandoned (List.mem_append_left _ member)
  | proceeded unread unended proceeds offered dispatched =>
    cases place with
    | sent undelivered => exact .sent (show after.dispatched.length ≤ _ from dispatched ▸ undelivered)
    | attended place handler still inbound running =>
      obtain ⟨new, present, moved⟩ := proceeds.goes place handler still
      exact .attended place new present (moved.inbound.trans inbound) (moved.unfinished running)
    | answered place answer undelivered taken answers =>
      exact .answered place answer undelivered
        (show after.writeQueue.accepted[place]? = _ from offered ▸ taken) answers
    | abandoned member => exact .abandoned (List.mem_append_left _ member)

end ServerSide

/-- Abandoning further requests leaves the others located. -/
theorem Located.more {ledger : Ledger ν} {book : Book ν} {abandoned : List Nat}
    (located : Located ledger book abandoned) (added : List Nat) :
    Located ledger book (abandoned ++ added) := by
  intro request object position found listed index
  cases located request object position found listed index with
  | sent undelivered => exact .sent undelivered
  | attended invocation handler present inbound unfinished =>
    exact .attended invocation handler present inbound unfinished
  | answered place frame undelivered accepted answers =>
    exact .answered place frame undelivered accepted answers
  | abandoned member => exact .abandoned (List.mem_append_left _ member)

variable [DecidableEq τ] (registry : MessageRegistry τ) (codec : Codec τ ν)

/-- In every reachable state every started request has a number. -/
theorem ClientConnection.Reachable.numbered {registry : MessageRegistry τ} {codec : Codec τ ν}
    {guard : ClientConnection ν → ClientEvent ν → Prop} {limits : WriteQueueLimits}
    {maximumStreamId : UInt64} {client : ClientConnection ν}
    (reachable : ClientConnection.Reachable registry codec guard limits maximumStreamId client) :
    ∀ (request : Nat) (object : PendingRequest ν), client.requests[request]? = some object →
      object.Numbered := by
  apply Reachability.Reaches.invariant_of_reached (fun client : ClientConnection ν =>
    ∀ (request : Nat) (object : PendingRequest ν), client.requests[request]? = some object →
      object.Numbered) ?_ ?_ reachable
  · intro request object found
    simp [create] at found
  · intro before event after reached numbered _ stepped
    exact (before.step_steps event after (Reachable.consistent reached) stepped).numbered numbered

/-- A session and the requests that its server gave up. -/
structure Survey (ν : τ → Type) where
  session : Session ν
  abandoned : List Nat := []

/-- The positions of the requests that an event gives up. -/
def Session.abandoning (session : Session ν) : SessionEvent ν → List Nat
  | .server event => session.server.abandoning registry codec event
  | _ => []

namespace Survey

/-- A new session, in which nothing was abandoned. -/
def create (clientLimits serverLimits : WriteQueueLimits) (maximumStreamId : UInt64) :
    Survey ν where
  session := Session.create clientLimits serverLimits maximumStreamId

/-- One step of the session, with the requests given up in it. -/
def step (survey : Survey ν) (event : SessionEvent ν) : Option (Survey ν) :=
  (survey.session.step registry codec event).map fun after => {
    session := after
    abandoned := survey.abandoned ++ survey.session.abandoning registry codec event }

/-- The states reached in the runs of the session that a guard allows. -/
def Reachable (guard : Session ν → SessionEvent ν → Prop) (clientLimits serverLimits : WriteQueueLimits)
    (maximumStreamId : UInt64) : Survey ν → Prop :=
  Reachability.Reaches (step registry codec) (fun survey => guard survey.session)
    (create clientLimits serverLimits maximumStreamId)

section Runs

variable {registry codec} {survey before after : Survey ν} {event : SessionEvent ν}
variable {guard : Session ν → SessionEvent ν → Prop} {clientLimits serverLimits : WriteQueueLimits}
variable {maximumStreamId : UInt64}

/-- The survey is a session with a record of what its server abandoned. -/
theorem step_eq (stepped : survey.step registry codec event = some after) :
    survey.session.step registry codec event = some after.session ∧
      after.abandoned = survey.abandoned ++ survey.session.abandoning registry codec event := by
  obtain ⟨session, moved, rfl⟩ := Option.map_eq_some_iff.mp stepped
  exact ⟨moved, rfl⟩

/-- Without its record a run of the survey is a run of the session. -/
theorem Reachable.session
    (reachable : Reachable registry codec guard clientLimits serverLimits maximumStreamId survey) :
    Session.Reachable registry codec guard clientLimits serverLimits maximumStreamId
      survey.session :=
  Reachability.Reaches.project Survey.session
    (fun _ _ _ allowed stepped => ⟨allowed, (step_eq stepped).1⟩) reachable

/-- Every step keeps the requests located while the transports stay open. -/
theorem step_located (joined : before.session.Joined) (indexed : before.session.client.ledger.Indexed)
    (orderly : after.session.client.shell.Orderly)
    (located : Located before.session.client.ledger before.session.server.book before.abandoned)
    (stepped : before.step registry codec event = some after)
    (clientOpen : after.session.client.transportOpen = true)
    (serverOpen : after.session.server.transportOpen = true) :
    Located after.session.client.ledger after.session.server.book after.abandoned := by
  obtain ⟨moves, added⟩ := step_eq stepped
  rw [added]
  have up : before.session.server.book.dispatched <+: before.session.client.ledger.accepted :=
    joined.up_dispatched
  rcases Session.step_moves moves with ⟨move, -, moved⟩ | ⟨move, kind, moved⟩
  · rw [moved.server]
    have steps := before.session.client.step_steps move after.session.client joined.consistent
      moved.stepped
    apply Located.more
    refine located.clientSteps joined.consistent up (steps.weaken ?_) (fun _ _ => id) ?_
    · intro ledger change brings
      cases brings with
      | completes frame rest request reading | rejects frame rest request reading =>
        have next := (joined.down_next reading).trans joined.server_sent
        exact getElem?_initial next List.getElem?_concat_length
      | _ => trivial
    · by_contra charged
      have closed := (orderly.halted charged).1
      change after.session.client.transportOpen = false at closed
      simp [clientOpen] at closed
  · rw [moved.client]
    have reads : ∀ frame rest, before.session.server.reader = .dispatching (frame :: rest) →
        before.session.client.ledger.accepted[before.session.server.dispatched.length]? =
          some frame := by
      intro frame rest reading
      have next := (joined.up_next reading).trans joined.client_sent
      exact getElem?_initial next List.getElem?_concat_length
    have still := located.serverStep joined.server.sound indexed up joined.down_dispatched reads
      moved.stepped serverOpen
    rcases kind with rfl | ⟨bytes, rfl⟩
    · exact still
    · have none : before.session.server.abandoning registry codec (.received bytes) = [] := rfl
      rw [none, List.append_nil] at still
      exact still.more _

/-- In every reachable state whose transports are open every request is located. -/
theorem Reachable.located
    (reachable : Reachable registry codec guard clientLimits serverLimits maximumStreamId survey)
    (clientOpen : survey.session.client.transportOpen = true)
    (serverOpen : survey.session.server.transportOpen = true) :
    Located survey.session.client.ledger survey.session.server.book survey.abandoned := by
  revert clientOpen serverOpen
  apply Reachability.Reaches.invariant_of_reached (fun survey : Survey ν =>
    survey.session.client.transportOpen = true → survey.session.server.transportOpen = true →
      Located survey.session.client.ledger survey.session.server.book survey.abandoned) ?_ ?_
    reachable
  · intro _ _ request object position found
    simp [create, Session.create, ClientConnection.create, ClientConnection.ledger] at found
  · intro before event after reached located allowed stepped clientOpen serverOpen
    have earlier := Reachable.session reached
    have later := Reachable.session (.next reached allowed stepped)
    have joined := earlier.joined
    have wasOpen : before.session.client.transportOpen = true ∧
        before.session.server.transportOpen = true := by
      rcases Session.step_moves (step_eq stepped).1 with ⟨move, -, moved⟩ | ⟨move, -, moved⟩
      · refine ⟨?_, moved.server ▸ serverOpen⟩
        have turn := before.session.client.step_turn move _ joined.consistent moved.stepped
        by_contra closed
        have severed := turn.severs (Bool.eq_false_iff.mpr closed)
        change after.session.client.transportOpen = false at severed
        simp [clientOpen] at severed
      · refine ⟨moved.client ▸ clientOpen, ?_⟩
        have turn := before.session.server.step_turn move _ moved.stepped
        by_contra closed
        have severed := turn.severs (Bool.eq_false_iff.mpr closed)
        change after.session.server.transportOpen = false at severed
        simp [serverOpen] at severed
    exact step_located joined (ClientConnection.Reachable.indexed earlier.clientRun)
      (ClientConnection.Reachable.orderly later.clientRun) (located wasOpen.1 wasOpen.2) stepped
      clientOpen serverOpen

end Runs

end Survey

end Whereabouts

end Rillnet
