import Rillnet.ServerAnswers

/-!
# Every request is answered

A request that is dispatched while the connection is active is rejected at once or
given to a handler. Errors are offered to the queue once and dropped if they do not
fit, and a response that cannot be encoded is dropped without a word. In the runs
where neither happens, a request whose operation nobody cancelled has exactly one
answer by the time its handler has finished.
-/

namespace Rillnet

theorem Reader.batch_head {reader : Reader} {frame : Frame}
    (head : reader.batch.head? = some frame) : ∃ rest, reader = .dispatching (frame :: rest) := by
  cases reader with
  | dispatching frames =>
    obtain ⟨rest, rfl⟩ := List.head?_eq_some_iff.mp head
    exact ⟨rest, rfl⟩
  | _ => simp [Reader.batch] at head

section Replies

variable {τ : Type} {ν : τ → Type}

/-- The operation is active as long as nobody asked it to stop. -/
def Invocation.Live (object : Invocation ν) : Prop :=
  object.operation.state = .active ∨ object.operation.cancellationRequested = true

section Going

variable {accepted : Nat} {ends : Ending → Prop} {old new : Invocation ν}

/-- A request to stop is never taken back. -/
theorem Invocation.Goes.unasked (goes : old.Goes accepted ends new)
    (activated : old.operation.state ≠ .created)
    (unasked : new.operation.cancellationRequested = false) :
    old.operation.cancellationRequested = false := by
  cases goes with
  | same | started | dropped | suspended => exact unasked
  | cancelled =>
    rw [old.operation.cancel_eq _ activated] at unasked
    split at unasked
    · simp at unasked
    · exact unasked
  | lost =>
    rw [old.operation.lost_eq activated] at unasked
    split at unasked
    · simp at unasked
    · exact unasked
  | undecodable status message offered rejects spawned failure =>
    rw [old.operation.fail_eq _ _ failure] at unasked
    split at unasked
    · exact unasked
    · exact unasked
  | refused operation refuses ready =>
    rcases ready with ⟨-, -, rfl⟩ | ⟨-, rfl⟩
    · exact unasked
    · exact unasked
  | replied operation frame replies framed ready =>
    rcases ready with ⟨-, -, rfl⟩ | ⟨-, rfl⟩
    · exact unasked
    · exact unasked

/-- A coroutine keeps the request it has to decode. -/
theorem Invocation.Goes.decodes [DecidableEq τ] (registry : MessageRegistry τ) (codec : Codec τ ν)
    (goes : old.Goes accepted ends new) :
    (decodeMessage registry codec new.handler.request new.frame).ok =
        (decodeMessage registry codec old.handler.request old.frame).ok ∧
      makeErrorFrame new.stream (decodeMessage registry codec new.handler.request new.frame).status =
        makeErrorFrame old.stream
          (decodeMessage registry codec old.handler.request old.frame).status := by
  cases goes <;> exact ⟨rfl, rfl⟩

/-- Where a coroutine that has not returned comes from. -/
theorem Invocation.Goes.early_stage (goes : old.Goes accepted ends new)
    (activated : old.operation.state ≠ .created)
    (early : new.stage = .spawned ∨ new.stage = .handling) :
    (old.stage = .spawned ∨ old.stage = .handling) ∧ (old.Live → new.Live) := by
  cases goes with
  | same => exact ⟨early, id⟩
  | cancelled =>
    refine ⟨early, fun live => ?_⟩
    unfold Live
    rw [old.operation.cancel_eq _ activated]
    split
    · exact Or.inr rfl
    · exact live
  | lost =>
    refine ⟨early, fun live => ?_⟩
    unfold Live
    rw [old.operation.lost_eq activated]
    split
    · exact Or.inr rfl
    · exact live
  | started argument spawned => exact ⟨Or.inl spawned, id⟩
  | undecodable | dropped | refused | suspended | replied => simp at early

end Going

namespace ServerConnection

variable [DecidableEq τ] (registry : MessageRegistry τ) (codec : Codec τ ν)
variable (server : ServerConnection ν)

/-- The queue takes every error a request is rejected with. The response of an
operation that nobody cancelled can be encoded, and the queue accommodates it. -/
def answersAccepted : ServerEvent ν → Bool
  | .dispatchNext =>
    server.reader.batch.head?.all fun frame =>
      !frame.isRequest || server.isShuttingDown || (server.refusal frame).isNone ||
        !(server.rejects frame).isEmpty
  | .startHandler invocation =>
    server.invocations[invocation]?.all fun object =>
      let request := decodeMessage registry codec object.handler.request object.frame
      object.operation.cancellationRequested || request.ok ||
        !(server.writeQueue.taken (makeErrorFrame object.stream request.status)).isEmpty
  | .handlerReturns invocation type value =>
    server.invocations[invocation]?.all fun object =>
      object.operation.cancellationRequested ||
        ((object.replyFrame registry codec type value).isSome &&
          server.accommodates registry codec (.handlerReturns invocation type value))
  | .resumeEnqueue invocation => server.accommodates registry codec (.resumeEnqueue invocation)
  | _ => true

variable {registry codec server}

/-- The status a request is rejected with by an active connection. -/
def rejectionStatus (request : Frame) : StatusCode :=
  if (peekMessageType request.payload).isNone then .decodeError else .unknownMessageType

omit [DecidableEq τ] in
theorem refusal_status {frame : Frame} {status : StatusCode}
    (serving : server.isShuttingDown = false) (refused : server.refusal frame = some status) :
    status = rejectionStatus frame := by
  unfold refusal at refused
  rw [if_neg (by simp [serving])] at refused
  split at refused
  · simp at refused
  · unfold rejectionStatus
    cases peeked : peekMessageType frame.payload with
    | none =>
      simp only [peeked] at refused
      simpa using refused.symm
    | some messageType =>
      simp only [peeked] at refused
      split at refused
      · simpa using refused.symm
      · simp at refused

omit [DecidableEq τ] in
theorem dispatch_spawns (server : ServerConnection ν) {frame : Frame} (request : frame.isRequest = true)
    (serving : server.isShuttingDown = false) (unrefused : server.refusal frame = none)
    (usable : (server.dispatch frame).transportOpen = true) :
    ∃ handler, (server.dispatch frame).invocations =
      server.invocations ++ [Invocation.spawn frame handler server.dispatched.length] := by
  obtain ⟨type, plain⟩ : frame.header.type = .request ∧
      hasFlag frame.header.flags .cancel = false := by
    simpa [Frame.isRequest] using request
  unfold refusal at unrefused
  unfold dispatch at usable ⊢
  rw [if_neg (by simp [serving])] at unrefused usable ⊢
  rw [if_neg (by simp [type])] at usable ⊢
  split at usable
  · simp [failConnection] at usable
  · rename_i unmarked
    rw [if_neg unmarked]
    rw [if_neg (by simp [plain])] at usable ⊢
    rw [if_neg (by simp [type, unmarked, plain])] at unrefused
    cases peeked : peekMessageType frame.payload with
    | none => simp [peeked] at unrefused
    | some messageType =>
      cases handled : server.handlers.lookup messageType with
      | none => simp [peeked, handled] at unrefused
      | some handler =>
        simp only [peeked, handled] at usable ⊢
        refine ⟨handler, ?_⟩
        unfold spawnHandler at usable ⊢
        split at usable
        · simp at usable
        · rename_i free
          rw [if_neg free]
          rfl

omit [DecidableEq τ] in
/-- A request that an active connection does not refuse is given to a handler, or the
transport is closed. -/
theorem dispatchFrame_spawns {frame : Frame} (rest : List Frame) (request : frame.isRequest = true)
    (serving : server.isShuttingDown = false) (unrefused : server.refusal frame = none)
    (usable : (server.dispatchFrame frame rest).transportOpen = true) :
    ∃ handler, (server.dispatchFrame frame rest).invocations =
      server.invocations ++ [Invocation.spawn frame handler server.dispatched.length] :=
  dispatch_spawns (server.notify
    { type := .messageTransferred, stream := frame.header.stream, inbound := true })
    request serving unrefused usable

omit [DecidableEq τ] in
theorem replied_result {result : WriteResult} {reply frame : Frame}
    (outcome : Ending.replied frame = if result.ok then .replied reply else .refused) :
    reply = frame := by
  cases ok : result.ok with
  | false => simp [ok] at outcome
  | true =>
    rw [ok, if_pos rfl] at outcome
    exact (Ending.replied.inj outcome).symm

/-- The response in which a handler coroutine ends. -/
theorem ending_replied {event : ServerEvent ν} {invocation : Nat} {frame : Frame}
    (ended : server.ending registry codec event = some (invocation, .replied frame)) :
    (∃ type value object, event = .handlerReturns invocation type value ∧
      server.invocations[invocation]? = some object ∧
      object.replyFrame registry codec type value = some frame) ∨
    (event = .resumeEnqueue invocation ∧ server.writeQueue.held invocation = some frame) := by
  rcases server.ending_answered ended (Or.inr ⟨frame, rfl⟩) with
    ⟨type, value, object, reply, result, rfl, found, sends, -, outcome⟩ |
      ⟨reply, queue, result, rfl, holds, -, outcome⟩
  · obtain rfl := replied_result outcome
    exact Or.inl ⟨type, value, object, rfl, found, sends⟩
  · obtain rfl := replied_result outcome
    exact Or.inr ⟨rfl, holds⟩

theorem returning_eq {event : ServerEvent ν} {invocation : Nat} {outcome : Option Frame}
    (returned : (invocation, outcome) ∈ server.returning registry codec event) :
    ∃ type value object, event = .handlerReturns invocation type value ∧
      server.invocations[invocation]? = some object ∧
      outcome = object.replyFrame registry codec type value := by
  cases event with
  | handlerReturns place type value =>
    simp only [returning] at returned
    cases found : server.invocations[place]? with
    | none => simp [found] at returned
    | some object =>
      obtain ⟨rfl, rfl⟩ : invocation = place ∧
          outcome = object.replyFrame registry codec type value := by
        simpa [found] using returned
      exact ⟨type, value, object, rfl, found, rfl⟩
  | _ => simp [returning] at returned

/-- A handler that returns leaves the application's code. -/
theorem returning_leaves {event : ServerEvent ν} {after : ServerConnection ν} {invocation : Nat}
    {outcome : Option Frame} {old new : Invocation ν}
    (stepped : server.step registry codec event = some after)
    (returned : (invocation, outcome) ∈ server.returning registry codec event)
    (found : server.invocations[invocation]? = some old)
    (present : after.invocations[invocation]? = some new) :
    old.stage = .handling ∧ (new.stage = .responding ∨ new.stage = .finished) := by
  obtain ⟨type, value, object, rfl, here, -⟩ := returning_eq returned
  obtain rfl : object = old := Option.some.inj (here.symm.trans found)
  obtain ⟨handling, rfl⟩ : object.stage = .handling ∧
      after = server.handlerReturns registry codec invocation object type value := by
    cases server.step_acts stepped (by simp) with
    | handlerReturns _ _ _ other there handling =>
      obtain rfl : object = other := Option.some.inj (here.symm.trans there)
      exact ⟨handling, rfl⟩
  refine ⟨handling, ?_⟩
  have bound := (List.getElem?_eq_some_iff.mp found).1
  have ended : ∀ server : ServerConnection ν, server.HasEnded invocation →
      server.invocations[invocation]? = some new → new.stage = .finished := by
    rintro server ⟨other, there, finished⟩ present
    obtain rfl : other = new := Option.some.inj (there.symm.trans present)
    exact finished
  unfold handlerReturns at present
  split at present
  · exact Or.inr (ended _ (server.finishHandler_ended invocation bound) present)
  · dsimp only at present
    split at present
    · cases offered : ((server.callOperation invocation fun operation =>
          operation.complete "response ready").1.writeQueue.enqueue invocation _).2 with
      | none =>
        unfold afterOffer at present
        rw [offered] at present
        simp only [modifyInvocation, List.getElem?_modify_eq] at present
        obtain ⟨middle, -, rfl⟩ := Option.map_eq_some_iff.mp present
        exact Or.inl rfl
      | some result =>
        refine Or.inr (ended _ (afterOffer_ended _ invocation offered ?_) present)
        simpa using bound
    · refine Or.inr (ended _ (finishHandler_ended _ invocation ?_) present)
      simpa using bound

end ServerConnection

namespace Audit

variable [DecidableEq τ] {registry : MessageRegistry τ} {codec : Codec τ ν}

/-- The request of a handler has one answer: an error if it cannot be decoded, else
the response that the handler returned. -/
structure Answered (registry : MessageRegistry τ) (codec : Codec τ ν) (audit : Audit ν)
    (invocation : Nat) (object : Invocation ν) : Prop where
  rejected : (decodeMessage registry codec object.handler.request object.frame).ok = false →
    audit.answersTo object.inbound = [makeErrorFrame object.stream
      (decodeMessage registry codec object.handler.request object.frame).status]
  replied : ∀ outcome, (invocation, outcome) ∈ audit.returned →
    ∃ frame, outcome = some frame ∧ audit.answersTo object.inbound = [frame]

/-- How far the handler of a request is with its answer. -/
structure Progress (registry : MessageRegistry τ) (codec : Codec τ ν) (audit : Audit ν)
    (invocation : Nat) (object : Invocation ν) : Prop where
  early : object.stage = .spawned ∨ object.stage = .handling →
    object.Live ∧ ∀ outcome, (invocation, outcome) ∉ audit.returned
  decoded : object.stage = .handling ∨ object.stage = .responding →
    (decodeMessage registry codec object.handler.request object.frame).ok = true
  waiting : object.stage = .responding → ∀ outcome frame, (invocation, outcome) ∈ audit.returned →
    audit.server.writeQueue.held invocation = some frame → outcome = some frame
  done : object.stage = .finished → audit.server.transportOpen = true →
    object.operation.cancellationRequested = false →
    audit.Answered registry codec invocation object

section Ending

variable {audit : Audit ν} {event : ServerEvent ν} {after : ServerConnection ν}
  {invocation : Nat} {ending : Ending} {object new : Invocation ν} {accepted : Nat}
variable (answering : audit.server.answersAccepted registry codec event = true)
variable (ended : audit.server.ending registry codec event = some (invocation, ending))
variable (found : audit.server.invocations[invocation]? = some object)
variable (unasked : object.operation.cancellationRequested = false)
include answering ended found unasked

/-- A request that cannot be decoded is answered with an error. -/
theorem rejection_taken {offered : List Frame} (rejected : ending = .rejected offered) :
    offered = [makeErrorFrame object.stream
      (decodeMessage registry codec object.handler.request object.frame).status] := by
  subst rejected
  obtain ⟨rfl, failed, rfl⟩ := ServerConnection.ending_rejected ended found
  rcases audit.server.writeQueue.taken_kind (makeErrorFrame object.stream
    (decodeMessage registry codec object.handler.request object.frame).status) with none | one
  · simp [ServerConnection.answersAccepted, found, unasked, failed, none] at answering
  · exact one

/-- No response is refused. -/
theorem unrefused {guard : ServerConnection ν → ServerEvent ν → Prop} {limits : WriteQueueLimits}
    (reachable : ServerConnection.Reachable registry codec guard limits audit.server)
    (stepped : audit.server.step registry codec event = some after) : ending ≠ .refused := by
  rintro rfl
  have accommodates : audit.server.accommodates registry codec event = true := by
    rcases audit.server.ending_refused ended with ⟨type, value, other, frame, result, rfl, here, -⟩ |
      ⟨frame, queue, result, rfl, -⟩
    · obtain ⟨-, fits⟩ : _ ∧ audit.server.accommodates registry codec
          (.handlerReturns invocation type value) = true := by
        simpa [ServerConnection.answersAccepted, found, unasked] using answering
      exact fits
    · exact answering
  exact reachable.accommodated stepped accommodates invocation ended

variable (progress : audit.Progress registry codec invocation object)
include progress

/-- A handler says nothing only if it threw. -/
theorem Progress.threw (silent : ending = .silent) (handling : object.stage = .handling)
    (outcome : Option Frame) :
    (invocation, outcome) ∉ audit.returned ++ audit.server.returning registry codec event := by
  subst silent
  obtain ⟨live, unreturned⟩ := progress.early (Or.inr handling)
  intro member
  rcases List.mem_append.mp member with earlier | now
  · exact unreturned outcome earlier
  · obtain ⟨type, value, other, rfl, here, -⟩ := ServerConnection.returning_eq now
    obtain rfl : other = object := Option.some.inj (here.symm.trans found)
    have active := live.resolve_right (by simp [unasked])
    obtain ⟨sends, -⟩ : (other.replyFrame registry codec type value).isSome = true ∧ _ := by
      simpa [ServerConnection.answersAccepted, found, unasked] using answering
    obtain ⟨frame, encoded⟩ := Option.isSome_iff_exists.mp sends
    simp only [ServerConnection.ending, found, Option.bind_some, encoded, active, if_true] at ended
    obtain ⟨result, -, same⟩ := Option.map_eq_some_iff.mp ended
    cases ok : result.ok <;> simp [ok] at same

omit answering unasked in
/-- The frame a handler replies with is the response it returned. -/
theorem Progress.replies {frame : Frame} (replied : ending = .replied frame)
    (sound : audit.server.book.Sound)
    (stepped : audit.server.step registry codec event = some after)
    (present : after.invocations[invocation]? = some new) (outcome : Option Frame)
    (returned : (invocation, outcome) ∈
      audit.returned ++ audit.server.returning registry codec event) : outcome = some frame := by
  subst replied
  rcases List.mem_append.mp returned with earlier | now
  · rcases ServerConnection.ending_replied ended with ⟨type, value, other, rfl, here, -⟩ |
      ⟨rfl, holds⟩
    · have own : (invocation, other.replyFrame registry codec type value) ∈
          audit.server.returning registry codec (.handlerReturns invocation type value) := by
        simp [ServerConnection.returning, here]
      have handling := (ServerConnection.returning_leaves stepped own found present).1
      exact absurd earlier ((progress.early (Or.inr handling)).2 outcome)
    · obtain ⟨other, here, responding, -⟩ := sound.held invocation frame holds
      obtain rfl : other = object := Option.some.inj (here.symm.trans found)
      exact progress.waiting responding outcome frame earlier holds
  · obtain ⟨type, value, other, rfl, here, rfl⟩ := ServerConnection.returning_eq now
    rcases ServerConnection.ending_replied ended with ⟨type, value, again, same, there, sends⟩ |
      ⟨resumes, -⟩
    · cases same
      obtain rfl : again = other := Option.some.inj (there.symm.trans here)
      exact sends
    · simp at resumes

/-- A handler whose operation nobody cancelled has answered its request when it
ends. -/
theorem Progress.answers {limits : WriteQueueLimits}
    (reachable : ServerConnection.Reachable registry codec Reachability.unguarded limits audit.server)
    (stepped : audit.server.step registry codec event = some after)
    (running : object.stage ≠ .finished) (present : after.invocations[invocation]? = some new)
    (finished : new.stage = .finished) (goes : object.Goes accepted (· = ending) new) :
    ((decodeMessage registry codec object.handler.request object.frame).ok = false →
      ending.offered = [makeErrorFrame object.stream
        (decodeMessage registry codec object.handler.request object.frame).status]) ∧
    ∀ outcome, (invocation, outcome) ∈
        audit.returned ++ audit.server.returning registry codec event →
      ∃ frame, outcome = some frame ∧ ending.offered = [frame] := by
  cases goes with
  | same | cancelled | lost => exact absurd finished running
  | started | suspended => simp at finished
  | undecodable status message offered rejects spawned failure =>
    have taken := rejection_taken answering ended found unasked rejects.symm
    refine ⟨fun _ => by rw [← rejects]; exact taken, ?_⟩
    intro outcome returned
    rcases List.mem_append.mp returned with earlier | now
    · exact absurd earlier ((progress.early (Or.inl spawned)).2 outcome)
    · have handling := (ServerConnection.returning_leaves stepped now found present).1
      simp [spawned] at handling
  | dropped silent handling =>
    constructor
    · intro failed
      have decoded := progress.decoded (Or.inl handling)
      simp [failed] at decoded
    · intro outcome returned
      exact absurd returned
        (Progress.threw answering ended found unasked progress silent.symm handling outcome)
  | refused operation refuses ready =>
    exact absurd refuses.symm (unrefused answering ended found unasked reachable stepped)
  | replied operation frame replies framed ready =>
    have offered : ending.offered = [frame] := by
      rw [← replies]
      rfl
    constructor
    · intro failed
      have decoded := progress.decoded (by
        rcases ready with ⟨handling, -⟩ | ⟨responding, -⟩
        · exact Or.inl handling
        · exact Or.inr responding)
      simp [failed] at decoded
    · intro outcome returned
      have sound := (ServerConnection.Reachable.wired reachable).sound
      exact ⟨frame, Progress.replies ended found progress replies.symm sound stepped present outcome
        returned, offered⟩

end Ending

section Steps

variable {audit after : Audit ν} {event : ServerEvent ν}

/-- An answer stays the only one. -/
theorem answersTo_kept (stepped : audit.step registry codec event = some after)
    (accounted : after.Accounted registry codec) {use : Nat} {frame : Frame}
    (answered : audit.answersTo use = [frame]) : after.answersTo use = [frame] := by
  obtain ⟨server, -, rfl⟩ := step_eq stepped
  have once := accounted.once use
  simp only [answersTo, List.filter_append, List.map_append] at once answered ⊢
  rw [answered] at once ⊢
  simp only [List.length_append, List.length_singleton] at once
  have none : (List.map Prod.snd (List.filter (fun answer => decide (answer.1 = use))
      (audit.server.answering registry codec event))).length = 0 := by
    omega
  rw [List.length_eq_zero_iff.mp none]
  rfl

theorem step_open (stepped : audit.step registry codec event = some after)
    (usable : after.server.transportOpen = true) : audit.server.transportOpen = true := by
  obtain ⟨server, moved, rfl⟩ := step_eq stepped
  cases before : audit.server.transportOpen with
  | true => rfl
  | false =>
    have closed : server.transportOpen = false :=
      (audit.server.step_turn event server moved).severs before
    simp [closed] at usable

variable {invocation : Nat} {object new : Invocation ν}
variable (sound : audit.server.book.Sound)
variable (progress : audit.Progress registry codec invocation object)
variable (stepped : audit.step registry codec event = some after)
variable (found : audit.server.invocations[invocation]? = some object)
variable (present : after.server.invocations[invocation]? = some new)
include sound progress stepped found present

/-- The response a suspended coroutine holds is the one its handler returned. -/
theorem Progress.still_waiting (outcome : Option Frame) (frame : Frame)
    (returned : (invocation, outcome) ∈ after.returned)
    (holds : after.server.writeQueue.held invocation = some frame) : outcome = some frame := by
  obtain ⟨server, moved, rfl⟩ := step_eq stepped
  -- a frame held before was held by a coroutine that had returned already
  have old : audit.server.writeQueue.held invocation = some frame → outcome = some frame := by
    intro held
    obtain ⟨other, here, waiting, -⟩ := sound.held invocation frame held
    obtain rfl : other = object := Option.some.inj (here.symm.trans found)
    rcases List.mem_append.mp returned with earlier | now
    · exact progress.waiting waiting outcome frame earlier held
    · have handling := (ServerConnection.returning_leaves moved now found present).1
      simp [waiting] at handling
  rcases audit.server.step_book sound event server moved with same | step
  · exact old ((congrArg (fun book : Book ν => book.held invocation) same).symm.trans holds)
  · rcases step.holds holds with held | waits
    · exact old held
    · cases waits with
      | waits _ other type value _ returns here sends =>
        subst returns
        have own : (invocation, other.replyFrame registry codec type value) ∈
            audit.server.returning registry codec (.handlerReturns invocation type value) := by
          simp [ServerConnection.returning, here]
        have handling := (ServerConnection.returning_leaves moved own found present).1
        rcases List.mem_append.mp returned with earlier | now
        · exact absurd earlier ((progress.early (Or.inr handling)).2 outcome)
        · have same : outcome = other.replyFrame registry codec type value := by
            simpa [ServerConnection.returning, here] using now
          exact same.trans sends

/-- A coroutine that runs on keeps what is known about it. -/
theorem Progress.runs :
    (new.stage = .spawned ∨ new.stage = .handling →
      new.Live ∧ ∀ outcome, (invocation, outcome) ∉ after.returned) ∧
    (new.stage = .handling ∨ new.stage = .responding →
      (decodeMessage registry codec new.handler.request new.frame).ok = true) := by
  have activated := (sound.operation invocation object found).2.2
  obtain ⟨server, moved, rfl⟩ := step_eq stepped
  have quiet : new.stage = .spawned ∨ new.stage = .handling → ∀ outcome,
      (invocation, outcome) ∉ audit.server.returning registry codec event := by
    intro early outcome now
    have left := (ServerConnection.returning_leaves moved now found present).2
    rcases early with stage | stage <;> simp [stage] at left
  have unreturned : (object.stage = .spawned ∨ object.stage = .handling) →
      (new.stage = .spawned ∨ new.stage = .handling) → ∀ outcome,
      (invocation, outcome) ∉ audit.returned ++ audit.server.returning registry codec event := by
    intro before early outcome member
    rcases List.mem_append.mp member with earlier | now
    · exact (progress.early before).2 outcome earlier
    · exact quiet early outcome now
  rcases audit.server.step_book sound event server moved with same | step
  · have again : server.invocations[invocation]? = some object :=
      (congrArg (fun book : Book ν => book.invocations[invocation]?) same).trans found
    obtain rfl : object = new := Option.some.inj (again.symm.trans present)
    exact ⟨fun early => ⟨(progress.early early).1, unreturned early early⟩, progress.decoded⟩
  · obtain ⟨other, there, goes⟩ := step.goes found
    obtain rfl : other = new := Option.some.inj (there.symm.trans present)
    constructor
    · intro early
      obtain ⟨before, lives⟩ := goes.early_stage activated early
      exact ⟨lives (progress.early before).1, unreturned before early⟩
    · intro called
      cases goes with
      | same | cancelled | lost => exact progress.decoded called
      | started argument spawned =>
        have decoded := step.starts found spawned present rfl
        exact decoded
      | suspended handling active => exact progress.decoded (Or.inl handling)
      | undecodable | dropped | refused | replied => simp at called

variable (kept : after.Accounted registry codec)
include kept

/-- A coroutine that was at its end before goes on without an answer. -/
theorem Progress.rests {accepted : Nat} {ends : Ending → Prop}
    (goes : object.Goes accepted ends new) (finished : object.stage = .finished)
    (usable : after.server.transportOpen = true)
    (unasked : new.operation.cancellationRequested = false) :
    after.Answered registry codec invocation new := by
  have activated := (sound.operation invocation object found).2.2
  have answered := progress.done finished (step_open stepped usable)
    (goes.unasked activated unasked)
  obtain ⟨decodes, error⟩ := goes.decodes registry codec
  constructor
  · rw [decodes, error, goes.inbound]
    intro failed
    exact answersTo_kept stepped kept (answered.rejected failed)
  · rw [goes.inbound]
    intro outcome member
    obtain ⟨server, moved, same⟩ := step_eq stepped
    subst same
    rcases List.mem_append.mp member with earlier | now
    · obtain ⟨frame, same, answers⟩ := answered.replied outcome earlier
      exact ⟨frame, same, answersTo_kept stepped kept answers⟩
    · have handling := (ServerConnection.returning_leaves moved now found present).1
      simp [finished] at handling

/-- A coroutine that is at its end has answered, unless its operation was cancelled
or its handler threw. -/
theorem Progress.ends {guard : Audit ν → ServerEvent ν → Prop} {limits : WriteQueueLimits}
    (reachable : Reachable registry codec guard limits audit)
    (accounted : audit.Accounted registry codec)
    (answering : audit.server.transportOpen = true →
      audit.server.answersAccepted registry codec event = true)
    (finished : new.stage = .finished) (usable : after.server.transportOpen = true)
    (unasked : new.operation.cancellationRequested = false) :
    after.Answered registry codec invocation new := by
  have unended : ∀ {accepted : Nat}, object.Goes accepted (fun _ => False) new →
      after.Answered registry codec invocation new := by
    intro accepted goes
    by_cases before : object.stage = .finished
    · exact progress.rests sound stepped found present kept goes before usable unasked
    · cases goes with
      | same | cancelled | lost => exact absurd finished before
      | started | suspended => simp at finished
      | undecodable | dropped | refused | replied => contradiction
  obtain ⟨server, moved, same⟩ := step_eq stepped
  cases audit.server.step_serves sound moved with
  | dispatched frame rest dispatches reading dispatched accepted goes comes =>
    obtain ⟨other, there, going⟩ := goes invocation object found
    subst same
    obtain rfl : other = new := Option.some.inj (there.symm.trans present)
    exact unended going
  | proceeded unread quiet proceeds accepted dispatched =>
    obtain ⟨other, there, going⟩ := proceeds.goes invocation object found
    subst same
    obtain rfl : other = new := Option.some.inj (there.symm.trans present)
    exact unended going
  | ended place ending old moves handles ended here unfinished atEnd goes invocations accepted
      dispatched =>
    have there := getElem?_set_found moves here invocation
    rw [← invocations] at there
    have moved_there : server.invocations[invocation]? = some new := by
      rw [← present, same]
    rw [moved_there] at there
    split at there
    · rename_i own
      subst own
      obtain rfl : old = object := Option.some.inj (here.symm.trans found)
      obtain rfl : new = moves := Option.some.inj there
      have activated := (sound.operation invocation old found).2.2
      obtain ⟨rejected, replied⟩ := progress.answers (answering (step_open stepped usable)) ended
        found (goes.unasked activated unasked) (Reachable.server reachable) moved unfinished
        moved_there finished goes
      -- the coroutine could answer, so its request had no answer before
      have answers : ∀ frame, ending.offered = [frame] → after.answersTo new.inbound = [frame] := by
        intro frame offered
        have added : after.answers = audit.answers ++ ending.offered.map (old.inbound, ·) := by
          rw [same, ServerConnection.answering_ended ended found]
        rw [answersTo_added added, goes.inbound, if_pos rfl]
        rcases goes.offers ended found finished unfinished with none | ⟨_, -, -, may⟩
        · simp [none] at offered
        · rw [accounted.pending invocation old found may, offered]
          rfl
      obtain ⟨decodes, error⟩ := goes.decodes registry codec
      constructor
      · rw [decodes, error]
        exact fun failed => answers _ (rejected failed)
      · intro outcome returned
        rw [same] at returned
        obtain ⟨frame, sent, offered⟩ := replied outcome returned
        exact ⟨frame, sent, answers frame offered⟩
    · obtain rfl : object = new := Option.some.inj (found.symm.trans there.symm)
      exact @unended 0 .same

end Steps

/-- Every request that was dispatched by an active connection has a handler, or was
rejected and answered. -/
structure Served (registry : MessageRegistry τ) (codec : Codec τ ν) (audit : Audit ν) : Prop where
  each : ∀ (invocation : Nat) (object : Invocation ν),
    audit.server.invocations[invocation]? = some object →
    audit.Progress registry codec invocation object
  known : ∀ (invocation : Nat) (outcome : Option Frame), (invocation, outcome) ∈ audit.returned →
    invocation < audit.server.invocations.length
  handled : ∀ use ∈ audit.attended, audit.server.transportOpen = true →
    (∃ (invocation : Nat) (object : Invocation ν),
      audit.server.invocations[invocation]? = some object ∧ object.inbound = use) ∨
    ∃ request, audit.server.dispatched[use]? = some request ∧
      audit.answersTo use = [makeErrorFrame request.header.stream
        (ServerConnection.rejectionStatus request)]

theorem create_served (limits : WriteQueueLimits) :
    (create limits : Audit ν).Served registry codec := by
  constructor
  · simp [create, ServerConnection.create]
  · simp [create]
  · simp [create]

section Serving

variable {audit after : Audit ν} {event : ServerEvent ν}
variable (sound : audit.server.book.Sound) (served : audit.Served registry codec)
variable (stepped : audit.step registry codec event = some after)
variable (kept : after.Accounted registry codec)
include sound stepped

/-- A coroutine is never forgotten. -/
theorem invocation_stays {invocation : Nat} {object : Invocation ν}
    (found : audit.server.invocations[invocation]? = some object) :
    ∃ new, after.server.invocations[invocation]? = some new ∧ new.inbound = object.inbound := by
  obtain ⟨server, moved, rfl⟩ := step_eq stepped
  rcases audit.server.step_book sound event server moved with same | step
  · exact ⟨object,
      (congrArg (fun book : Book ν => book.invocations[invocation]?) same).trans found, rfl⟩
  · obtain ⟨new, present, goes⟩ := step.goes found
    exact ⟨new, present, goes.inbound⟩

include served

theorem Served.stays_known (invocation : Nat) (outcome : Option Frame)
    (returned : (invocation, outcome) ∈ after.returned) :
    invocation < after.server.invocations.length := by
  have grows : ∀ place, place < audit.server.invocations.length →
      place < after.server.invocations.length := by
    intro place bound
    obtain ⟨new, present, -⟩ := invocation_stays sound stepped (List.getElem?_eq_getElem bound)
    exact (List.getElem?_eq_some_iff.mp present).1
  apply grows
  obtain ⟨server, moved, rfl⟩ := step_eq stepped
  rcases List.mem_append.mp returned with earlier | now
  · exact served.known invocation outcome earlier
  · obtain ⟨type, value, object, -, found, -⟩ := ServerConnection.returning_eq now
    exact (List.getElem?_eq_some_iff.mp found).1

omit sound in
/-- A new coroutine has everything before it. -/
theorem Served.spawned {frame : Frame} {handler : RequestHandler τ} {inbound invocation : Nat}
    (fresh : audit.server.invocations[invocation]? = none)
    (dispatches : event = .dispatchNext) :
    after.Progress registry codec invocation (Invocation.spawn frame handler inbound) := by
  have unknown : ∀ outcome, (invocation, outcome) ∉ after.returned := by
    intro outcome returned
    obtain ⟨server, moved, rfl⟩ := step_eq stepped
    subst dispatches
    have earlier : (invocation, outcome) ∈ audit.returned := by
      simpa [ServerConnection.returning] using returned
    have bound := served.known invocation outcome earlier
    have beyond := List.getElem?_eq_none_iff.mp fresh
    omega
  constructor
  · exact fun _ => ⟨Or.inl rfl, unknown⟩
  · simp [Invocation.spawn]
  · simp [Invocation.spawn]
  · simp [Invocation.spawn]

include kept

/-- A request that was dealt with stays dealt with. -/
theorem Served.stays_handled {use : Nat} (member : use ∈ audit.attended)
    (usable : after.server.transportOpen = true) :
    (∃ (invocation : Nat) (object : Invocation ν),
      after.server.invocations[invocation]? = some object ∧ object.inbound = use) ∨
    ∃ request, after.server.dispatched[use]? = some request ∧
      after.answersTo use = [makeErrorFrame request.header.stream
        (ServerConnection.rejectionStatus request)] := by
  rcases served.handled use member (step_open stepped usable) with
    ⟨invocation, object, found, inbound⟩ | ⟨request, present, answered⟩
  · obtain ⟨new, there, same⟩ := invocation_stays sound stepped found
    exact Or.inl ⟨invocation, new, there, same.trans inbound⟩
  · refine Or.inr ⟨request, ?_, answersTo_kept stepped kept answered⟩
    obtain ⟨server, moved, rfl⟩ := step_eq stepped
    rcases audit.server.step_book sound event server moved with same | step
    · exact (congrArg (fun book : Book ν => book.dispatched[use]?) same).trans present
    · exact getElem?_initial step.dispatched present

omit sound served kept in
/-- A request that an active connection dispatches is given to a handler or answered. -/
theorem attends (accounted : audit.Accounted registry codec)
    (answering : audit.server.transportOpen = true →
      audit.server.answersAccepted registry codec event = true)
    {use : Nat} (member : use ∈ audit.server.attending event)
    (usable : after.server.transportOpen = true) :
    (∃ (invocation : Nat) (object : Invocation ν),
      after.server.invocations[invocation]? = some object ∧ object.inbound = use) ∨
    ∃ request, after.server.dispatched[use]? = some request ∧
      after.answersTo use = [makeErrorFrame request.header.stream
        (ServerConnection.rejectionStatus request)] := by
  cases event with
  | dispatchNext =>
    cases head : audit.server.reader.batch.head? with
    | none => simp [ServerConnection.attending, head] at member
    | some frame =>
      obtain ⟨rest, reading⟩ := Reader.batch_head head
      obtain ⟨⟨request, serving⟩, rfl⟩ : (frame.isRequest = true ∧
          audit.server.isShuttingDown = false) ∧ use = audit.server.dispatched.length := by
        simpa [ServerConnection.attending, head] using member
      have usableBefore := step_open stepped usable
      obtain ⟨server, moved, rfl⟩ := step_eq stepped
      obtain rfl : audit.server.dispatchFrame frame rest = server := by
        simpa [ServerConnection.step, reading] using moved
      cases refused : audit.server.refusal frame with
      | none =>
        obtain ⟨handler, invocations⟩ := ServerConnection.dispatchFrame_spawns rest request serving
          refused usable
        refine Or.inl ⟨audit.server.invocations.length,
          Invocation.spawn frame handler audit.server.dispatched.length, ?_, rfl⟩
        rw [invocations]
        exact List.getElem?_concat_length
      | some status =>
        have rejected : audit.server.rejects frame = [makeErrorFrame frame.header.stream
            (ServerConnection.rejectionStatus frame)] := by
          rcases audit.server.rejects_kind frame with none | ⟨other, again, one⟩
          · have answers := answering usableBefore
            simp [ServerConnection.answersAccepted, head, request, serving, refused, none]
              at answers
          · rw [one, ServerConnection.refusal_status serving again]
        refine Or.inr ⟨frame, ?_, ?_⟩
        · rw [audit.server.dispatchFrame_dispatched]
          exact List.getElem?_concat_length
        · have added : audit.answers ++ audit.server.answering registry codec .dispatchNext =
              audit.answers ++ (audit.server.rejects frame).map
                (audit.server.dispatched.length, ·) := by
            simp [ServerConnection.answering, head, useOf_request request]
          rw [answersTo_added added, answersTo_unseen accounted.placed le_rfl, if_pos rfl, rejected]
          rfl
  | _ => simp [ServerConnection.attending] at member

/-- Every step of a connection whose answers are accepted keeps the account of its
requests. -/
theorem Served.step {guard : Audit ν → ServerEvent ν → Prop} {limits : WriteQueueLimits}
    (reachable : Reachable registry codec guard limits audit)
    (accounted : audit.Accounted registry codec)
    (answering : audit.server.transportOpen = true →
      audit.server.answersAccepted registry codec event = true) : after.Served registry codec := by
  -- what is known about the coroutines that were there before
  have goes_on : ∀ (invocation : Nat) (object new : Invocation ν),
      audit.server.invocations[invocation]? = some object →
      after.server.invocations[invocation]? = some new →
      after.Progress registry codec invocation new := by
    intro invocation object new found present
    have progress := served.each invocation object found
    obtain ⟨early, decoded⟩ := progress.runs sound stepped found present
    exact ⟨early, decoded, fun _ => progress.still_waiting sound stepped found present,
      progress.ends sound stepped found present kept reachable accounted answering⟩
  refine ⟨?_, served.stays_known sound stepped, ?_⟩
  · intro invocation new present
    cases found : audit.server.invocations[invocation]? with
    | some object => exact goes_on invocation object new found present
    | none =>
      obtain ⟨server, moved, same⟩ := step_eq stepped
      rcases audit.server.step_book sound event server moved with unchanged | step
      · have again : after.server.invocations[invocation]? = none := by
          rw [same]
          exact (congrArg (fun book : Book ν => book.invocations[invocation]?) unchanged).trans found
        simp [again] at present
      · have there : server.invocations[invocation]? = some new := by
          rw [← present, same]
        rcases step.comes there with ⟨object, before, -⟩ | ⟨frame, handler, brought, -, -, rfl⟩
        · have before : audit.server.invocations[invocation]? = some object := before
          simp [found] at before
        · cases brought with
          | reads _ rest dispatches reading => exact served.spawned stepped found dispatches
  · intro use member usable
    obtain ⟨server, moved, same⟩ := step_eq stepped
    have cases : use ∈ audit.attended ++ audit.server.attending event := by
      rw [same] at member
      exact member
    rcases List.mem_append.mp cases with earlier | now
    · exact served.stays_handled sound stepped kept earlier usable
    · exact attends stepped accounted answering now usable

end Serving

/-- The event answers no request twice, and while the transport is open the queue
accepts every error and every response it asks for. -/
def AnswersEachOnce (registry : MessageRegistry τ) (codec : Codec τ ν) (audit : Audit ν)
    (event : ServerEvent ν) : Prop :=
  audit.answersNoneTwice registry codec event = true ∧
    (audit.server.transportOpen = true → audit.server.answersAccepted registry codec event = true)

instance (registry : MessageRegistry τ) (codec : Codec τ ν) (audit : Audit ν)
    (event : ServerEvent ν) : Decidable (AnswersEachOnce registry codec audit event) :=
  inferInstanceAs (Decidable (_ ∧ _))

theorem Reachable.served {limits : WriteQueueLimits} {audit : Audit ν}
    (reachable : Reachable registry codec (AnswersEachOnce registry codec) limits audit) :
    audit.Served registry codec := by
  apply Reachability.Reaches.invariant_of_reached (Served registry codec) (create_served limits) ?_
    reachable
  intro before event after reached served allowed stepped
  have reached : Reachable registry codec (AnswersEachOnce registry codec) limits before := reached
  have next : Reachable registry codec (AnswersEachOnce registry codec) limits after :=
    .next reached allowed stepped
  have sound := (ServerConnection.Reachable.wired reached.server).sound
  exact served.step sound stepped (next.accounted fun _ _ => And.left) reached
    (reached.accounted fun _ _ => And.left) allowed.2

/-- The work on a request is over and nobody cancelled it: its handler, if one was
found, returned or could not decode the request. -/
def Settled (registry : MessageRegistry τ) (codec : Codec τ ν) (audit : Audit ν) (use : Nat) :
    Prop :=
  ∀ (invocation : Nat) (object : Invocation ν),
    audit.server.invocations[invocation]? = some object → object.inbound = use →
    object.stage = .finished ∧ object.operation.cancellationRequested = false ∧
      ((decodeMessage registry codec object.handler.request object.frame).ok = false ∨
        ∃ outcome, (invocation, outcome) ∈ audit.returned)

/-- The one frame a request is answered with: an error if no handler is found or the
handler cannot decode it, else the encoded response, or an error if the response cannot
be encoded. -/
structure Answer (registry : MessageRegistry τ) (codec : Codec τ ν) (audit : Audit ν) (use : Nat)
    (request frame : Frame) : Prop where
  only : audit.answersTo use = [frame]
  ends : frame.Ends request.header.stream
  unhandled : (∀ object ∈ audit.server.invocations, object.inbound ≠ use) →
    frame = makeErrorFrame request.header.stream (ServerConnection.rejectionStatus request)
  undecodable : ∀ object ∈ audit.server.invocations, object.inbound = use →
    (decodeMessage registry codec object.handler.request object.frame).ok = false →
    frame = makeErrorFrame request.header.stream
      (decodeMessage registry codec object.handler.request object.frame).status
  returned : ∀ (invocation : Nat) (object : Invocation ν) (reply : Frame),
    audit.server.invocations[invocation]? = some object → object.inbound = use →
    (invocation, some reply) ∈ audit.returned → frame = reply
  unencodable : ∀ (invocation : Nat) (object : Invocation ν),
    audit.server.invocations[invocation]? = some object → object.inbound = use →
    (invocation, none) ∈ audit.returned →
    ∃ status, frame = makeErrorFrame request.header.stream status

/-- The answer of a request whose handler is at its end. -/
theorem Answered.answer {audit : Audit ν} {use invocation : Nat} {object : Invocation ν}
    {request : Frame} (answered : audit.Answered registry codec invocation object)
    (sound : audit.server.book.Sound)
    (dispatched : audit.server.dispatched[use]? = some request)
    (found : audit.server.invocations[invocation]? = some object) (inbound : object.inbound = use)
    (ends : ∀ frame, audit.answersTo use = [frame] → frame.Ends request.header.stream)
    (inactive : (decodeMessage registry codec object.handler.request object.frame).ok = false ∨
      ∃ outcome, (invocation, outcome) ∈ audit.returned) :
    ∃ frame, audit.Answer registry codec use request frame := by
  subst inbound
  have stream : object.stream = request.header.stream := by
    have present := (sound.inbound invocation object found).1
    have same : object.frame = request := Option.some.inj (present.symm.trans dispatched)
    exact congrArg (fun frame => frame.header.stream) same
  obtain ⟨frame, only⟩ : ∃ frame, audit.answersTo object.inbound = [frame] := by
    rcases inactive with failed | ⟨outcome, returned⟩
    · exact ⟨_, answered.rejected failed⟩
    · obtain ⟨frame, -, answers⟩ := answered.replied outcome returned
      exact ⟨frame, answers⟩
  have is_frame : ∀ other, audit.answersTo object.inbound = [other] → frame = other := by
    intro other answers
    simpa using only.symm.trans answers
  have same : ∀ (place : Nat) (other : Invocation ν),
      audit.server.invocations[place]? = some other → other.inbound = object.inbound →
      place = invocation ∧ other = object := by
    intro place other present again
    obtain rfl := sound.distinct place invocation other object present found again
    exact ⟨rfl, Option.some.inj (present.symm.trans found)⟩
  refine ⟨frame, only, ends frame only, ?_, ?_, ?_, ?_⟩
  · intro nobody
    exact absurd rfl (nobody object (List.mem_of_getElem? found))
  · intro other member again failed
    obtain ⟨place, present⟩ := List.mem_iff_getElem?.mp member
    obtain ⟨-, rfl⟩ := same place other present again
    rw [← stream]
    exact is_frame _ (answered.rejected failed)
  · intro place other reply present again returned
    obtain ⟨rfl, rfl⟩ := same place other present again
    obtain ⟨sent, outcome, answers⟩ := answered.replied (some reply) returned
    rw [Option.some.inj outcome]
    exact is_frame sent answers
  · intro place other present again returned
    obtain ⟨rfl, rfl⟩ := same place other present again
    obtain ⟨sent, outcome, -⟩ := answered.replied none returned
    simp at outcome

/-- No request goes unanswered. In a run that answers each request once, every
request that was dispatched while the connection was active has, once it is settled,
exactly one answer, as long as the transport is open. -/
theorem no_request_unanswered {limits : WriteQueueLimits} {audit : Audit ν}
    (reachable : Reachable registry codec (AnswersEachOnce registry codec) limits audit)
    (usable : audit.server.transportOpen = true) {use : Nat} {request : Frame}
    (attended : use ∈ audit.attended)
    (dispatched : audit.server.dispatched[use]? = some request)
    (settled : audit.Settled registry codec use) :
    ∃ frame, audit.Answer registry codec use request frame := by
  have sound := (ServerConnection.Reachable.wired reachable.server).sound
  have accounted := reachable.accounted fun _ _ => And.left
  have served := reachable.served
  have ends : ∀ frame, audit.answersTo use = [frame] → frame.Ends request.header.stream := by
    intro frame only
    have listed : frame ∈ audit.answersTo use := by simp [only]
    obtain ⟨answer, member, rfl⟩ := List.mem_map.mp listed
    obtain ⟨recorded, place⟩ := List.mem_filter.mp member
    obtain ⟨other, present, ends⟩ := accounted.placed answer recorded
    rw [of_decide_eq_true place, dispatched] at present
    rw [Option.some.inj present]
    exact ends
  by_cases handled : ∃ (invocation : Nat) (object : Invocation ν),
      audit.server.invocations[invocation]? = some object ∧ object.inbound = use
  · obtain ⟨invocation, object, found, inbound⟩ := handled
    obtain ⟨finished, unasked, inactive⟩ := settled invocation object found inbound
    have answered := (served.each invocation object found).done finished usable unasked
    exact answered.answer sound dispatched found inbound ends inactive
  · rcases served.handled use attended usable with handler | ⟨other, present, answered⟩
    · exact absurd handler handled
    · obtain rfl : other = request := Option.some.inj (present.symm.trans dispatched)
      have nobody : ∀ (invocation : Nat) (object : Invocation ν),
          audit.server.invocations[invocation]? = some object → object.inbound ≠ use :=
        fun invocation object found inbound => handled ⟨invocation, object, found, inbound⟩
      refine ⟨_, answered, ends _ answered, fun _ => rfl, ?_, ?_, ?_⟩
      · intro object member inbound
        obtain ⟨invocation, found⟩ := List.mem_iff_getElem?.mp member
        exact absurd inbound (nobody invocation object found)
      · intro invocation object reply found inbound
        exact absurd inbound (nobody invocation object found)
      · intro invocation object found inbound
        exact absurd inbound (nobody invocation object found)

end Audit

end Replies

/-- Three requests for which there is no handler arrive in one read at a connection
whose queue takes one frame. The error for the first one goes to the waiting writer, the
error for the second one fills the queue. -/
def unknownRequests : List (ServerEvent fun _ : Unit => UInt8) :=
  [.run, .startWriter, .startReader, .received (FrameGrammar.encodeFrames
    [byteRequest 1 5 .none, byteRequest 3 6 .none, byteRequest 5 7 .none]), .dispatchNext,
    .dispatchNext, .dispatchNext]

/-- The error for the third request does not fit into the queue, and the request is
never answered. -/
theorem no_request_unanswered_fails :
    ∃ audit : Audit fun _ : Unit => UInt8,
      Audit.Reachable byteRegistry byteCodec Reachability.unguarded
        { maxFrames := 1, maxBytes := 1024 } audit ∧
      audit.server.transportOpen = true ∧ 2 ∈ audit.attended ∧
      audit.server.dispatched[2]? = some (byteRequest 5 7 .none) ∧
      audit.Settled byteRegistry byteCodec 2 ∧
      ¬ ∃ frame, audit.Answer byteRegistry byteCodec 2 (byteRequest 5 7 .none) frame := by
  have reads : (Reachability.run (Audit.step byteRegistry byteCodec) Reachability.unguarded
      (Audit.create { maxFrames := 1, maxBytes := 1024 }) unknownRequests).map
        (fun audit => (audit.server.transportOpen, decide (2 ∈ audit.attended),
          audit.server.dispatched[2]?, audit.server.invocations.length,
          audit.answersTo 2)) =
      some (true, true, some (byteRequest 5 7 .none), 0, []) := by
    decide +kernel
  obtain ⟨audit, reached, facts⟩ := Option.map_eq_some_iff.mp reads
  obtain ⟨usable, attended, dispatched, none, unanswered⟩ :
      audit.server.transportOpen = true ∧ 2 ∈ audit.attended ∧
      audit.server.dispatched[2]? = some (byteRequest 5 7 .none) ∧
      audit.server.invocations.length = 0 ∧ audit.answersTo 2 = [] := by
    simpa only [Prod.mk.injEq, decide_eq_true_eq] using facts
  refine ⟨audit, Reachability.run_reaches _ _ _ _ _ reached, usable, attended, dispatched, ?_, ?_⟩
  · intro invocation object found
    simp [List.length_eq_zero_iff.mp none] at found
  · rintro ⟨frame, answer⟩
    have only := answer.only
    simp [unanswered] at only

/-- A request whose handler returned. -/
theorem no_request_unanswered_returned :
    ∃ audit, Reachability.run (Audit.step byteRegistry byteCodec)
        (Audit.AnswersEachOnce byteRegistry byteCodec) (Audit.create {})
        (serverReads [byteRequest 1 5 .none] ++
          [.dispatchNext, .startHandler 0, .handlerReturns 0 () 9]) = some audit ∧
      ∃ frame, audit.Answer byteRegistry byteCodec 0 (byteRequest 1 5 .none) frame := by
  have reads : (Reachability.run (Audit.step byteRegistry byteCodec)
      (Audit.AnswersEachOnce byteRegistry byteCodec) (Audit.create {})
      (serverReads [byteRequest 1 5 .none] ++
        [.dispatchNext, .startHandler 0, .handlerReturns 0 () 9])).map
        (fun audit => (audit.server.transportOpen, decide (0 ∈ audit.attended),
          audit.server.dispatched[0]?,
          audit.server.invocations.map (fun object => decide (object.stage = .finished) &&
            !object.operation.cancellationRequested), audit.returned.map Prod.fst)) =
      some (true, true, some (byteRequest 1 5 .none), [true], [0]) := by
    decide +kernel
  obtain ⟨audit, reached, facts⟩ := Option.map_eq_some_iff.mp reads
  obtain ⟨usable, attended, dispatched, invocations, returned⟩ :
      audit.server.transportOpen = true ∧ 0 ∈ audit.attended ∧
      audit.server.dispatched[0]? = some (byteRequest 1 5 .none) ∧
      audit.server.invocations.map (fun object => decide (object.stage = .finished) &&
        !object.operation.cancellationRequested) = [true] ∧
      audit.returned.map Prod.fst = [0] := by
    simpa only [Prod.mk.injEq, decide_eq_true_eq] using facts
  refine ⟨audit, reached, Audit.no_request_unanswered (Reachability.run_reaches _ _ _ _ _ reached)
    usable attended dispatched ?_⟩
  intro invocation object found _
  have place : invocation < 1 := by
    have bound := (List.getElem?_eq_some_iff.mp found).1
    have length := congrArg List.length invocations
    simp only [List.length_map, List.length_singleton] at length
    omega
  obtain rfl : invocation = 0 := by omega
  obtain ⟨finished, unasked⟩ : object.stage = .finished ∧
      object.operation.cancellationRequested = false := by
    have first := congrArg List.head? invocations
    simpa [List.head?_eq_getElem?, found] using first
  obtain ⟨outcome, member, same⟩ : ∃ entry ∈ audit.returned, entry.1 = 0 := by
    have listed : 0 ∈ audit.returned.map Prod.fst := by simp [returned]
    simpa using List.mem_map.mp listed
  exact ⟨finished, unasked, Or.inr ⟨outcome.2, same ▸ member⟩⟩

end Rillnet
